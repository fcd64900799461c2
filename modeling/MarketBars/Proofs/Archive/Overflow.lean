import MarketBars.Proofs.Archive.Extent
import MarketBars.Proofs.Files.Walk
import MarketBars.Proofs.Number.Single

/-!
# Files that end beyond the last position

A feature file begins at the position that its first number stands for, and numbers from 2 ^ 64 on stand for
the largest position there is. Whatever the bytes of its files, an instrument is loaded, or there is an
error that tells what is wrong with them, unless all of them can be read and the values of one go past the
largest position. The files of which this happens are known by their first number.
-/

namespace MarketBars

namespace FeatureSeries

variable {bytes : List UInt8} {s : FeatureSeries}

theorem length_numbers? {numbers : List Binary32} (h : numbers? bytes = some numbers) :
    bytes.length = 4 * numbers.length := by
  induction bytes using numbers?.induct generalizing numbers with
  | case1 =>
    cases h
    rfl
  | case2 a b c d rest ih =>
    obtain ⟨more, hmore, rfl⟩ := Option.map_eq_some_iff.mp h
    have hrest := ih hmore
    simp only [List.length_cons]
    omega
  | case3 bytes hnil hfour => simp [numbers?] at h

theorem decode_eq_ok_iff :
    decode bytes = .ok s ↔ ∃ first values, numbers? bytes = some (first :: values) ∧
      first.index? = some s.start ∧ s.values = values.toArray := by
  rw [decode]
  constructor
  · intro h
    split at h
    · rename_i first values hnumbers
      split at h
      · rename_i start hstart
        cases h
        exact ⟨first, values, hnumbers, hstart, rfl⟩
      · cases h
    · cases h
  · rintro ⟨first, values, hnumbers, hstart, hvalues⟩
    simp only [hnumbers, hstart, ← hvalues]

/-- A file of less than four tebibytes goes past the largest position when its first number is at least
2 ^ 64 and another number follows. -/
theorem decode_overflows_iff (hbytes : bytes.length < twoTo 42) :
    (∃ s, decode bytes = .ok s ∧ ¬ s.Ends) ↔
      ∃ first x rest, numbers? bytes = some (first :: x :: rest) ∧ first.IsBeyond := by
  have hsize : twoTo 42 = 4 * twoTo 40 := by decide
  constructor
  · rintro ⟨s, hs, hends⟩
    obtain ⟨first, values, hnumbers, hstart, hvalues⟩ := decode_eq_ok_iff.mp hs
    have hlength := length_numbers? hnumbers
    rw [List.length_cons] at hlength
    rw [Ends, hvalues, List.size_toArray] at hends
    -- Below 2 ^ 64, single precision leaves room for 2 ^ 40 values after every position.
    rcases Binary32.index?_bounds hstart with ⟨hbeyond, hlast⟩ | ⟨-, hgap⟩
    · cases values with
      | nil => simp [hlast] at hends
      | cons x rest => exact ⟨first, x, rest, hnumbers, hbeyond⟩
    · omega
  · rintro ⟨first, x, rest, hnumbers, hbeyond⟩
    refine ⟨⟨Binary32.maxIndex, (x :: rest).toArray⟩, ?_, ?_⟩
    · exact decode_eq_ok_iff.mpr ⟨first, x :: rest, hnumbers, Binary32.index?_of_isBeyond hbeyond, rfl⟩
    · rw [Ends, List.size_toArray, List.length_cons]
      dsimp only
      omega

end FeatureSeries

section Lookups

variable {calendar : Array Instant} {start stop : Instant}

/-- The positions of a calendar between two instants, where each position of the range is looked up; there
are none if the calendar lacks one of them. -/
def checkedPositions? (calendar : Array Instant) (start stop : Instant) (first last : Nat) :
    Option (List Nat) := do
  let looked ← (List.range' first (last - first)).mapM fun i => calendar[i]?.map fun t => (i, t)
  pure ((looked.filter fun e => decide (start ≤ e.2) && decide (e.2 ≤ stop)).map Prod.fst)

/-- Up to the end of the calendar, every position that is looked up is there. -/
theorem checkedPositions?_eq {last : Nat} (hlast : last ≤ calendar.size) (first : Nat) :
    checkedPositions? calendar start stop first last =
      some (calendarPositions calendar start stop first last) := by
  have hrange : ∀ i ∈ List.range' first (last - first), i < calendar.size := by
    intro i hi
    rw [List.mem_range'_1] at hi
    omega
  rw [checkedPositions?, calendarPositions]
  generalize List.range' first (last - first) = positions at hrange ⊢
  induction positions with
  | nil => rfl
  | cons i rest ih =>
    have hi := hrange i List.mem_cons_self
    have ht := Array.getElem?_eq_getElem hi
    have hrest := ih fun j hj => hrange j (List.mem_cons_of_mem i hj)
    simp only [Option.bind_eq_bind, Option.bind_eq_some_iff, Option.pure_def, Option.some.injEq] at hrest
    obtain ⟨looked, hlooked, hfilter⟩ := hrest
    rw [List.mapM_cons, ht, hlooked, List.filter_cons, ht, ← hfilter]
    by_cases hin : (decide (start ≤ calendar[i]) && decide (calendar[i] ≤ stop)) = true
    · simp [hin]
    · simp [hin]

end Lookups

/-- A result that is a value, or an error that the archive or the table is to blame for. -/
inductive Answers {α : Type} : Except Failure α → Prop where
  | value (got : α) : Answers (.ok got)
  | error {e : DataError} (h : e.cause ∈ ["Archive", "Table"]) : Answers (.error (.error e))

theorem not_answers_fault {α : Type} (fault : Fault) :
    ¬ Answers (.error (.fault fault) : Except Failure α) := nofun

namespace Archive

variable {a : Archive} {symbol : String} {fields : List String} {f : Frequency}
  {calendar : Array Instant} {start stop : Instant}

/-- The file of one of some fields, or the one of the factors, cannot be read. -/
def IsBroken (a : Archive) (symbol : String) (fields : List String) (f : Frequency) : Prop :=
  ∃ field ∈ factorField :: fields, ∃ e, a.feature symbol field f = .error e

/-- Loading an instrument ends with the error of a file, with a table or none when the files fit, or with a
fault when they can be read but do not fit. -/
theorem load_cases (a : Archive) (symbol : String) (fields : List String) (f : Frequency)
    (calendar : Array Instant) (start stop : Instant) :
    (∃ field ∈ factorField :: fields, ∃ e, a.feature symbol field f = .error e ∧
      a.load symbol fields f calendar start stop = .error (.error e)) ∨
    (a.Fits symbol fields f ∧
      (a.load symbol fields f calendar start stop = .ok none ∨ ∃ positions files factor?,
        a.load symbol fields f calendar start stop =
          liftError ((tableAt calendar positions (found files) factor?).map fun t =>
            some (t, lacking files)))) ∨
    (¬ a.IsBroken symbol fields f ∧ ¬ a.Fits symbol fields f ∧
      a.load symbol fields f calendar start stop = .error (.fault .positionRange)) := by
  cases hfiles : a.featureFiles symbol fields f with
  | error e =>
    obtain ⟨field, hfield, hread⟩ := exists_feature_error hfiles
    exact Or.inl ⟨field, List.mem_cons_of_mem _ hfield, e, hread, load_of_files_error hfiles⟩
  | ok files =>
    by_cases hfound : found files = []
    · refine Or.inr (Or.inl ⟨(fits_iff hfiles).mpr ?_, Or.inl (load_of_not_found hfiles hfound)⟩)
      simp [hfound]
    -- The factors are read only when there is something to adjust, and their extent is never asked for.
    cases hfactor : a.feature symbol factorField f with
    | error e =>
      exact Or.inl ⟨factorField, List.mem_cons_self, e, hfactor,
        load_of_factor_error hfiles hfound hfactor⟩
    | ok factor? =>
      cases hlast : FeatureSeries.latestStop? ((found files).map Prod.snd) with
      | some last =>
        have hfits := (fits_iff hfiles).mpr (FeatureSeries.exists_latestStop?_iff.mp ⟨last, hlast⟩)
        exact Or.inr (Or.inl ⟨hfits, Or.inr ⟨_, files, factor?,
          load_of_latestStop? hfiles hfound hfactor hlast⟩⟩)
      | none =>
        refine Or.inr (Or.inr ⟨?_, fun hfits => ?_, load_of_latestStop?_none hfiles hfound hfactor hlast⟩)
        · rintro ⟨field, hfield, e, herror⟩
          rcases List.mem_cons.mp hfield with rfl | hfield
          · rw [hfactor] at herror
            cases herror
          · obtain ⟨series?, hread⟩ := exists_feature_of_featureFiles hfiles field hfield
            rw [hread] at herror
            cases herror
        · obtain ⟨last, hsome⟩ := FeatureSeries.exists_latestStop?_iff.mpr ((fits_iff hfiles).mp hfits)
          rw [hlast] at hsome
          cases hsome

theorem answers_tableAt {α : Type} (calendar : Array Instant) (positions : List Nat)
    (found : List (String × FeatureSeries)) (factor? : Option FeatureSeries) (see : Table → α) :
    Answers (liftError ((tableAt calendar positions found factor?).map see)) := by
  rw [tableAt_eq]
  cases h : Table.ofColumns (positions.filterMap fun i => calendar[i]?)
    (columnsAt positions found factor?) with
  | ok t => exact .value _
  | error e => exact .error (by simp [Table.cause_of_ofColumns_error h])

end Archive

namespace ArchiveFolder

theorem cause_of_feature_error {a : ArchiveFolder} {symbol field : String} {f : Frequency} {e : DataError}
    (h : a.feature symbol field f = .error e) : e.cause = "Archive" := by
  simp only [feature] at h
  split at h
  · split at h
    · cases h
      rfl
    · split at h
      · cases h
        rfl
      · cases h
  · cases h

theorem answers_or_fault (a : ArchiveFolder) (symbol : String) (fields : List String) (f : Frequency)
    (calendar : Array Instant) (start stop : Instant) :
    (Answers (a.archive.load symbol fields f calendar start stop) ∧
      (a.archive.IsBroken symbol fields f ∨ a.archive.Fits symbol fields f)) ∨
    (a.archive.load symbol fields f calendar start stop = .error (.fault .positionRange) ∧
      ¬ (a.archive.IsBroken symbol fields f ∨ a.archive.Fits symbol fields f)) := by
  rcases a.archive.load_cases symbol fields f calendar start stop with
    ⟨field, hfield, e, hread, hload⟩ | ⟨hfits, hload | ⟨positions, files, factor?, hload⟩⟩ |
      ⟨hbroken, hfits, hload⟩
  · have hcause := cause_of_feature_error hread
    rw [hload]
    exact Or.inl ⟨.error (by simp [hcause]), Or.inl ⟨field, hfield, e, hread⟩⟩
  · rw [hload]
    exact Or.inl ⟨.value none, Or.inr hfits⟩
  · rw [hload]
    exact Or.inl ⟨Archive.answers_tableAt _ _ _ _ _, Or.inr hfits⟩
  · exact Or.inr ⟨hload, not_or.mpr ⟨hbroken, hfits⟩⟩

/-- Whatever its files contain, an instrument of an archive has a table or none, or there is an error of the
archive or of the table, unless all its files can be read and one of them goes past the largest position;
this is a fault. The positions of the calendar that are looked up are all there. -/
theorem load_answers_iff (a : ArchiveFolder) (symbol : String) (fields : List String) (f : Frequency)
    (calendar : Array Instant) (start stop : Instant) :
    (Answers (a.archive.load symbol fields f calendar start stop) ↔
      a.archive.IsBroken symbol fields f ∨ a.archive.Fits symbol fields f) ∧
    (¬ Answers (a.archive.load symbol fields f calendar start stop) →
      a.archive.load symbol fields f calendar start stop = .error (.fault .positionRange)) ∧
    (∀ first last, checkedPositions? calendar start stop first (min last calendar.size) =
      some (calendarPositions calendar start stop first (min last calendar.size))) ∧
    ∀ bytes : List UInt8, bytes.length < twoTo 42 →
      ((∃ s, FeatureSeries.decode bytes = .ok s ∧ ¬ s.Ends) ↔
        ∃ first x rest, FeatureSeries.numbers? bytes = some (first :: x :: rest) ∧ first.IsBeyond) := by
  have hends := a.answers_or_fault symbol fields f calendar start stop
  refine ⟨?_, fun hload => ?_, fun first last => checkedPositions?_eq (Nat.min_le_right _ _) first,
    fun bytes hbytes => FeatureSeries.decode_overflows_iff hbytes⟩
  · rcases hends with ⟨hanswers, hfiles⟩ | ⟨hfault, hfiles⟩
    · exact iff_of_true hanswers hfiles
    · rw [hfault]
      exact iff_of_false (not_answers_fault _) hfiles
  · rcases hends with ⟨hanswers, -⟩ | ⟨hfault, -⟩
    · exact absurd hanswers hload
    · exact hfault

/-- A file that begins with 2 ^ 64 and has one value. -/
def farBytes : List UInt8 := [0x00, 0x00, 0x80, 0x5f, 0x00, 0x00, 0x80, 0x3f]

/-- An archive with one file, which goes past the largest position. -/
def farFolder : ArchiveFolder where
  files := ⟨.folder [("features", .folder [("a", .folder [("close.day.bin", .file farBytes)])])], []⟩
  root := ⟨"/"⟩

theorem decode_farBytes :
    FeatureSeries.decode farBytes = .ok ⟨Binary32.maxIndex, #[.ofNat 1]⟩ := by
  decide +kernel

theorem feature_farFolder :
    farFolder.feature "A" "close" .daily = .ok (some ⟨Binary32.maxIndex, #[.ofNat 1]⟩) ∧
      farFolder.feature "A" "factor" .daily = .ok none := by
  obtain ⟨hclose, hfactor⟩ := farFolder.find_closes rfl
  have hfile : farFolder.files.follow ["features", "a", "close.day.bin"] = .ok (.file farBytes) := rfl
  have hnone : farFolder.files.follow ["features", "a", "factor.day.bin"] = .error .notFound := rfl
  exact ⟨feature_of_find (hclose.trans hfile) decode_farBytes,
    feature_of_find_error (hfactor.trans hnone)⟩

/-- What loading the instrument of the file ends with. -/
def farLoad : Except Failure (Option (Table × List String)) :=
  farFolder.archive.load "A" ["close"] .daily #[.startOf .newYear] (.startOf .newYear)
    (.startOf .afterNewYear)

/-- The file is read, and loading its instrument is a fault all the same. -/
theorem far_file_faults :
    FeatureSeries.decode farBytes = .ok ⟨Binary32.maxIndex, #[.ofNat 1]⟩ ∧
      farLoad = .error (.fault .positionRange) ∧ ¬ Answers farLoad := by
  have hfiles : farFolder.archive.featureFiles "A" ["close"] .daily =
      .ok [("close", some ⟨Binary32.maxIndex, #[.ofNat 1]⟩)] := by
    rw [Archive.featureFiles, mapM_eq_ok_iff]
    exact congrArg (fun read => [read]) (bind_eq_ok_iff.mpr ⟨_, feature_farFolder.1, rfl⟩)
  have hload : farLoad = .error (.fault .positionRange) :=
    Archive.load_of_latestStop?_none hfiles (by decide) feature_farFolder.2 (by decide)
  refine ⟨decode_farBytes, hload, ?_⟩
  rw [hload]
  exact not_answers_fault _

/-- The bytes of the file are of the kind that goes past the largest position, and its archive has no
answer. -/
theorem load_answers_iff_farFolder :
    ¬ Answers farLoad ∧ farBytes.length < twoTo 42 ∧
      ∃ s, FeatureSeries.decode farBytes = .ok s ∧ ¬ s.Ends := by
  obtain ⟨hanswers, -, -, hdecode⟩ := load_answers_iff farFolder "A" ["close"] .daily
    #[.startOf .newYear] (.startOf .newYear) (.startOf .afterNewYear)
  have hlength : farBytes.length < twoTo 42 := by decide
  refine ⟨fun h => ?_, hlength, ?_⟩
  · rcases hanswers.mp h with ⟨field, hfield, e, herror⟩ | hfits
    · have hread : ∃ s?, farFolder.feature "A" field .daily = .ok s? := by
        rcases List.mem_cons.mp hfield with rfl | hfield
        · exact ⟨_, feature_farFolder.2⟩
        · rw [List.mem_singleton.mp hfield]
          exact ⟨_, feature_farFolder.1⟩
      obtain ⟨s?, hs⟩ := hread
      cases hs.symm.trans herror
    · exact absurd (hfits "close" (by decide) _ feature_farFolder.1) (by decide)
  · refine (hdecode farBytes hlength).mpr ⟨⟨0x5f800000⟩, .ofNat 1, [], by decide +kernel, ?_⟩
    exact ⟨8388608, 41, by decide +kernel, by decide +kernel⟩

end ArchiveFolder

end MarketBars
