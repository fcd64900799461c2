import MarketBars.Proofs.Archive.Answering
import MarketBars.Proofs.Archive.Disclosed
import MarketBars.Proofs.Archive.Loading
import MarketBars.Proofs.Calendar.Stamps
import MarketBars.Proofs.Disclosure.Cut
import MarketBars.Proofs.Files.Content
import MarketBars.Proofs.Pipeline.Observation

/-!
# The archive does not disclose the future

A snapshot is loaded with all the rows of its archive, also with those that nobody may see yet. Two
archives that differ in the values of such rows only give snapshots that agree up to the last observable
instant, and a request that does not look ahead is answered from rows up to there.
-/

namespace MarketBars

/-- The position of a calendar is stamped up to the last observable instant. -/
def Disclosure.isDisclosed (clock : MarketClock) (f : Frequency) (calendar : List Instant) (i : Nat) :
    Bool :=
  (Disclosure.lastObservable? clock f).any fun last => calendar[i]?.any fun t => decide (t ≤ last)

/-- Two archives have the same calendar, the same constituents and the same files, with values at the
same positions, and the values are the same up to the last observable instant. -/
structure Archive.DiscloseSame (clock : MarketClock) (f : Frequency) (a b : Archive) : Prop where
  calendar_eq : a.calendar f = b.calendar f
  constituents_eq : ∀ index, a.constituents index = b.constituents index
  feature_eq : ∀ calendar, a.calendar f = .ok calendar → ∀ symbol field,
    (a.feature symbol field f).map
        (Option.map (FeatureSeries.view (Disclosure.isDisclosed clock f calendar))) =
      (b.feature symbol field f).map
        (Option.map (FeatureSeries.view (Disclosure.isDisclosed clock f calendar)))

section Contents

variable {fs : FileSystem} {root : FilePath} {change change' : List UInt8 → List UInt8}

/-- Folders of one shape disclose the same when their files do: as text they are the same, and as series
they agree up to the last observable instant. -/
theorem ArchiveFolder.discloseSame_of_contents {clock : MarketClock} {f : Frequency}
    (htext : ∀ bytes, FileSystem.textOf? (change bytes) = FileSystem.textOf? (change' bytes))
    (hrows : ∀ path bytes, InstrumentSpan.ofRows path (Delimited.rows 0x09 (change bytes)) =
      InstrumentSpan.ofRows path (Delimited.rows 0x09 (change' bytes)))
    (hseries : ∀ bytes text calendar, FileSystem.textOf? (change bytes) = some text →
      calendarOfText text = .ok calendar → ∀ bytes',
        (FeatureSeries.decode (change bytes')).map
            (FeatureSeries.view (Disclosure.isDisclosed clock f calendar)) =
          (FeatureSeries.decode (change' bytes')).map
            (FeatureSeries.view (Disclosure.isDisclosed clock f calendar))) :
    Archive.DiscloseSame clock f (ArchiveFolder.mk (fs.mapFiles change) root).archive
      (ArchiveFolder.mk (fs.mapFiles change') root).archive where
  calendar_eq := by
    have hread : (fs.mapFiles change).readText = (fs.mapFiles change').readText := by
      funext path
      rw [FileSystem.readText_mapFiles, FileSystem.readText_mapFiles]
      simp only [htext]
    simp only [archive, calendar, calendarPath, hread]
  constituents_eq := by
    intro index
    simp only [archive, constituents, constituentsPath, FileSystem.find_mapFiles]
    generalize (root.join "instruments").join (index ++ ".txt") = path
    cases fs.find path with
    | error fault => rfl
    | ok node =>
      cases node with
      | folder es => simp only [Except.map, FileNode.mapFiles]
      | file bytes => simp only [Except.map, FileNode.mapFiles, hrows]
  feature_eq := by
    intro dates hdates symbol field
    obtain ⟨bytes, text, htext, hdates⟩ : ∃ bytes text, FileSystem.textOf? (change bytes) = some text ∧
        calendarOfText text = .ok dates := by
      simp only [archive, calendar, FileSystem.readText_mapFiles] at hdates
      cases hread : fs.read ((calendarPath ⟨fs.mapFiles change, root⟩ f)) with
      | error fault =>
        rw [hread] at hdates
        cases hdates
      | ok bytes =>
        rw [hread] at hdates
        simp only [Except.bind] at hdates
        cases htext : FileSystem.textOf? (change bytes) with
        | none =>
          rw [htext] at hdates
          cases hdates
        | some text =>
          rw [htext] at hdates
          exact ⟨bytes, text, htext, hdates⟩
    have hsame := hseries bytes text dates htext hdates
    have hholds : ∀ path, (fs.mapFiles change).holds path = (fs.mapFiles change').holds path := by
      intro path
      rw [FileSystem.holds, FileSystem.holds, FileSystem.find_mapFiles, FileSystem.find_mapFiles]
      cases fs.find path <;> rfl
    simp only [archive, feature, featurePath, hholds, FileSystem.read_mapFiles]
    generalize ((root.join "features").join (Text.lower symbol)).join _ = path
    split
    · cases fs.read path with
      | error fault => rfl
      | ok bytes' =>
        simp only [Except.map]
        rcases of_map_eq_map (hsame bytes') with ⟨e, h, h'⟩ | ⟨s, s', h, h', hview⟩
        · rw [h, h']
        · rw [h, h']
          exact congrArg (fun view => Except.ok (some view)) hview
    · rfl

end Contents

namespace Snapshot

def loadedUpTo (last? : Option Instant) (loaded : List (Ticker × Option (Table × List String))) :
    List (Ticker × Option (Table × List String)) :=
  loaded.map fun e => (e.1, e.2.map fun got => (got.1.upTo last?, got.2))

def Gathered.upTo (last? : Option Instant) (got : Gathered) : Gathered :=
  { got with loaded := loadedUpTo last? got.loaded }

def tablesUpTo (last? : Option Instant) (tables : List (Ticker × Table)) : List (Ticker × Table) :=
  tables.map fun e => (e.1, e.2.upTo last?)

/-- The snapshot with the rows of its tables up to an instant. -/
def upTo (last? : Option Instant) (s : Snapshot) : Snapshot :=
  { s with tables := tablesUpTo last? s.tables }

theorem loadedTables_upTo (last? : Option Instant) (map : List (String × PriceField))
    (loaded : List (Ticker × Option (Table × List String))) :
    (loadedTables map loaded).map (tablesUpTo last?) = loadedTables map (loadedUpTo last? loaded) := by
  have htables : tablesUpTo last? =
      cutTables fun ms => last?.any fun last => decide (ms ≤ last.millis) := by
    funext tables
    rw [tablesUpTo, cutTables, Table.upTo_eq_cut]
  rw [htables, loadedTables_cut, loadedUpTo, cutLoaded, Table.upTo_eq_cut]

variable {clock : MarketClock} {f : Frequency} {a b : Archive}

theorem expansion_congr (h : ∀ index, a.constituents index = b.constituents index) (start stop : Date) :
    expansion a start stop = expansion b start stop := by
  funext ticker
  simp only [expansion, listed, h]

theorem loadAll_upTo (h : a.DiscloseSame clock f b) {calendar : List Instant}
    (hcalendar : a.calendar f = .ok calendar) (hwhole : ∀ t ∈ calendar, t.IsWhole)
    (fields : List String) (start stop : Instant) (instruments : List Ticker) :
    (loadAll a fields f calendar.toArray start stop instruments).map
        (loadedUpTo (Disclosure.lastObservable? clock f)) =
      (loadAll b fields f calendar.toArray start stop instruments).map
        (loadedUpTo (Disclosure.lastObservable? clock f)) := by
  have hshown : ∀ (i : Nat) (u : Instant), calendar.toArray[i]? = some u →
      ((Disclosure.lastObservable? clock f).any fun last => decide (u.millis ≤ last.millis)) = true →
        Disclosure.isDisclosed clock f calendar i = true := by
    intro i u hu hupTo
    have hmem : u ∈ calendar := List.mem_of_getElem? (by simpa using hu)
    cases hlast : Disclosure.lastObservable? clock f with
    | none =>
      rw [hlast] at hupTo
      cases hupTo
    | some last =>
      rw [hlast] at hupTo
      have hle := (hwhole u hmem).le_iff_millis_le (Disclosure.nano_of_lastObservable? hlast)
      rw [Disclosure.isDisclosed, hlast, ← List.getElem?_toArray, hu]
      exact decide_eq_true (hle.mpr (of_decide_eq_true hupTo))
  refine map_mapM_congr (fun t => ?_) instruments
  have hload := Archive.load_upTo (h.feature_eq calendar hcalendar) hshown t.symbol fields start stop
  exact map_bind_congr hload fun got got' hgot => congrArg (fun table? => Except.ok (t, table?)) hgot

theorem gather_upTo {settings : ArchiveSettings} (hf : frequencySetting settings.frequency = .ok f)
    (h : a.DiscloseSame clock f b)
    (hwhole : ∀ calendar, a.calendar f = .ok calendar → ∀ t ∈ calendar, t.IsWhole)
    (start stop : Instant) :
    (gather a settings start stop).map (Gathered.upTo (Disclosure.lastObservable? clock f)) =
      (gather b settings start stop).map (Gathered.upTo (Disclosure.lastObservable? clock f)) := by
  rw [gather, gather, hf, expansion_congr h.constituents_eq]
  refine map_bind_congr_of_ok fun frequency hfrequency => ?_
  obtain rfl : f = frequency := Except.ok.inj hfrequency
  refine map_bind_congr_of_ok fun _ _ => map_bind_congr_of_ok fun expansions _ => ?_
  rw [← h.calendar_eq]
  refine map_bind_congr_of_ok fun calendar hcalendar => ?_
  have hok := liftError_eq_ok_iff.mp hcalendar
  refine map_bind_congr (loadAll_upTo h hok (hwhole calendar hok) _ start stop _) ?_
  intro loaded loaded' hloaded
  simp only [Gathered.upTo, pure, Except.pure, Except.map, hloaded]

/-- Snapshots of archives that disclose the same agree up to the last observable instant. -/
theorem load_upTo {settings : ArchiveSettings} (hf : frequencySetting settings.frequency = .ok f)
    (h : a.DiscloseSame clock f b)
    (hwhole : ∀ calendar, a.calendar f = .ok calendar → ∀ t ∈ calendar, t.IsWhole) :
    (load a settings).result.map (upTo (Disclosure.lastObservable? clock f)) =
      (load b settings).result.map (upTo (Disclosure.lastObservable? clock f)) := by
  have hgather := gather_upTo hf h hwhole (.startOf settings.start) ⟨settings.stop, .lastSecond⟩
  unfold load
  rcases of_map_eq_map hgather with ⟨e, ha, hb⟩ | ⟨got, got', ha, hb, hgot⟩
  · simp only [ha, hb]
  · simp only [Gathered.upTo, Gathered.mk.injEq] at hgot
    obtain ⟨hfrequency, hrequested, hmembers, hloaded⟩ := hgot
    have htables : (loadedTables settings.fieldMap got.loaded).map
        (tablesUpTo (Disclosure.lastObservable? clock f)) =
        (loadedTables settings.fieldMap got'.loaded).map
          (tablesUpTo (Disclosure.lastObservable? clock f)) := by
      rw [loadedTables_upTo, loadedTables_upTo, hloaded]
    rcases of_map_eq_map htables with ⟨e, ha', hb'⟩ | ⟨tables, tables', ha', hb', htables⟩
    · simp only [ha, hb, ha', hb']
    · have hempty : tables.isEmpty = tables'.isEmpty := by
        have h := congrArg List.isEmpty htables
        simpa only [tablesUpTo, List.isEmpty_map] using h
      simp only [ha, hb, ha', hb', hempty, hrequested, hmembers, hfrequency]
      split
      · rfl
      · simp only [Except.map, upTo, htables]

theorem table?_upTo (last? : Option Instant) (s : Snapshot) (symbol : String) :
    (s.upTo last?).table? symbol = (s.table? symbol).map (Table.upTo last?) := by
  simp only [table?, upTo, tablesUpTo, List.find?_map, Option.map_map]
  rfl

/-- A request that does not look ahead depends on the rows up to the last observable instant. -/
theorem history_upTo {σ : Type} (s : Snapshot) (clock : MarketClock) {r : HistoryRequest}
    (hlook : r.lookAhead = false) (state : σ) :
    (s.upTo (Disclosure.lastObservable? clock s.frequency)).history clock r state =
      s.history clock r state := by
  refine history_congr ?_ ?_ ?_ (fun window hw _ ticker _ => ?_) state
  · rfl
  · rfl
  · rfl
  rw [hlook] at hw
  obtain ⟨last, hlast, hstop⟩ := Window.millis_stop_le hw
  have hlast' : Disclosure.lastObservable? clock s.frequency = some last := hlast
  rw [table?_upTo, Option.map_map, hlast']
  refine congrArg (fun read => Option.map read (s.table? ticker.symbol)) (funext fun t => ?_)
  exact Table.within_upTo window.start hstop t

/-- Archives that disclose the same cannot be told apart by requests that do not look ahead: loading
fails for both in the same way, or the snapshots give the same answers and record the same. -/
theorem load_discloses_same {a b : ArchiveFolder} {settings : ArchiveSettings} {clock : MarketClock}
    (h : ∀ f, frequencySetting settings.frequency = .ok f →
      a.archive.DiscloseSame clock f b.archive) :
    (∃ e, (load a.archive settings).result = .error e ∧ (load b.archive settings).result = .error e) ∨
    ∃ s₁ s₂, (load a.archive settings).result = .ok s₁ ∧ (load b.archive settings).result = .ok s₂ ∧
      (∀ (r : HistoryRequest) (state : Unit), r.lookAhead = false →
        s₁.history clock r state = s₂.history clock r state) ∧
      ∀ (r : PriceRequest) (state : Unit), r.lookAhead = false →
        (s₁.provider clock).price r state = (s₂.provider clock).price r state := by
  cases hf : frequencySetting settings.frequency with
  | error e =>
    -- The frequency is read before anything of the archive is.
    have hload : ∀ c : Archive, (load c settings).result = .error (.error e) := by
      intro c
      have hgather : gather c settings (.startOf settings.start) ⟨settings.stop, .lastSecond⟩ =
          .error (.error e) := by
        rw [gather, hf]
        rfl
      unfold load
      simp only [hgather]
    exact Or.inl ⟨.error e, hload _, hload _⟩
  | ok f =>
    have hload := load_upTo hf (h f hf) fun calendar => ArchiveFolder.isWhole_of_calendar
    refine (of_map_eq_map hload).imp_right ?_
    rintro ⟨s₁, s₂, hs₁, hs₂, hupTo⟩
    have hf₁ : f = s₁.frequency := Except.ok.inj (hf.symm.trans (frequencySetting_of_load hs₁))
    have hf₂ : f = s₂.frequency := Except.ok.inj (hf.symm.trans (frequencySetting_of_load hs₂))
    have hhistory : ∀ (r : HistoryRequest) (state : Unit), r.lookAhead = false →
        s₁.history clock r state = s₂.history clock r state := by
      intro r state hlook
      rw [← history_upTo s₁ clock hlook, ← history_upTo s₂ clock hlook, ← hf₁, ← hf₂, hupTo]
    refine ⟨s₁, s₂, hs₁, hs₂, hhistory, fun r state hlook => ?_⟩
    have hmap : s₁.priceMap? = s₂.priceMap? := by
      simp only [upTo, Snapshot.mk.injEq] at hupTo
      exact hupTo.2.2.2.1
    exact @Provider.price_congr Unit (s₁.provider clock) (s₂.provider clock) rfl hmap r state
      fun map => hhistory (r.toHistory map) state hlook

/-- The lines of a calendar of two days. -/
def twoDates : String := "2025-01-01\n2025-01-02\n"

/-- The feature file of the closing prices of two days, of which the second is given. -/
def twoCloses (second : Nat) : List UInt8 :=
  FeatureSeries.encode 0 [.ofNat 10, .ofNat second]

/-- The folders of an archive. The file without content stands for the closing prices. -/
def twoFiles : FileSystem where
  root := .folder [("calendars", .folder [("day.txt", .file [0])]),
    ("features", .folder [("a", .folder [("close.day.bin", .file [])])])]
  workingFolder := []

/-- The archive of two days, of which the closing price of the second is given. -/
def twoClosesFolder (second : Nat) : ArchiveFolder where
  files := twoFiles.mapFiles fun bytes =>
    if bytes = [] then twoCloses second else twoDates.toUTF8.toList
  root := ⟨"/"⟩

/-- Settings for the closing prices of both days. -/
def twoClosesSettings : ArchiveSettings where
  tickers := ["A"]
  fields := ["close"]
  start := .newYear
  stop := .afterNewYear

/-- Two o'clock in the afternoon of the second day. -/
def afternoon : MarketClock := ⟨⟨.afterNewYear, .ofSecond 50400 (by decide)⟩, .usual⟩

/-- In the afternoon of the second day, its closing price is not disclosed. -/
theorem discloseSame_twoCloses :
    Archive.DiscloseSame afternoon .daily (twoClosesFolder 98).archive (twoClosesFolder 99).archive := by
  have htext : FileSystem.textOf? (twoCloses 98) = none ∧
      FileSystem.textOf? (twoCloses 99) = none := by decide +kernel
  have hrows : Delimited.rows 0x09 (twoCloses 98) = [[twoCloses 98]] ∧
      Delimited.rows 0x09 (twoCloses 99) = [[twoCloses 99]] := by decide +kernel
  apply ArchiveFolder.discloseSame_of_contents
  · intro bytes
    by_cases hbytes : bytes = []
    · rw [if_pos hbytes, if_pos hbytes, htext.1, htext.2]
    · rw [if_neg hbytes, if_neg hbytes]
  · intro path bytes
    have hofRows : ∀ {file}, FileSystem.textOf? file = none → InstrumentSpan.ofRows path [[file]] =
        .error (.archive (path.text ++ ": CSV")) := by
      intro file hfile
      have hnone : [file].mapM FileSystem.textOf? = none := by
        rw [List.mapM_cons, hfile]
        rfl
      rw [InstrumentSpan.ofRows, List.zipIdx_cons, List.zipIdx_nil, List.mapM_cons]
      dsimp only
      rw [hnone]
      rfl
    by_cases hbytes : bytes = []
    · rw [if_pos hbytes, if_pos hbytes, hrows.1, hrows.2, hofRows htext.1, hofRows htext.2]
    · rw [if_neg hbytes, if_neg hbytes]
  · intro bytes text calendar hcontent hcalendar bytes'
    have hdates : calendar = [.startOf .newYear, .startOf .afterNewYear] := by
      by_cases hbytes : bytes = []
      · rw [if_pos hbytes, htext.1] at hcontent
        cases hcontent
      · have htwo : FileSystem.textOf? twoDates.toUTF8.toList = some twoDates := by decide +kernel
        rw [if_neg hbytes, htwo] at hcontent
        cases hcontent
        exact (Except.ok.inj hcalendar).symm
    by_cases hbytes : bytes' = []
    · have hseries : FeatureSeries.decode (twoCloses 98) = .ok ⟨0, #[.ofNat 10, .ofNat 98]⟩ ∧
          FeatureSeries.decode (twoCloses 99) = .ok ⟨0, #[.ofNat 10, .ofNat 99]⟩ := ⟨rfl, rfl⟩
      rw [if_pos hbytes, if_pos hbytes, hdates, hseries.1, hseries.2]
      -- The second position is stamped with the second day, which is not over yet.
      refine congrArg (fun value => Except.ok (FeatureSeries.View.mk 0 2 value)) (funext fun i => ?_)
      match i with
      | 0 => rfl
      | 1 => rfl
      | i + 2 => rfl
    · rw [if_neg hbytes, if_neg hbytes]

/-- The archives differ in the closing price of the second day, which no request shows that does not look
ahead. -/
theorem load_discloses_same_twoCloses :
    twoCloses 98 ≠ twoCloses 99 ∧
    ((∃ e, (load (twoClosesFolder 98).archive twoClosesSettings).result = .error e ∧
        (load (twoClosesFolder 99).archive twoClosesSettings).result = .error e) ∨
      ∃ s₁ s₂, (load (twoClosesFolder 98).archive twoClosesSettings).result = .ok s₁ ∧
        (load (twoClosesFolder 99).archive twoClosesSettings).result = .ok s₂ ∧
        (∀ (r : HistoryRequest) (state : Unit), r.lookAhead = false →
          s₁.history afternoon r state = s₂.history afternoon r state) ∧
        ∀ (r : PriceRequest) (state : Unit), r.lookAhead = false →
          (s₁.provider afternoon).price r state = (s₂.provider afternoon).price r state) := by
  refine ⟨by decide, load_discloses_same fun f hf => ?_⟩
  obtain rfl : Frequency.daily = f := Except.ok.inj hf
  exact discloseSame_twoCloses

end Snapshot

end MarketBars
