import MarketBars.Archive.Instrument
import MarketBars.Proofs.Outcome
import MarketBars.Proofs.Table.Reading

namespace MarketBars

namespace Archive

def HasFile (a : Archive) (symbol : String) (fields : List String) (f : Frequency) : Prop :=
  ∃ field ∈ fields, ∃ series, a.feature symbol field f = .ok (some series)

theorem hasFile_distinctBy {a : Archive} {symbol : String} {fields : List String} {f : Frequency} :
    a.HasFile symbol (distinctBy id fields) f ↔ a.HasFile symbol fields f := by
  have hmem : ∀ field, field ∈ distinctBy id fields ↔ field ∈ fields := by
    intro field
    simpa using mem_map_distinctBy id fields field
  simp only [HasFile, hmem]

section Rows

def rowAt (found : List (String × FeatureSeries)) (factor? : Option FeatureSeries) (t : Instant)
    (i : Nat) : Row :=
  ⟨.moment t.millis, found.map fun e =>
    Cell.ofValue (e.2.adjustedAt? (if isAdjusted e.1 then factor? else none) i)⟩

/-- The adjusted values of some fields at some positions, as columns. -/
def columnsAt (positions : List Nat) (found : List (String × FeatureSeries))
    (factor? : Option FeatureSeries) : List (String × List (Option Binary64)) :=
  found.map fun e =>
    (e.1, positions.map (e.2.adjustedAt? (if isAdjusted e.1 then factor? else none)))

theorem length_of_mem_columnsAt {positions : List Nat} {found : List (String × FeatureSeries)}
    {factor? : Option FeatureSeries} :
    ∀ c ∈ columnsAt positions found factor?, c.2.length = positions.length := by
  intro c hc
  obtain ⟨e, -, rfl⟩ := List.mem_map.mp hc
  exact List.length_map _

theorem names_columnsAt (positions : List Nat) (found : List (String × FeatureSeries))
    (factor? : Option FeatureSeries) :
    (columnsAt positions found factor?).map Prod.fst = found.map Prod.fst := by
  rw [columnsAt, List.map_map]
  rfl

theorem tableAt_eq (calendar : Array Instant) (positions : List Nat)
    (found : List (String × FeatureSeries)) (factor? : Option FeatureSeries) :
    tableAt calendar positions found factor? =
      (Table.ofColumns (positions.filterMap fun i => calendar[i]?)
        (columnsAt positions found factor?)).map Table.dedupFirst := by
  show (Table.ofColumns _ (columnsAt positions found factor?) >>= fun t => pure t.dedupFirst) = _
  cases Table.ofColumns (positions.filterMap fun i => calendar[i]?)
    (columnsAt positions found factor?) <;> rfl

/-- Columns of values at some positions are laid out row by row. -/
theorem rowsOf_eq_map_rowAt {stamps : List Instant} {positions : List Nat}
    (h : stamps.length = positions.length) (found : List (String × FeatureSeries))
    (factor? : Option FeatureSeries) :
    Table.rowsOf stamps (columnsAt positions found factor?) =
      (stamps.zip positions).map fun e => rowAt found factor? e.1 e.2 := by
  apply List.ext_getElem
  · simp [Table.rowsOf, h]
  · intro i h₁ h₂
    have hi : i < positions.length := by
      simp only [List.length_map, List.length_zip] at h₂
      omega
    simp [Table.rowsOf, columnsAt, rowAt, hi]

variable {calendar : Array Instant} {positions : List Nat}

theorem length_columnsAt_stamps {found : List (String × FeatureSeries)} {factor? : Option FeatureSeries}
    (hpositions : ∀ i ∈ positions, ∃ t, calendar[i]? = some t) :
    ∀ c ∈ columnsAt positions found factor?,
      c.2.length = (positions.filterMap fun i => calendar[i]?).length := by
  intro c hc
  have hstamps := congrArg List.length (map_eq_map_some_filterMap hpositions)
  rw [List.length_map, List.length_map] at hstamps
  rw [length_of_mem_columnsAt c hc, hstamps]

theorem exists_of_mem_calendarPositions {start stop : Instant} {first last : Nat} :
    ∀ i ∈ calendarPositions calendar start stop first last, ∃ t, calendar[i]? = some t := by
  intro i hi
  have hin := (List.mem_filter.mp hi).2
  cases ht : calendar[i]? with
  | none => simp [ht] at hin
  | some t => exact ⟨t, rfl⟩

end Rows

section Files

variable {a : Archive} {symbol : String} {fields : List String} {f : Frequency}
  {files : List (String × Option FeatureSeries)} {calendar : Array Instant} {start stop : Instant}

theorem map_fst_found_sublist (h : a.featureFiles symbol fields f = .ok files) :
    ((found files).map Prod.fst).Sublist fields := by
  have hfound : (found files).map Prod.fst = (files.filter fun e => e.2.isSome).map Prod.fst := by
    clear h
    induction files with
    | nil => rfl
    | cons file rest ih =>
      obtain ⟨field, _ | series⟩ := file
      · exact ih
      · exact congrArg (List.cons field) ih
  rw [hfound, ← map_fst_mapM_pair h]
  exact List.filter_sublist.map Prod.fst

theorem mem_found_iff (h : a.featureFiles symbol fields f = .ok files) {field : String}
    {series : FeatureSeries} :
    (field, series) ∈ found files ↔ field ∈ fields ∧ a.feature symbol field f = .ok (some series) := by
  rw [← mem_mapM_pair_iff h, found, List.mem_filterMap]
  constructor
  · rintro ⟨⟨field', series?⟩, hfile, hseries⟩
    obtain ⟨series', rfl, hpair⟩ := Option.map_eq_some_iff.mp hseries
    cases hpair
    exact hfile
  · intro hfile
    exact ⟨_, hfile, rfl⟩

theorem found_ne_nil_iff (h : a.featureFiles symbol fields f = .ok files) :
    found files ≠ [] ↔ a.HasFile symbol fields f := by
  constructor
  · intro hfound
    obtain ⟨⟨field, series⟩, hmem⟩ := List.exists_mem_of_ne_nil _ hfound
    obtain ⟨hfield, hread⟩ := (mem_found_iff h).mp hmem
    exact ⟨field, hfield, series, hread⟩
  · rintro ⟨field, hfield, series, hread⟩
    exact List.ne_nil_of_mem ((mem_found_iff h).mpr ⟨hfield, hread⟩)

/-- Files are read when each of them is; otherwise one of them is to blame. -/
theorem exists_feature_of_featureFiles (h : a.featureFiles symbol fields f = .ok files) :
    ∀ field ∈ fields, ∃ series?, a.feature symbol field f = .ok series? := by
  intro field hfield
  obtain ⟨file, hfile⟩ := exists_of_mapM_ok h field hfield
  obtain ⟨series?, hread, -⟩ := bind_eq_ok_iff.mp hfile
  exact ⟨series?, hread⟩

theorem exists_feature_error {e : DataError} (h : a.featureFiles symbol fields f = .error e) :
    ∃ field ∈ fields, a.feature symbol field f = .error e := by
  obtain ⟨field, hfield, hfile⟩ := exists_of_mapM_error h
  refine ⟨field, hfield, ?_⟩
  cases hread : a.feature symbol field f with
  | error e' =>
    rw [hread] at hfile
    cases hfile
    rfl
  | ok series? =>
    rw [hread] at hfile
    cases hfile

theorem isSome_load_iff {got? : Option (Table × List String)}
    (h : a.load symbol fields f calendar start stop = .ok got?) :
    got?.isSome ↔ a.HasFile symbol fields f := by
  obtain ⟨files, hfiles, h⟩ := bind_eq_ok_iff.mp h
  rw [← found_ne_nil_iff (liftError_eq_ok_iff.mp hfiles)]
  dsimp only at h
  split at h
  · rename_i hnone
    cases h
    simpa using hnone
  · rename_i hsome
    obtain ⟨factor?, -, h⟩ := bind_eq_ok_iff.mp h
    obtain ⟨last, -, h⟩ := bind_eq_ok_iff.mp h
    obtain ⟨table, -, h⟩ := bind_eq_ok_iff.mp h
    cases h
    simpa using hsome

/-- The columns of the fields that have a file make a table. -/
theorem exists_ofColumns_columnsAt (hfields : fields.Nodup) (hstamp : Table.stampName ∉ fields)
    (hfiles : a.featureFiles symbol fields f = .ok files) {positions : List Nat}
    (hpositions : ∀ i ∈ positions, ∃ t, calendar[i]? = some t) (factor? : Option FeatureSeries) :
    ∃ t, Table.ofColumns (positions.filterMap fun i => calendar[i]?)
      (columnsAt positions (found files) factor?) = .ok t := by
  have hnames := map_fst_found_sublist hfiles
  obtain ⟨t, ht, -⟩ := Table.exists_ofColumns
    (@length_columnsAt_stamps _ _ (found files) factor? hpositions)
    (by rw [names_columnsAt]; exact hnames.nodup hfields)
    (by rw [names_columnsAt]; exact fun h => hstamp (hnames.subset h))
  exact ⟨t, ht⟩

theorem load_of_files_error {e : DataError} (h : a.featureFiles symbol fields f = .error e) :
    a.load symbol fields f calendar start stop = .error (.error e) := by
  rw [load, h]
  rfl

theorem load_of_not_found (hfiles : a.featureFiles symbol fields f = .ok files)
    (hfound : found files = []) : a.load symbol fields f calendar start stop = .ok none := by
  rw [load, hfiles]
  exact if_pos (List.isEmpty_iff.mpr hfound)

theorem load_of_factor_error (hfiles : a.featureFiles symbol fields f = .ok files)
    (hfound : found files ≠ []) {e : DataError} (hfactor : a.feature symbol factorField f = .error e) :
    a.load symbol fields f calendar start stop = .error (.error e) := by
  have hsome : ¬ (found files).isEmpty = true := by simpa using hfound
  rw [load, hfiles]
  refine (if_neg hsome).trans ?_
  rw [hfactor]
  rfl

/-- A file that does not end at a position is a fault. -/
theorem load_of_latestStop?_none (hfiles : a.featureFiles symbol fields f = .ok files)
    (hfound : found files ≠ []) {factor? : Option FeatureSeries}
    (hfactor : a.feature symbol factorField f = .ok factor?)
    (hlast : FeatureSeries.latestStop? ((found files).map Prod.snd) = none) :
    a.load symbol fields f calendar start stop = .error (.fault .positionRange) := by
  have hsome : ¬ (found files).isEmpty = true := by simpa using hfound
  rw [load, hfiles]
  refine (if_neg hsome).trans ?_
  dsimp only
  rw [hfactor, hlast]
  rfl

/-- Files that end at positions are joined along the calendar. -/
theorem load_of_latestStop? (hfiles : a.featureFiles symbol fields f = .ok files)
    (hfound : found files ≠ []) {factor? : Option FeatureSeries}
    (hfactor : a.feature symbol factorField f = .ok factor?) {last : Nat}
    (hlast : FeatureSeries.latestStop? ((found files).map Prod.snd) = some last) :
    a.load symbol fields f calendar start stop =
      liftError ((tableAt calendar (calendarPositions calendar start stop
        (FeatureSeries.earliestStart ((found files).map Prod.snd)) (min last calendar.size))
        (found files) factor?).map fun t => some (t, lacking files)) := by
  have hsome : ¬ (found files).isEmpty = true := by simpa using hfound
  rw [load, hfiles]
  refine (if_neg hsome).trans ?_
  dsimp only
  rw [hfactor, hlast, ← map_liftError]
  rfl

/-- An instrument is loaded when its files can be read and their values end at a position. -/
theorem exists_load (calendar : Array Instant) (start stop : Instant) (hfields : fields.Nodup)
    (hstamp : Table.stampName ∉ fields) (hfiles : a.featureFiles symbol fields f = .ok files)
    (hfound : found files ≠ []) {factor? : Option FeatureSeries}
    (hfactor : a.feature symbol factorField f = .ok factor?) {last : Nat}
    (hlast : FeatureSeries.latestStop? ((found files).map Prod.snd) = some last) :
    ∃ t, a.load symbol fields f calendar start stop = .ok (some (t, lacking files)) := by
  obtain ⟨t, ht⟩ := exists_ofColumns_columnsAt hfields hstamp hfiles
    (@exists_of_mem_calendarPositions calendar start stop
      (FeatureSeries.earliestStart ((found files).map Prod.snd)) (min last calendar.size)) factor?
  rw [load_of_latestStop? hfiles hfound hfactor hlast, tableAt_eq, ht]
  exact ⟨_, rfl⟩

theorem names_of_load {t : Table} {missing : List String}
    (h : a.load symbol fields f calendar start stop = .ok (some (t, missing))) :
    ∀ name ∈ t.names, name ∈ fields := by
  obtain ⟨files, hfiles, h⟩ := bind_eq_ok_iff.mp h
  have hfields := map_fst_found_sublist (liftError_eq_ok_iff.mp hfiles)
  dsimp only at h
  split at h
  · cases h
  · obtain ⟨factor?, -, h⟩ := bind_eq_ok_iff.mp h
    obtain ⟨last, -, h⟩ := bind_eq_ok_iff.mp h
    obtain ⟨table, htable, h⟩ := bind_eq_ok_iff.mp h
    cases h
    rw [liftError_eq_ok_iff, tableAt_eq] at htable
    obtain ⟨columns, hcolumns, rfl⟩ := map_eq_ok_iff.mp htable
    intro name hname
    have hnames : name ∈ columns.names := hname
    rw [Table.names_of_ofColumns hcolumns, names_columnsAt] at hnames
    exact hfields.subset hnames

/-- The rows of an instrument are stamped with instants between the bounds. -/
theorem exists_instant_of_load {t : Table} {missing : List String}
    (h : a.load symbol fields f calendar start stop = .ok (some (t, missing))) :
    ∀ r ∈ t.rows, ∃ u : Instant, (start ≤ u ∧ u ≤ stop) ∧ r.stamp = .moment u.millis := by
  obtain ⟨files, -, h⟩ := bind_eq_ok_iff.mp h
  dsimp only at h
  split at h
  · cases h
  · obtain ⟨factor?, -, h⟩ := bind_eq_ok_iff.mp h
    obtain ⟨last, -, h⟩ := bind_eq_ok_iff.mp h
    obtain ⟨table, htable, h⟩ := bind_eq_ok_iff.mp h
    cases h
    rw [liftError_eq_ok_iff, tableAt_eq] at htable
    obtain ⟨columns, hcolumns, rfl⟩ := map_eq_ok_iff.mp htable
    intro r hr
    have hrow := Table.mem_of_mem_dedupFirst hr
    rw [Table.rows_of_ofColumns hcolumns, Table.rowsOf] at hrow
    obtain ⟨⟨u, i⟩, hu, rfl⟩ := List.mem_map.mp hrow
    obtain ⟨position, hmem, hposition⟩ := List.mem_filterMap.mp (List.fst_mem_of_mem_zipIdx hu)
    have hbetween := (List.mem_filter.mp hmem).2
    simp only [hposition, Bool.and_eq_true, decide_eq_true_eq] at hbetween
    exact ⟨u, hbetween, rfl⟩

end Files

end Archive

end MarketBars
