import MarketBars.Panel.Cube
import MarketBars.Proofs.Calendar.Millis
import MarketBars.Proofs.Panel.Assembly
import MarketBars.Proofs.Sorting

/-!
# Reading a table

What a table says of an instant and a field is the value of the field in the row stamped with the
instant. Projecting a table to requested fields keeps the timestamps and what is said of these fields.
A table that is made of columns has these columns, and its timestamps can be read.
-/

namespace MarketBars

/-- A list in which a test holds at most once has one element that passes it, from either end. -/
theorem find?_reverse_of_pairwise {α : Type} {test : α → Bool} {xs : List α}
    (h : xs.Pairwise fun a b => ¬ (test a = true ∧ test b = true)) :
    xs.reverse.find? test = xs.find? test := by
  induction xs with
  | nil => rfl
  | cons a rest ih =>
    obtain ⟨ha, hrest⟩ := List.pairwise_cons.mp h
    rw [List.reverse_cons, List.find?_append, ih hrest]
    by_cases htest : test a = true
    · have hnone : rest.find? test = none := by
        rw [List.find?_eq_none]
        exact fun b hb hb' => ha b hb ⟨htest, hb'⟩
      rw [hnone, List.find?_cons_of_pos htest, List.find?_cons_of_pos htest]
      rfl
    · rw [List.find?_cons_of_neg htest, List.find?_cons_of_neg htest]
      simp

theorem Cell.number?_ofValue (value : Value) :
    (Cell.ofValue value).number? = value.filter fun x => !x.isNaN := by
  cases value with
  | none => rfl
  | some x => cases hx : x.isNaN <;> simp [Cell.ofValue, Cell.number?, Option.filter, hx]

namespace Row

theorem rankLE_trans (a b c : Row) (hab : Cell.rankLE a.stamp.rank? b.stamp.rank?)
    (hbc : Cell.rankLE b.stamp.rank? c.stamp.rank?) : Cell.rankLE a.stamp.rank? c.stamp.rank? :=
  Cell.rankLE_trans hab hbc

theorem rankLE_total (a b : Row) : (Cell.rankLE a.stamp.rank? b.stamp.rank? ||
    Cell.rankLE b.stamp.rank? a.stamp.rank?) = true :=
  Cell.rankLE_total _ _

end Row

namespace Table

open MarketBars.Cube (valueAt lastRowAt)

theorem eq_of_names_of_rows {t u : Table} (hnames : t.names = u.names) (hrows : t.rows = u.rows) :
    t = u := by
  cases t
  cases u
  cases hnames
  cases hrows
  rfl

/-- No two rows are stamped with one instant. -/
def HasDistinctStamps (t : Table) : Prop :=
  ∀ ts, t.stamps = .ok ts → ts.Nodup

/-- The value of a field in the row that is stamped with an instant. There is none without such a row,
without such a column, or where the cell holds no number. -/
def read (t : Table) (date : Instant) (field : String) : Value :=
  if field ∈ t.names then
    (t.rows.find? fun r => r.instant? = some date).bind fun r =>
      (r.cellAt (t.names.idxOf field)).number?
  else none

theorem find?_length_eq_none {stamps : List Instant}
    {columns : List (String × List (Option Binary64))}
    (hlength : ∀ column ∈ columns, column.2.length = stamps.length) :
    columns.find? (fun c => c.2.length != stamps.length) = none := by
  rw [List.find?_eq_none]
  intro column hcolumn
  rw [hlength column hcolumn, bne_self_eq_false]
  exact Bool.false_ne_true

/-- Columns with distinct names and a value for each timestamp are a table. -/
theorem exists_ofColumns {stamps : List Instant} {columns : List (String × List (Option Binary64))}
    (hlength : ∀ column ∈ columns, column.2.length = stamps.length)
    (hnodup : (columns.map Prod.fst).Nodup) (hstamp : stampName ∉ columns.map Prod.fst) :
    ∃ t, ofColumns stamps columns = .ok t ∧ t.names = columns.map Prod.fst ∧
      t.rows = rowsOf stamps columns := by
  rw [ofColumns, find?_length_eq_none hlength]
  exact ⟨_, dif_pos ⟨hnodup, hstamp⟩, rfl, rfl⟩

/-- The reserved name is not one of a column. -/
theorem ofColumns_of_stampName {stamps : List Instant}
    {columns : List (String × List (Option Binary64))}
    (hlength : ∀ column ∈ columns, column.2.length = stamps.length)
    (hstamp : stampName ∈ columns.map Prod.fst) : ofColumns stamps columns = .error .columnNames := by
  rw [ofColumns, find?_length_eq_none hlength]
  exact dif_neg fun h => h.2 hstamp

theorem cause_of_ofColumns_error {stamps : List Instant}
    {columns : List (String × List (Option Binary64))} {e : DataError}
    (h : ofColumns stamps columns = .error e) : e.cause = "Table" := by
  unfold ofColumns at h
  split at h
  · cases h
    rfl
  · split at h
    · cases h
    · cases h
      rfl

theorem names_of_ofColumns {stamps : List Instant}
    {columns : List (String × List (Option Binary64))} {t : Table}
    (h : ofColumns stamps columns = .ok t) : t.names = columns.map Prod.fst := by
  unfold ofColumns at h
  split at h
  · cases h
  · split at h
    · cases h
      rfl
    · cases h

theorem rows_of_ofColumns {stamps : List Instant}
    {columns : List (String × List (Option Binary64))} {t : Table}
    (h : ofColumns stamps columns = .ok t) : t.rows = rowsOf stamps columns := by
  unfold ofColumns at h
  split at h
  · cases h
  · split at h
    · cases h
      rfl
    · cases h

/-- Columns of the same names make tables, or none, together; what is seen of the tables depends on their
rows. -/
theorem map_ofColumns_congr {γ : Type} {stamps stamps' : List Instant}
    {columns columns' : List (String × List (Option Binary64))} {see see' : Table → γ}
    (hlength : ∀ column ∈ columns, column.2.length = stamps.length)
    (hlength' : ∀ column ∈ columns', column.2.length = stamps'.length)
    (hnames : columns.map Prod.fst = columns'.map Prod.fst)
    (hsee : ∀ t t' : Table, t.names = t'.names → t.rows = rowsOf stamps columns →
      t'.rows = rowsOf stamps' columns' → see t = see' t') :
    (ofColumns stamps columns).map see = (ofColumns stamps' columns').map see' := by
  rw [ofColumns, ofColumns, find?_length_eq_none hlength, find?_length_eq_none hlength']
  dsimp only
  by_cases h : (columns.map Prod.fst).Nodup ∧ "timestamp" ∉ columns.map Prod.fst
  · rw [dif_pos h, dif_pos (hnames ▸ h)]
    exact congrArg Except.ok (hsee _ _ hnames rfl rfl)
  · rw [dif_neg h, dif_neg (hnames ▸ h)]
    rfl

/-- Timestamps can be read when every row has an instant. -/
theorem exists_stamps_of_instants {t : Table} (h : ∀ r ∈ t.rows, ∃ u, r.instant? = some u) :
    ∃ ts, t.stamps = .ok ts :=
  ⟨t.rows.filterMap Row.instant?, stamps_eq_ok_iff.mpr (map_eq_map_some_filterMap h)⟩

def IsStamped (t : Table) : Prop :=
  ∀ r ∈ t.rows, ∃ ms, r.stamp = .moment ms

theorem isStamped_of_rowsOf {t : Table} {stamps : List Instant}
    {columns : List (String × List (Option Binary64))} (h : t.rows = rowsOf stamps columns) :
    t.IsStamped := by
  intro r hr
  rw [h, rowsOf] at hr
  obtain ⟨⟨u, i⟩, -, rfl⟩ := List.mem_map.mp hr
  exact ⟨u.millis, rfl⟩

theorem mem_of_mem_dedupFirst {t : Table} {r : Row} (h : r ∈ t.dedupFirst.rows) : r ∈ t.rows :=
  (distinctAfter_sublist _ _ _).subset (List.mem_mergeSort.mp h)

/-- A table that is made of columns. Repeated timestamps and rows outside of a window may have been
dropped since. -/
inductive Made : Table → Prop
  | ofColumns {stamps : List Instant} {columns : List (String × List (Option Binary64))} {t : Table}
    (h : ofColumns stamps columns = .ok t) : Made t
  | dedupFirst {t : Table} (h : Made t) : Made t.dedupFirst
  | within {t : Table} (h : Made t) (start stop : Instant) : Made (t.within start stop)

namespace Made

theorem exists_millis {t : Table} (h : t.Made) :
    ∀ r ∈ t.rows, ∃ u : Instant, r.stamp = .moment u.millis := by
  induction h with
  | ofColumns h =>
    intro r hr
    rw [rows_of_ofColumns h, rowsOf] at hr
    obtain ⟨⟨u, i⟩, -, rfl⟩ := List.mem_map.mp hr
    exact ⟨u, rfl⟩
  | dedupFirst _ ih =>
    intro r hr
    exact ih r (mem_of_mem_dedupFirst hr)
  | within _ start stop ih =>
    intro r hr
    exact ih r (List.mem_filter.mp hr).1

/-- The timestamps of a table that is made of columns can be read. Only a leap second at the end of the
calendar is too late to be read back. -/
theorem exists_stamps {t : Table} (h : t.Made)
    (hend : ∀ r ∈ t.rows, ∀ ms, r.stamp = .moment ms → ms < Instant.endMillis) :
    ∃ ts, t.stamps = .ok ts := by
  refine exists_stamps_of_instants fun r hr => ?_
  obtain ⟨u, hu⟩ := h.exists_millis r hr
  obtain ⟨v, hv⟩ := Instant.exists_ofMillis? u.le_millis (hend r hr _ hu)
  refine ⟨v, ?_⟩
  rw [Row.instant?, hu]
  exact hv

end Made

/-- The table has rows and lacks some of the requested fields. -/
def LacksSome (t : Table) (fields : List String) : Prop :=
  t.rows ≠ [] ∧ ∃ field ∈ fields, field ∉ t.names

theorem mem_missing {t : Table} {fields : List String} {field : String} :
    field ∈ t.missing fields ↔ field ∈ fields ∧ field ∉ t.names := by
  simp [missing, mem_sortedDistinct]

/-- Tables lack the same of some fields when they have the same of them. -/
theorem missing_eq_iff {t u : Table} {fields : List String} :
    t.missing fields = u.missing fields ↔ ∀ field ∈ fields, field ∈ t.names ↔ field ∈ u.names := by
  constructor
  · intro h field hfield
    have hlacks : field ∉ t.names ↔ field ∉ u.names := by
      have hmem := @mem_missing t fields field
      rw [h, mem_missing] at hmem
      exact ((and_congr_right_iff.mp hmem) hfield).symm
    exact Decidable.not_iff_not.mp hlacks
  · intro h
    refine congrArg sortedDistinct (List.filter_congr fun field hfield => ?_)
    rw [List.contains_eq_mem, List.contains_eq_mem, decide_eq_decide.mpr (h field hfield)]

theorem lacksSome_iff {t : Table} {fields : List String} :
    t.LacksSome fields ↔ (t.isEmpty || (t.missing fields).isEmpty) = false := by
  rw [Bool.or_eq_false_iff, isEmpty, List.isEmpty_eq_false_iff, List.isEmpty_eq_false_iff]
  refine and_congr_right fun _ => ?_
  constructor
  · rintro ⟨field, hfield, hlacks⟩
    exact List.ne_nil_of_mem (mem_missing.mpr ⟨hfield, hlacks⟩)
  · intro hmissing
    obtain ⟨field, hfield⟩ := List.exists_mem_of_ne_nil _ hmissing
    exact ⟨field, mem_missing.mp hfield⟩

theorem ne_stampName {t : Table} {field : String} (h : field ∈ t.names) : field ≠ stampName :=
  fun heq => t.stampName_not_mem (heq ▸ h : stampName ∈ t.names)

theorem cellNamed_of_ne {t : Table} {field : String} (h : field ≠ stampName) (r : Row) :
    t.cellNamed field r = r.cellAt (t.names.idxOf field) :=
  if_neg h

theorem hasName_of_ne {t : Table} {field : String} (h : field ≠ stampName) :
    t.hasName field = decide (field ∈ t.names) := by
  simp [hasName, h]

theorem valueAt_of_not_mem {t : Table} {field : String} (hmem : field ∉ t.names)
    (hname : field ≠ stampName) (date : Instant) : valueAt t date field = none := by
  rw [valueAt, hasName_of_ne hname, if_neg (by simpa using hmem)]

/-- Where timestamps are distinct, the last row of an instant is its only one. -/
theorem valueAt_eq_read {t : Table} {ts : List Instant} (hts : t.stamps = .ok ts)
    (hdistinct : t.HasDistinctStamps) {field : String} (hfield : field ≠ stampName)
    (date : Instant) : valueAt t date field = t.read date field := by
  have hrows : t.rows.Pairwise fun a b => a.instant? ≠ b.instant? := by
    have hnodup : (t.rows.map Row.instant?).Nodup := by
      rw [stamps_eq_ok_iff.mp hts]
      exact (List.pairwise_map.mpr ((hdistinct ts hts).imp fun hne heq => hne (Option.some.inj heq)))
    exact List.pairwise_map.mp hnodup
  have hlast : lastRowAt t date = t.rows.find? fun r => r.instant? = some date := by
    refine find?_reverse_of_pairwise (hrows.imp ?_)
    rintro a b hne ⟨ha, hb⟩
    exact hne ((of_decide_eq_true ha).trans (of_decide_eq_true hb).symm)
  simp only [valueAt, read, hlast, hasName_of_ne hfield, cellNamed_of_ne hfield, decide_eq_true_eq]

theorem mem_selected {t : Table} {fields : List String} {field : String} :
    field ∈ t.selected fields ↔ field ∈ fields ∧ field ∈ t.names := by
  have h := mem_map_distinctBy id (fields.filter fun f => t.names.contains f) field
  simpa [selected] using h

/-- The timestamps of rows depend on their instants only. -/
theorem stampsFrom_congr {rows rows' : List Row}
    (h : rows.map Row.instant? = rows'.map Row.instant?) (row : Nat) :
    stampsFrom row rows = stampsFrom row rows' := by
  induction rows generalizing rows' row with
  | nil =>
    cases rows' with
    | nil => rfl
    | cons r' rest' => cases h
  | cons r rest ih =>
    cases rows' with
    | nil => cases h
    | cons r' rest' =>
      obtain ⟨hr, hrest⟩ := List.cons.inj h
      rw [stampsFrom, stampsFrom, hr, ih hrest]

theorem stamps_project (t : Table) (fields : List String) : (t.project fields).stamps = t.stamps := by
  unfold project
  split
  · rfl
  · refine stampsFrom_congr ?_ 0
    rw [select, List.map_map]
    rfl

/-- A projection has the rows of the table, in which only the cells are laid out anew. -/
theorem lastRowAt_select (t : Table) (names : List String) (hn : names.Nodup)
    (hs : "timestamp" ∉ names) (date : Instant) :
    lastRowAt (t.select names hn hs) date =
      (lastRowAt t date).map fun r => ⟨r.stamp, names.map fun n => r.cellAt (t.names.idxOf n)⟩ := by
  simp only [lastRowAt, select]
  rw [← List.map_reverse, List.find?_map]
  rfl

/-- A projection says of a requested name what the table says. -/
theorem valueAt_project (t : Table) {fields : List String} {field : String} (hmem : field ∈ fields)
    (date : Instant) : valueAt (t.project fields) date field = valueAt t date field := by
  unfold project
  split
  · rfl
  · rename_i hfields
    have hnames : ∀ hn hs, (t.select (t.selected fields) hn hs).names = t.selected fields :=
      fun _ _ => rfl
    by_cases hfield : field = stampName
    · -- The rows keep their timestamps, whatever the columns are.
      have hname : ∀ u : Table, u.hasName field = true := by
        intro u
        rw [hasName, hfield, beq_self_eq_true, Bool.true_or]
      rw [valueAt, valueAt, hname, hname, if_pos rfl, if_pos rfl, lastRowAt_select, Option.bind_map]
      refine congrArg (Option.bind _) (funext fun r => ?_)
      rw [Function.comp_apply, cellNamed, cellNamed, if_pos hfield, if_pos hfield]
    · simp only [valueAt, hasName_of_ne hfield, cellNamed_of_ne hfield, lastRowAt_select]
      rw [hnames]
      by_cases hcolumn : field ∈ t.names
      · have hsel : field ∈ t.selected fields := mem_selected.mpr ⟨hmem, hcolumn⟩
        have hlt := List.idxOf_lt_length_of_mem hsel
        rw [if_pos (decide_eq_true hsel), if_pos (decide_eq_true hcolumn), Option.bind_map]
        refine congrArg (Option.bind _) (funext fun r => ?_)
        simp [Row.cellAt, hlt, List.getElem_idxOf]
      · have hsel : field ∉ t.selected fields := fun h => hcolumn (mem_selected.mp h).2
        rw [if_neg (by simpa using hsel), if_neg (by simpa using hcolumn)]

end Table

end MarketBars
