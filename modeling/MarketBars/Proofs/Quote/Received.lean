import MarketBars.Proofs.Pipeline.Comparison
import MarketBars.Proofs.Sorting
import MarketBars.Quote.Kline

/-!
# The table of received rows

The rows that a source sends become a table with a column for every requested field that some row
carries; of rows with one timestamp the first is kept, the rest is sorted, and what lies outside a
window is dropped. The same can be done to the rows before there is a table, and then a row that lies
outside the window leaves no trace: it neither takes the place of another row, nor is it seen when the
columns are determined, for a column of which no row is left shows the same as no column.
-/

namespace MarketBars

namespace KlineRow

def stamp (row : KlineRow) : Cell := .moment row.time.millis

def toRow (names : List String) (row : KlineRow) : Row :=
  ⟨row.stamp, names.map fun name => Cell.ofValue (row.value name)⟩

def stampLE (a b : KlineRow) : Bool := Cell.rankLE a.stamp.rank? b.stamp.rank?

theorem stampLE_trans (a b c : KlineRow) (hab : stampLE a b) (hbc : stampLE b c) : stampLE a c :=
  Cell.rankLE_trans hab hbc

theorem stampLE_total (a b : KlineRow) : (stampLE a b || stampLE b a) = true :=
  Cell.rankLE_total _ _

/-- The rows of a window, one for each timestamp, the first one, in ascending order. -/
def arranged (start stop : Instant) (rows : List KlineRow) : List KlineRow :=
  ((distinctBy (fun row => row.stamp.rank?) rows).mergeSort stampLE).filter fun row =>
    (row.toRow []).isWithin start stop

/-- The rows that are turned into rows of a table are laid out column by column first. -/
theorem rowsOf_eq_map_toRow (rows : List KlineRow) (names : List String) :
    Table.rowsOf (rows.map time) (names.map fun name => (name, rows.map (value · name))) =
      rows.map (toRow names) := by
  apply List.ext_getElem
  · simp [Table.rowsOf]
  · intro i h₁ h₂
    have hi : i < rows.length := by simpa using h₂
    simp [Table.rowsOf, toRow, stamp, hi]

/-- The rows of a table can be arranged before they are turned into rows of a table. -/
theorem rows_within_dedupFirst {t : Table} {rows : List KlineRow} {names : List String}
    (h : t.rows = rows.map (toRow names)) (start stop : Instant) :
    (t.dedupFirst.within start stop).rows = (arranged start stop rows).map (toRow names) := by
  have hdistinct : distinctBy (fun r : Row => r.stamp.rank?) (rows.map (toRow names)) =
      (distinctBy (fun row => row.stamp.rank?) rows).map (toRow names) :=
    distinctBy_map (fun r : Row => r.stamp.rank?) (toRow names) rows
  have hsort := List.map_mergeSort (f := toRow names)
    (r := stampLE) (s := fun a b : Row => Cell.rankLE a.stamp.rank? b.stamp.rank?)
    (l := distinctBy (fun row => row.stamp.rank?) rows) (fun _ _ _ _ => rfl)
  have hrows : (t.dedupFirst.within start stop).rows =
      ((distinctBy (fun r : Row => r.stamp.rank?) t.rows).mergeSort fun a b =>
        Cell.rankLE a.stamp.rank? b.stamp.rank?).filter (Row.isWithin start stop) := rfl
  rw [hrows, h, hdistinct, ← hsort, List.filter_map]
  rfl

/-- What rows show of some fields. -/
def view (fields : List String) (rows : List KlineRow) : Table.View String where
  stamps := Table.stampsFrom 0 (rows.map (toRow []))
  value date field :=
    if field ∈ fields then
      (rows.reverse.find? fun row => (row.toRow []).instant? = some date).bind fun row =>
        (Cell.ofValue (row.value field)).number?
    else none

theorem value_of_not_carries {row : KlineRow} {field : String} (h : row.carries field = false) :
    row.value field = none := by
  have hnone : row.values.lookup field = none := by
    rw [List.lookup_eq_none_iff]
    intro v hv
    have hne : v.1 ≠ field := by
      simpa using List.any_eq_false.mp h v hv
    exact bne_iff_ne.mpr hne.symm
  rw [value, hnone]
  rfl

/-- A table over arranged rows shows what they show of the requested fields, when every field that is
not a column is not carried by any of the rows. -/
theorem view_eq_view {t : Table} {rows : List KlineRow} {fields : List String}
    (hrows : t.rows = rows.map (toRow t.names)) (hstamp : Table.stampName ∉ fields)
    (hcolumns : ∀ field ∈ fields, field ∉ t.names → ∀ row ∈ rows, row.carries field = false) :
    t.view id fields = view fields rows := by
  have hinstants : t.rows.map Row.instant? = (rows.map (toRow [])).map Row.instant? := by
    rw [hrows, List.map_map, List.map_map]
    rfl
  rw [Table.view, view, Table.stamps, Table.stampsFrom_congr hinstants]
  congr 1
  funext date field
  by_cases hfield : field ∈ fields
  · rw [if_pos hfield, if_pos hfield]
    have hname : field ≠ Table.stampName := fun heq => hstamp (heq ▸ hfield)
    have hlast : Cube.lastRowAt t date =
        (rows.reverse.find? fun row => (row.toRow []).instant? = some date).map (toRow t.names) := by
      rw [Cube.lastRowAt, hrows, ← List.map_reverse, List.find?_map]
      rfl
    rw [Cube.valueAt, id, Table.hasName_of_ne hname, hlast, Option.bind_map]
    by_cases hcolumn : field ∈ t.names
    · rw [if_pos (decide_eq_true hcolumn)]
      refine congrArg (Option.bind _) (funext fun row => ?_)
      have hlt := List.idxOf_lt_length_of_mem hcolumn
      have hcell : (row.toRow t.names).cellAt (t.names.idxOf field) =
          Cell.ofValue (row.value field) := by
        simp [toRow, Row.cellAt, hlt, List.getElem_idxOf]
      rw [Function.comp_apply, Table.cellNamed_of_ne hname, hcell]
    · -- Without the column there is no value, and no row would have had one.
      rw [if_neg (by simpa using hcolumn)]
      symm
      rw [Option.bind_eq_none_iff]
      intro row hrow
      have hmem := List.mem_reverse.mp (List.mem_of_find?_eq_some hrow)
      rw [value_of_not_carries (hcolumns field hfield hcolumn row hmem)]
      rfl
  · rw [if_neg hfield, if_neg hfield]

theorem mem_columnNames {rows : List KlineRow} {fields : List String} {field : String} :
    field ∈ columnNames rows fields ↔ field ∈ fields ∧ ∃ row ∈ rows, row.carries field = true := by
  have h := mem_map_distinctBy id (fields.filter fun f => rows.any (carries · f)) field
  simpa [columnNames] using h

theorem map_fst_columns (rows : List KlineRow) (names : List String) :
    (names.map fun name => (name, rows.map (value · name))).map Prod.fst = names := by
  rw [List.map_map]
  exact List.map_id _

theorem length_columns (rows : List KlineRow) (names : List String) :
    ∀ column ∈ names.map fun name => (name, rows.map (value · name)),
      column.2.length = (rows.map time).length := by
  simp

/-- Rows make a table of the columns that some row carries, if none of these has the reserved name. -/
theorem exists_table_columns {fields : List String} {rows : List KlineRow}
    (hstamp : Table.stampName ∉ columnNames rows fields) :
    ∃ t, table rows fields = .ok t ∧ t.names = columnNames rows fields ∧
      t.rows = rows.map (toRow (columnNames rows fields)) := by
  have hnames := map_fst_columns rows (columnNames rows fields)
  have hnodup : (columnNames rows fields).Nodup := by
    simpa [columnNames] using nodup_map_distinctBy id (fields.filter fun f => rows.any (carries · f))
  rw [← hnames] at hnodup hstamp
  obtain ⟨t, ht, htnames, htrows⟩ := Table.exists_ofColumns (length_columns rows _) hnodup hstamp
  rw [hnames] at htnames
  rw [rowsOf_eq_map_toRow] at htrows
  exact ⟨t, ht, htnames, htrows⟩

theorem table_of_stampName {fields : List String} {rows : List KlineRow}
    (hstamp : Table.stampName ∈ columnNames rows fields) : table rows fields = .error .columnNames := by
  refine Table.ofColumns_of_stampName (length_columns rows _) ?_
  rw [map_fst_columns]
  exact hstamp

/-- Received rows are a table with a column for every requested field that some row carries. -/
theorem exists_table_rows {fields : List String} (hstamp : Table.stampName ∉ fields)
    (rows : List KlineRow) :
    ∃ t, table rows fields = .ok t ∧ t.names = columnNames rows fields ∧
      t.rows = rows.map (toRow (columnNames rows fields)) :=
  exists_table_columns fun h => hstamp (mem_columnNames.mp h).1

theorem mem_of_mem_arranged {start stop : Instant} {rows : List KlineRow} {row : KlineRow}
    (h : row ∈ arranged start stop rows) : row ∈ distinctBy (fun row => row.stamp.rank?) rows :=
  List.mem_mergeSort.mp (List.mem_filter.mp h).1

/-- There is a table of received rows, and of a window it shows what the arranged rows show. -/
theorem exists_table {fields : List String} (hstamp : Table.stampName ∉ fields)
    (rows : List KlineRow) (start stop : Instant) :
    ∃ t, table rows fields = .ok t ∧
      (t.dedupFirst.within start stop).view id fields = view fields (arranged start stop rows) := by
  obtain ⟨t, ht, htnames, htrows⟩ := exists_table_rows hstamp rows
  refine ⟨t, ht, ?_⟩
  rw [← htnames] at htrows
  have harranged := rows_within_dedupFirst htrows start stop
  refine @view_eq_view (t.dedupFirst.within start stop) _ _ harranged hstamp ?_
  intro field hfield hcolumn row hrow
  have hrow' : row ∈ rows := (distinctAfter_sublist _ _ _).subset (mem_of_mem_arranged hrow)
  have hnames' : (t.dedupFirst.within start stop).names = columnNames rows fields := htnames
  rw [hnames', mem_columnNames] at hcolumn
  exact Bool.eq_false_iff.mpr fun hcarries => hcolumn ⟨hfield, row, hrow', hcarries⟩

/-- The row is stamped with an instant that is not after the given one, as far as milliseconds tell. -/
def isDisclosedBy (last : Instant) (row : KlineRow) : Bool :=
  row.time.millis ≤ last.millis

/-- Rows that are not disclosed do not matter for a window that ends by then. -/
theorem arranged_filter {start stop last : Instant} (h : stop.millis ≤ last.millis)
    (rows : List KlineRow) :
    arranged start stop (rows.filter (isDisclosedBy last)) = arranged start stop rows := by
  have hwindow : ∀ row : KlineRow, (row.toRow []).isWithin start stop =
      ((row.toRow []).isWithin start stop && row.isDisclosedBy last) := by
    intro row
    rw [Bool.eq_iff_iff, Bool.and_eq_true, iff_self_and]
    intro hin
    simp only [toRow, stamp, Row.isWithin, Cell.millis?, Bool.and_eq_true, decide_eq_true_eq] at hin
    exact decide_eq_true (Int.le_trans hin.2 h)
  have hkey : ∀ row : KlineRow, row.isDisclosedBy last =
      (row.stamp.rank?).all fun ms => decide (ms ≤ last.millis) := fun _ => rfl
  have hfilter : ∀ xs : List KlineRow, xs.filter (fun row => (row.toRow []).isWithin start stop) =
      (xs.filter (isDisclosedBy last)).filter fun row => (row.toRow []).isWithin start stop := by
    intro xs
    rw [List.filter_filter]
    exact List.filter_congr fun row _ => hwindow row
  symm
  rw [arranged, hfilter, filter_mergeSort stampLE_trans stampLE_total, filter_distinctBy _ _ _ hkey]
  rfl

end KlineRow

end MarketBars
