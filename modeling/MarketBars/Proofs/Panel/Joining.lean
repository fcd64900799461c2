import MarketBars.Proofs.Panel.Scatter
import MarketBars.Proofs.Table.Reading

/-!
# The union of tables

The cube of some tables has the timestamps of all of them. At each date, table and field it holds the value
in the last row of the table that is stamped with the date, and nothing where there is no such row, no such
column or no number. Tables of which some timestamp cannot be read have no cube.
-/

namespace MarketBars

/-- Of the elements of a list that fail a test there is a first one. -/
theorem exists_first_of_not_forall {α : Type} {p : α → Prop} {xs : List α} (h : ¬ ∀ x ∈ xs, p x) :
    ∃ before x after, xs = before ++ x :: after ∧ (∀ y ∈ before, p y) ∧ ¬ p x := by
  classical
  have hsome : (xs.find? fun x => ¬ p x).isSome = true := by simpa using h
  obtain ⟨x, hx⟩ := Option.isSome_iff_exists.mp hsome
  obtain ⟨hfail, before, after, hsplit, hbefore⟩ := List.find?_eq_some_iff_append.mp hx
  exact ⟨before, x, after, hsplit, by simpa using hbefore, by simpa using hfail⟩

namespace Table

def IsReadable (t : Table) : Prop :=
  ∀ r ∈ t.rows, ∃ u, r.instant? = some u

/-- A row is stamped with an instant, and no later row is. -/
def IsLastAt (t : Table) (date : Instant) (r : Row) : Prop :=
  ∃ before after, t.rows = before ++ r :: after ∧ r.instant? = some date ∧
    ∀ r' ∈ after, r'.instant? ≠ some date

theorem isReadable_of_stamps {t : Table} {ts : List Instant} (h : t.stamps = .ok ts) :
    t.IsReadable := by
  intro r hr
  have hmem : r.instant? ∈ ts.map some := stamps_eq_ok_iff.mp h ▸ List.mem_map_of_mem hr
  obtain ⟨u, -, hu⟩ := List.mem_map.mp hmem
  exact ⟨u, hu.symm⟩

theorem stampsFrom_of_unreadable {rows rest : List Row} {r : Row} (row : Nat)
    (hrows : ∀ r' ∈ rows, ∃ u, r'.instant? = some u) (hr : r.instant? = none) :
    stampsFrom row (rows ++ r :: rest) =
      .error (.table ("null timestamp at row " ++ Nat.repr (row + rows.length))) := by
  induction rows generalizing row with
  | nil =>
    rw [List.nil_append, stampsFrom, hr]
    rfl
  | cons a rows ih =>
    obtain ⟨u, hu⟩ := hrows a List.mem_cons_self
    have hrest := ih (row + 1) fun r' hr' => hrows r' (List.mem_cons_of_mem a hr')
    rw [List.cons_append, stampsFrom, hu]
    dsimp only
    rw [hrest, List.length_cons, show row + 1 + rows.length = row + (rows.length + 1) by omega]

end Table

namespace Cube

/-- A cube is the union of tables. Its dates are the timestamps of all of them, in order, and its other axes
are given. A value is that of the last row of its table with its date, in the column of its field. -/
structure UnionJoin (tables : List (Ticker × Table)) (fields : List String) (c : Cube) : Prop where
  dates_ascending : c.dates.Pairwise (· < ·)
  mem_dates : ∀ date, date ∈ c.dates ↔ ∃ e ∈ tables, ∃ r ∈ e.2.rows, r.instant? = some date
  tickers_eq : c.tickers = tables.map Prod.fst
  fields_eq : c.fields = fields
  get_eq_some_iff : ∀ {d t f date e field}, c.dates[d]? = some date → tables[t]? = some e →
    fields[f]? = some field → ∀ v, c.get d t f = some v ↔
      field ∈ e.2.names ∧ ∃ r, e.2.IsLastAt date r ∧
        (r.cellAt (e.2.names.idxOf field)).number? = some v

theorem lastRowAt_eq_some_iff {table : Table} {date : Instant} {r : Row} :
    lastRowAt table date = some r ↔ table.IsLastAt date r := by
  rw [lastRowAt, List.find?_eq_some_iff_append]
  constructor
  · rintro ⟨hdate, after, before, hrows, hafter⟩
    refine ⟨before.reverse, after.reverse, ?_, of_decide_eq_true hdate, fun r' hr' => ?_⟩
    · rw [← List.reverse_reverse table.rows, hrows]
      simp
    · simpa using hafter r' (List.mem_reverse.mp hr')
  · rintro ⟨before, after, hrows, hdate, hafter⟩
    refine ⟨decide_eq_true hdate, after.reverse, before.reverse, ?_, fun r' hr' => ?_⟩
    · rw [hrows]
      simp
    · simpa using hafter r' (List.mem_reverse.mp hr')

theorem valueAt_eq_some_iff {table : Table} {date : Instant} {field : String}
    (hfield : field ≠ Table.stampName) {v : Binary64} :
    valueAt table date field = some v ↔ field ∈ table.names ∧ ∃ r, table.IsLastAt date r ∧
      (r.cellAt (table.names.idxOf field)).number? = some v := by
  simp only [valueAt, Table.hasName_of_ne hfield, Table.cellNamed_of_ne hfield, decide_eq_true_eq]
  by_cases hmem : field ∈ table.names
  · rw [if_pos hmem, Option.bind_eq_some_iff]
    simp only [lastRowAt_eq_some_iff, hmem, true_and]
  · simp [hmem]

theorem unionJoin_of_assemble {tables : List (Ticker × Table)} {fields : List String} {c : Cube}
    (hfields : Table.stampName ∉ fields) (h : assemble tables fields = .ok c) :
    UnionJoin tables fields c := by
  rw [assemble_eq] at h
  obtain ⟨stamps, hstamps, rfl⟩ := map_eq_ok_iff.mp h
  have hdates : (union (sortedInstants stamps.flatten) tables fields).dates =
      sortedInstants stamps.flatten := rfl
  refine ⟨sortedInstants_pairwise _, fun date => ?_, rfl, rfl, ?_⟩
  · rw [hdates, mem_sortedInstants, mem_flatten_of_stampsOf hstamps]
  · intro d t f date e field hdate he hfield v
    have hname : field ≠ Table.stampName := fun heq =>
      hfields (heq ▸ List.mem_of_getElem? hfield)
    rw [← valueAt_eq_some_iff hname]
    have hget : (union (sortedInstants stamps.flatten) tables fields).get d t f =
        valueAt e.2 date field := by
      have hdate' : (sortedInstants stamps.flatten)[d]? = some date := hdate
      rw [get_union, hdate', he, hfield]
      rfl
    rw [hget]

theorem exists_assemble_of_readable {tables : List (Ticker × Table)}
    (h : ∀ e ∈ tables, e.2.IsReadable) (fields : List String) :
    ∃ c, assemble tables fields = .ok c := by
  have hstamps : ∃ stamps, stampsOf tables = .ok stamps := by
    rw [stampsOf_eq_mapM]
    exact exists_mapM fun e he => Table.exists_stamps_of_instants (h e he)
  obtain ⟨stamps, hstamps⟩ := hstamps
  exact ⟨_, by rw [assemble_eq, hstamps]; rfl⟩

/-- The first timestamp that cannot be read is the error. -/
theorem exists_assemble_eq_error {tables : List (Ticker × Table)}
    (h : ¬ ∀ e ∈ tables, e.2.IsReadable) (fields : List String) :
    ∃ before e after rows r rest, tables = before ++ e :: after ∧
      (∀ e' ∈ before, e'.2.IsReadable) ∧ e.2.rows = rows ++ r :: rest ∧
      (∀ r' ∈ rows, ∃ u, r'.instant? = some u) ∧ r.instant? = none ∧
      assemble tables fields =
        .error (.table ("null timestamp at row " ++ Nat.repr rows.length)) := by
  obtain ⟨before, e, after, rfl, hbefore, he⟩ := exists_first_of_not_forall h
  obtain ⟨rows, r, rest, hrows, hread, hr⟩ := exists_first_of_not_forall he
  have hnone : r.instant? = none := by
    cases hinstant : r.instant? with
    | none => rfl
    | some u => exact absurd ⟨u, hinstant⟩ hr
  refine ⟨before, e, after, rows, r, rest, rfl, hbefore, hrows, hread, hnone, ?_⟩
  have hstamps : e.2.stamps = .error (.table ("null timestamp at row " ++ Nat.repr rows.length)) := by
    rw [Table.stamps, hrows, Table.stampsFrom_of_unreadable 0 hread hnone, Nat.zero_add]
  obtain ⟨stamps, hearlier⟩ := exists_mapM fun e' he' =>
    Table.exists_stamps_of_instants (hbefore e' he')
  rw [assemble_eq, stampsOf_eq_mapM, List.mapM_append, hearlier, List.mapM_cons, hstamps]
  rfl

/-- Tables of which all timestamps can be read are assembled to their union, without a write outside of the
array. Otherwise the first timestamp that cannot be read is an error, and there is no cube. -/
theorem assemble_joins_tables {fields : List String} (hfields : Table.stampName ∉ fields)
    (tables : List (Ticker × Table)) :
    ((∀ e ∈ tables, e.2.IsReadable) → ∃ c, assemble tables fields = .ok c ∧
      assembleByWrites tables fields = .ok (some c) ∧ UnionJoin tables fields c) ∧
    ((¬ ∀ e ∈ tables, e.2.IsReadable) → ∃ before e after rows r rest, tables = before ++ e :: after ∧
      (∀ e' ∈ before, e'.2.IsReadable) ∧ e.2.rows = rows ++ r :: rest ∧
      (∀ r' ∈ rows, ∃ u, r'.instant? = some u) ∧ r.instant? = none ∧
      assemble tables fields =
        .error (.table ("null timestamp at row " ++ Nat.repr rows.length)) ∧
      assembleByWrites tables fields =
        .error (.table ("null timestamp at row " ++ Nat.repr rows.length))) := by
  constructor
  · intro hread
    obtain ⟨c, hc⟩ := exists_assemble_of_readable hread fields
    refine ⟨c, hc, ?_, unionJoin_of_assemble hfields hc⟩
    rw [assembleByWrites_eq, hc]
    rfl
  · intro hread
    obtain ⟨before, e, after, rows, r, rest, htables, hbefore, hrows, hearlier, hr, herror⟩ :=
      exists_assemble_eq_error hread fields
    refine ⟨before, e, after, rows, r, rest, htables, hbefore, hrows, hearlier, hr, herror, ?_⟩
    rw [assembleByWrites_eq, herror]
    rfl

/-- The leap second after the last second of the calendar. -/
def lastLeapSecond : Instant :=
  ⟨⟨lastDay, by decide, by decide⟩,
    { TimeOfDay.lastSecond with nano := 1000000000, nano_lt := by decide }⟩

/-- A leap second at the end of the calendar can be kept in a table, but not read back. -/
theorem unreadable_stamp_has_no_cube : Table.stampName ∉ ["close"] ∧
    ∃ t, Table.ofColumns [lastLeapSecond] [("close", [some (.ofInt 1)])] = .ok t ∧
      assemble [(.stock "A", t)] ["close"] = .error (.table "null timestamp at row 0") ∧
      ¬ ∃ c, assemble [(.stock "A", t)] ["close"] = .ok c ∧ UnionJoin [(.stock "A", t)] ["close"] c := by
  refine ⟨by decide, ?_⟩
  have hlength : ∀ column ∈ [("close", [some (Binary64.ofInt 1)])],
      column.2.length = [lastLeapSecond].length := by decide
  obtain ⟨t, ht, -, hrows⟩ := Table.exists_ofColumns hlength (by decide) (by decide)
  have hstamps : t.stamps = .error (.table "null timestamp at row 0") := by
    rw [Table.stamps, hrows]
    rfl
  have herror : assemble [(.stock "A", t)] ["close"] = .error (.table "null timestamp at row 0") := by
    rw [assemble_eq, stampsOf, hstamps]
    rfl
  refine ⟨t, ht, herror, ?_⟩
  rintro ⟨c, hc, -⟩
  rw [herror] at hc
  cases hc

/-- The timestamps of a table that are not in order, and of which one is repeated. -/
def repeatedStamps : List Instant :=
  [.startOf .afterNewYear, .startOf .newYear, .startOf .afterNewYear]

/-- The closing prices of these timestamps. -/
def repeatedCloses : List (String × List (Option Binary64)) :=
  [("close", [some (.ofInt 1), some (.ofInt 2), some (.ofInt 3)])]

/-- Two tables of one ticker, of which each lacks a column. The later row of a date counts, and nothing is
carried from one table to the other. -/
theorem assemble_joins_tables_repeated : Table.stampName ∉ ["close", "open"] ∧
    ∃ t t' c, Table.ofColumns repeatedStamps repeatedCloses = .ok t ∧
      Table.ofColumns [.startOf .newYear] [("open", [some (.ofInt 7)])] = .ok t' ∧
      (∀ e ∈ [(Ticker.stock "A", t), (Ticker.stock "A", t')], e.2.IsReadable) ∧
      assemble [(.stock "A", t), (.stock "A", t')] ["close", "open"] = .ok c ∧
      c.dates = [.startOf .newYear, .startOf .afterNewYear] ∧
      c.get 1 0 0 = some (.ofInt 3) ∧ c.get 0 1 0 = none ∧ c.get 0 1 1 = some (.ofInt 7) := by
  have hfields : Table.stampName ∉ ["close", "open"] := by decide
  have hlength : ∀ column ∈ repeatedCloses, column.2.length = repeatedStamps.length := by decide
  have hlength' : ∀ column ∈ [("open", [some (Binary64.ofInt 7)])],
      column.2.length = [Instant.startOf .newYear].length := by decide
  obtain ⟨t, ht, hnames, hrows⟩ := Table.exists_ofColumns hlength (by decide) (by decide)
  obtain ⟨t', ht', hnames', hrows'⟩ := Table.exists_ofColumns hlength' (by decide) (by decide)
  have hstamps : t.stamps = .ok repeatedStamps := by
    rw [Table.stamps, hrows]
    rfl
  have hstamps' : t'.stamps = .ok [.startOf .newYear] := by
    rw [Table.stamps, hrows']
    rfl
  have hread : ∀ e ∈ [(Ticker.stock "A", t), (Ticker.stock "A", t')], e.2.IsReadable := by
    simp [Table.isReadable_of_stamps hstamps, Table.isReadable_of_stamps hstamps']
  obtain ⟨c, hc, -, hjoin⟩ := (assemble_joins_tables hfields _).1 hread
  have hdates : c.dates = [.startOf .newYear, .startOf .afterNewYear] := by
    refine eq_of_ascending (fun _ _ h h' => Int.lt_asymm h h') hjoin.dates_ascending (by decide)
      fun date => ?_
    have hmem : date ∈ c.dates ↔ date ∈ repeatedStamps ∨ date ∈ [Instant.startOf .newYear] := by
      rw [hjoin.mem_dates, Table.mem_stamps_iff hstamps, Table.mem_stamps_iff hstamps']
      simp
    rw [hmem]
    simp only [repeatedStamps, List.mem_cons, List.not_mem_nil, or_false]
    grind
  have hlast : t.IsLastAt (.startOf .afterNewYear)
      ⟨.moment (Instant.startOf .afterNewYear).millis, [.number (.ofInt 3)]⟩ := by
    refine ⟨t.rows.take 2, [], ?_, by decide, fun _ h => absurd h List.not_mem_nil⟩
    rw [hrows]
    decide
  have hlast' : t'.IsLastAt (.startOf .newYear)
      ⟨.moment (Instant.startOf .newYear).millis, [.number (.ofInt 7)]⟩ := by
    refine ⟨[], [], ?_, by decide, fun _ h => absurd h List.not_mem_nil⟩
    rw [hrows']
    decide
  have hfirst : c.dates[0]? = some (.startOf .newYear) := by rw [hdates]; rfl
  have hsecond : c.dates[1]? = some (.startOf .afterNewYear) := by rw [hdates]; rfl
  refine ⟨hfields, t, t', c, ht, ht', hread, hc, hdates, ?_, ?_, ?_⟩
  · refine (hjoin.get_eq_some_iff hsecond rfl rfl _).mpr ⟨?_, _, hlast, ?_⟩
    · exact hnames ▸ List.mem_cons_self
    · rw [show t.names = ["close"] from hnames]
      decide
  · refine Option.eq_none_iff_forall_ne_some.mpr fun v hv => ?_
    have hmem : "close" ∈ t'.names := ((hjoin.get_eq_some_iff hfirst rfl rfl v).mp hv).1
    rw [hnames'] at hmem
    revert hmem
    decide
  · refine (hjoin.get_eq_some_iff hfirst rfl rfl _).mpr ⟨?_, _, hlast', ?_⟩
    · exact hnames' ▸ List.mem_cons_self
    · rw [show t'.names = ["open"] from hnames']
      decide

end Cube

end MarketBars
