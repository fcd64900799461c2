import MarketBars.Proofs.Archive.PriceColumns
import MarketBars.Proofs.Archive.SingleValue
import MarketBars.Proofs.Disclosure.Cut

/-!
# Mappings that get in each other's way

Where something gets in the way of a mapping, an archive with a single value tells: the value is put
in the column that gets in the way, and then the price field shows it, although the mapped column has
no file. So price fields show their columns for every archive exactly when nothing gets in the way.
-/

namespace MarketBars

/-- A request for one price field of one stock, on one day that may lie in the future. -/
def PriceRequest.ofDay (symbol : String) (field : PriceField) (day : Date) : PriceRequest where
  tickers := .one (.stock symbol)
  fields := .one field
  start := .startOf day
  stop? := some (.startOf day)
  lookAhead := true

namespace Table.Origin

theorem isSome_prices {origin : Origin} {name : String} (h : (origin name).isSome)
    (map : List (String × PriceField)) : (origin.prices map name).isSome := by
  induction map generalizing origin with
  | nil => exact h
  | cons m rest ih =>
    rw [prices, List.foldl_cons, ← prices]
    apply ih
    by_cases hname : name = m.2.name
    · rw [hname] at h ⊢
      rw [copy_target, Option.isSome_or, h, Bool.or_true]
    · rw [copy_of_ne hname]
      exact h

theorem prices_append (origin : Origin) (before after : List (String × PriceField)) :
    origin.prices (before ++ after) = (origin.prices before).prices after :=
  List.foldl_append

/-- A mapped column that is there is copied, and what it was copied to stays. -/
theorem isSome_prices_of_mem {origin : Origin} {map : List (String × PriceField)}
    {m : String × PriceField} (hm : m ∈ map) (h : (origin m.1).isSome) :
    (origin.prices map m.2.name).isSome := by
  obtain ⟨before, after, rfl⟩ := List.append_of_mem hm
  have hsource := isSome_prices h before
  have htarget : ((origin.prices before).copy m.1 m.2.name m.2.name).isSome := by
    rw [copy_target, Option.isSome_or, hsource, Bool.true_or]
  rw [prices_append]
  exact isSome_prices htarget after

end Table.Origin

/-- The answer to what one table shows of one label on one date is the value that it shows. -/
theorem Plan.exists_answerTo_single {κ : Type} (ticker : Ticker) (label : κ) (name : String)
    {view : Table.View κ} {date : Instant} (h : view.stamps = .ok [date]) :
    ∃ history, answerTo [ticker] ⟨true, true, true⟩ [label] [name] [(ticker, view)] = .ok history ∧
      history.cell 0 0 0 = view.value date label := by
  let value := Plan.viewed [(ticker, view)]
  have hvalue : value date ticker label = view.value date label := by
    have hsame : ticker.same ticker = true := beq_self_eq_true _
    have hfind : [(ticker, view)].find? (fun entry => entry.1.same ticker) = some (ticker, view) :=
      List.find?_cons_of_pos hsame
    show ([(ticker, view)].find? fun entry => entry.1.same ticker).bind _ = _
    rw [hfind]
    rfl
  have hsorted : Cube.sortedInstants [[date]].flatten = [date] := by
    show distinctBy id ([date].mergeSort _) = [date]
    rw [List.mergeSort_singleton]
    rfl
  refine ⟨(Cube.panel [date] value [ticker] [label] [name]).squeeze ⟨true, true, true⟩, ?_, ?_⟩
  · rw [answerTo, List.mapM_cons, h]
    show Except.ok ((Cube.panel (Cube.sortedInstants [[date]].flatten) value [ticker] [label]
      [name]).squeeze ⟨true, true, true⟩) = _
    rw [hsorted]
  · rw [Cube.cell_squeeze]
    show (Cube.panel [date] value [ticker] [label] [name]).getLast 0 0 = _
    have hlength : [name].length = [label].length := rfl
    rw [Cube.getLast_panel [date] value [ticker] hlength]
    have hshown : (Cube.shownDates [date] value [ticker] [label]).getLast? =
        if (view.value date label).isSome then some date else none := by
      have htest : ([ticker].any fun t => [label].any fun l => (value date t l).isSome) =
          (view.value date label).isSome := by
        rw [← hvalue, List.any_cons, List.any_nil, Bool.or_false, List.any_cons, List.any_nil,
          Bool.or_false]
      rw [Cube.shownDates, List.filter_cons, htest]
      split <;> rfl
    rw [hshown]
    cases hsome : view.value date label with
    | none => rfl
    | some v => exact hvalue.trans hsome

namespace Snapshot

open Table (Origin)

/-- A request for a day shows the value of the day, of a table that has no other day. -/
theorem exists_priceAnswer_ofDay {s : Snapshot} {symbol : String} {t : Table}
    (ht : s.table? symbol = some t) {day : Date} (hday : day.day < lastDay) (clock : MarketClock)
    (f : PriceField) (column : PriceField → String) {value : Value}
    (hvalue : t.ShowsOn day (column f) value) :
    ∃ history, s.priceAnswer clock (.ofDay symbol f day) column = .ok history ∧
      history.cell 0 0 0 = value := by
  obtain ⟨window, hwindow, hsingle, hstart, hstop⟩ := Window.exists_ofDay clock s.frequency hday
  have hfirst : window.start.millis ≤ (Instant.startOf day).millis :=
    Int.le_of_eq (congrArg Instant.millis hstart)
  obtain ⟨hstamps, hcell⟩ := hvalue window.start window.stop hfirst
    (Instant.millis_le_of_le (Instant.nano_startOf day) hstop)
  have hempty : window.isEmpty = false := by
    have hle := Instant.le_iff.mp hstop
    rw [Window.isEmpty, hstart, decide_eq_false_iff_not, Instant.lt_iff]
    omega
  let view := (t.within window.start window.stop).view column [f]
  have hviews : s.views [.stock symbol] window column [f] = .ok [(.stock symbol, view)] := by
    have hone : distinctTickers [.stock symbol] = [.stock symbol] := rfl
    have ht' : s.table? (Ticker.stock symbol).symbol = some t := ht
    rw [views, hempty, if_neg Bool.false_ne_true, hone, List.map_singleton, ht']
    rfl
  obtain ⟨history, hanswer, hshown⟩ := Plan.exists_answerTo_single (.stock symbol) f f.name
    (show view.stamps = .ok [.startOf day] from hstamps)
  refine ⟨history, ?_, ?_⟩
  · have hkinds : checkKinds name kinds (PriceRequest.ofDay symbol f day).tickers.toList = .ok () := rfl
    rw [@priceAnswer_of_window s clock (.ofDay symbol f day) window rfl hkinds hwindow]
    show liftError ((s.views [.stock symbol] window column [f]).bind
      (Plan.answerTo [.stock symbol] ⟨window.singleDate, true, true⟩ [f] [f.name])) = _
    rw [hviews, hsingle]
    exact congrArg liftError hanswer
  · rw [hshown, ← hcell]
    exact if_pos (List.mem_singleton_self f)

section Necessity

variable {settings : ArchiveSettings} {fields : List PriceField} {m : String × PriceField}
  (h : settings.MapsColumns) (hload : settings.Loadable)
  (hmapped : ∀ f ∈ fields, ∃ m ∈ settings.fieldMap, m.2 = f) (hreads : ReadsColumns settings fields)
  (hm : m ∈ settings.fieldMap) (hf : m.2 ∈ fields)

include h hload hmapped hreads hm hf

/-- An archive with a single value tells where a price field gets its value from: if the field shows its
column, it shows the value exactly when the value is in that column. The timestamps, which are asked for
like a column, would have to be shown as numbers. -/
theorem origin_of_readsColumns {x : String} (hx : x ∈ settings.fields) (hstamp : x ≠ Table.stampName)
    {v : Binary32} (hv : v.isNaN = false) (hwide : v.widen.isNaN = false) :
    ((Origin.self [x]).prices settings.fieldMap m.2.name).map (fun _ => v.widen) =
      if m.1 = Table.stampName then some (.ofInt (Instant.startOf settings.start).millis)
      else if m.1 = x then some v.widen else none := by
  obtain ⟨raw, mapped, symbol, t, hraw, hmap, ht, hholds⟩ := exists_load_ofValue hload hx hstamp hv
  rcases table?_unmapped hraw hmap symbol with ⟨hnone, -⟩ | ⟨t', u, ht', hu, hcopies, -⟩
  · rw [hnone] at ht
    cases ht
  cases ht'.symm.trans ht
  let clock : MarketClock := ⟨.startOf settings.start, .usual⟩
  have hfield := hholds.showsOn_of_copies hwide hcopies m.2.name_ne_stampName
  rw [hholds.names_eq] at hfield
  have hcolumn : t.ShowsOn settings.start (settings.columnMap.column m.2)
      (if m.1 = Table.stampName then some (.ofInt (Instant.startOf settings.start).millis)
        else if m.1 = x then some v.widen else none) := by
    rw [h.column_columnMap hm]
    exact hholds.showsOn hwide m.1
  obtain ⟨shown, hshown, hcell⟩ :=
    exists_priceAnswer_ofDay hu hload.next clock m.2 PriceField.name hfield
  obtain ⟨shown', hshown', hcell'⟩ :=
    exists_priceAnswer_ofDay ht hload.next clock m.2 settings.columnMap.column hcolumn
  have hanswers := (readsColumns_iff_priceAnswer hmapped).mp hreads _ raw mapped hraw hmap clock
    (.ofDay symbol m.2 settings.start) (List.cons_ne_nil _ _)
    (fun f hf' => (List.mem_singleton.mp hf' : f = m.2) ▸ hf)
  rw [hshown, hshown'] at hanswers
  cases hanswers
  exact hcell.symm.trans hcell'

/-- The timestamps are no column that a price field shows: they would be one number, whichever value the
archive has. -/
theorem ne_stampName_of_readsColumns : m.1 ≠ Table.stampName := by
  intro hstamp
  obtain ⟨x, hx, hne⟩ := hload.field
  have hone := origin_of_readsColumns h hload hmapped hreads hm hf hx hne
    (show Binary32.one.isNaN = false by decide) (by decide)
  have htwo := origin_of_readsColumns h hload hmapped hreads hm hf hx hne
    (show Binary32.two.isNaN = false by decide) (by decide)
  rw [if_pos hstamp] at hone htwo
  cases horigin : (Origin.self [x]).prices settings.fieldMap m.2.name with
  | none =>
    rw [horigin] at hone
    cases hone
  | some source =>
    rw [horigin] at hone htwo
    have hsame : Binary32.one.widen = Binary32.two.widen := Option.some.inj (hone.trans htwo.symm)
    exact absurd hsame (by decide)

/-- A value shows through a price field only when it is in the field's column. -/
theorem column_eq_of_readsColumns {x : String} (hx : x ∈ settings.fields) (hne : x ≠ Table.stampName)
    (hsome : ((Origin.self [x]).prices settings.fieldMap m.2.name).isSome) : m.1 = x := by
  have hvalue := origin_of_readsColumns h hload hmapped hreads hm hf hx hne
    (show Binary32.one.isNaN = false by decide) (by decide)
  obtain ⟨source, hsource⟩ := Option.isSome_iff_exists.mp hsome
  rw [hsource, if_neg (ne_stampName_of_readsColumns h hload hmapped hreads hm hf)] at hvalue
  by_cases heq : m.1 = x
  · exact heq
  · rw [if_neg heq] at hvalue
    cases hvalue

/-- Price fields that show their columns for every archive have nothing in their way. -/
theorem keepsColumn_of_readsColumns : settings.KeepsColumn m := by
  have hself : ∀ x, ((Origin.self [x]) x).isSome := by
    intro x
    rw [Origin.self, if_pos (List.mem_singleton_self x)]
    rfl
  refine ⟨ne_stampName_of_readsColumns h hload hmapped hreads hm hf, ?_, ?_⟩
  · -- The value is put in the column that is called like the field.
    intro hname
    have hsome := Origin.isSome_prices (hself m.2.name) settings.fieldMap
    exact (column_eq_of_readsColumns h hload hmapped hreads hm hf hname m.2.name_ne_stampName
      hsome).symm
  · -- The value is put in the column that replaces the mapped one before.
    intro before after hmap m' hm' heq
    by_cases hstamp : m'.1 = Table.stampName
    · exact hstamp
    have hmem : m' ∈ settings.fieldMap := by
      rw [hmap]
      exact List.mem_append_left _ hm'
    have hbefore := Origin.isSome_prices_of_mem hm' (hself m'.1)
    have hafter : ((Origin.self [m'.1]).prices settings.fieldMap m.2.name).isSome := by
      rw [hmap, Origin.prices_append]
      rw [heq] at hbefore
      exact Origin.isSome_prices_of_mem List.mem_cons_self hbefore
    have hsame : m.1 = m'.1 :=
      column_eq_of_readsColumns h hload hmapped hreads hm hf (h.listed m' hmem) hstamp hafter
    have hcolumns := h.columns_nodup
    rw [hmap, List.map_append, List.map_cons, List.nodup_append] at hcolumns
    exact absurd hsame.symm (hcolumns.2.2 _ (List.mem_map_of_mem hm') _ List.mem_cons_self)

end Necessity

/-- Price fields show the columns that are mapped to them where nothing gets in the way. Where something
does, and there is anything to load, some archive and some request show something else. -/
theorem readsColumns_exact {settings : ArchiveSettings} (h : settings.MapsColumns)
    {fields : List PriceField} (hmapped : ∀ f ∈ fields, ∃ m ∈ settings.fieldMap, m.2 = f) :
    ((∀ m ∈ settings.fieldMap, m.2 ∈ fields → settings.KeepsColumn m) →
        ReadsColumns settings fields) ∧
      (settings.Loadable → ReadsColumns settings fields →
        ∀ m ∈ settings.fieldMap, m.2 ∈ fields → settings.KeepsColumn m) := by
  constructor
  · exact readsColumns_of_keepsColumn h hmapped
  · intro hload hreads m hm hf
    exact keepsColumn_of_readsColumns h hload hmapped hreads hm hf

/-- Settings in which the opening price is served by a column that another column replaces before. -/
def chained : ArchiveSettings where
  tickers := ["A"]
  fields := ["adjclose", "close", "vol"]
  fieldMap := [("adjclose", .close), ("close", .opening), ("vol", .volume)]
  start := .newYear
  stop := .afterNewYear

theorem mapsColumns_chained : chained.MapsColumns :=
  ⟨by decide, by decide, by decide⟩

theorem loadable_chained : chained.Loadable where
  frequency := ⟨.daily, rfl⟩
  named := by decide
  field := ⟨"close", by decide, by decide⟩
  ordered := by decide
  next := by decide

/-- The opening price does not show its column: the adjusted close is in the way. -/
theorem opening_not_shown : chained.MapsColumns ∧ ¬ ReadsColumns chained [.opening] := by
  refine ⟨mapsColumns_chained, fun hreads => ?_⟩
  have hkeeps : chained.KeepsColumn ("close", .opening) :=
    keepsColumn_of_readsColumns mapsColumns_chained loadable_chained (by decide) hreads (by decide)
      (by decide)
  have hstamp := hkeeps.not_replaced [("adjclose", .close)] [("vol", .volume)] rfl
    ("adjclose", .close) List.mem_cons_self rfl
  exact absurd hstamp (by decide)

/-- The volume is shown, the close is not: where there is no adjusted close, the close itself shows. -/
theorem readsColumns_exact_chained :
    ReadsColumns chained [.volume] ∧ ¬ ReadsColumns chained [.close] := by
  constructor
  · refine (readsColumns_exact mapsColumns_chained (by decide)).1 ?_
    have hvol : chained.KeepsColumn ("vol", .volume) := by
      refine ⟨by decide, by decide, ?_⟩
      intro before after hmap m' hm' heq
      have hmem : m' ∈ chained.fieldMap := by
        rw [hmap]
        exact List.mem_append_left _ hm'
      have hnone : ∀ m ∈ chained.fieldMap, m.2.name ≠ "vol" := by decide
      exact absurd heq (hnone m' hmem)
    have honly : ∀ m ∈ chained.fieldMap, m.2 ∈ [PriceField.volume] → m = ("vol", .volume) := by decide
    intro m hm hf
    rw [honly m hm hf]
    exact hvol
  · intro hreads
    have hkeeps := (readsColumns_exact mapsColumns_chained (by decide)).2 loadable_chained hreads
      ("adjclose", .close) (by decide) (by decide)
    exact absurd (hkeeps.own_name (by decide)) (by decide)

end Snapshot

end MarketBars
