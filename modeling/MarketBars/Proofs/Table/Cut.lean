import MarketBars.Archive.Snapshot
import MarketBars.Proofs.Pipeline.Pricing

/-!
# Rows chosen by their timestamps

Rows are chosen by the milliseconds of their timestamps alone. Such a choice can be made before or after the
other operations on tables: the rows of one timestamp are kept or dropped together, so that the first of
them stays the first, and a copy of a column does not touch the timestamps. The tables of a snapshot are
made by these operations, so the choice may be put off until a request comes.
-/

namespace MarketBars

variable {test : Int → Bool}

/-- The milliseconds of the timestamp of a row pass a test. -/
def Row.passes (test : Int → Bool) (r : Row) : Bool := r.stamp.millis?.any test

namespace Table

/-- The rows whose timestamps pass a test. -/
def cut (test : Int → Bool) (t : Table) : Table :=
  t.withRows (t.rows.filter (Row.passes test)) fun _ hr => (List.mem_filter.mp hr).1

theorem within_eq_cut (t : Table) (start stop : Instant) :
    t.within start stop = t.cut fun ms => decide (start.millis ≤ ms) && decide (ms ≤ stop.millis) := by
  refine eq_of_names_of_rows rfl (List.filter_congr fun r _ => ?_)
  rw [Row.isWithin, Row.passes]
  cases r.stamp.millis? <;> rfl

/-- Tables whose rows are stamped with times are cut before or after repeated timestamps are dropped. -/
theorem cut_dedupFirst {t : Table} (h : t.IsStamped) : t.dedupFirst.cut test = (t.cut test).dedupFirst := by
  have hkey : ∀ r ∈ t.rows, Row.passes test r = r.stamp.rank?.any test := by
    intro r hr
    obtain ⟨ms, hms⟩ := h r hr
    rw [Row.passes, hms]
    rfl
  -- Rows of one timestamp are left out together, so the first of them stays the first.
  have hfirst : (distinctBy (fun r : Row => r.stamp.rank?) t.rows).filter (Row.passes test) =
      distinctBy (fun r : Row => r.stamp.rank?) (t.rows.filter (Row.passes test)) := by
    have hsub : ∀ r ∈ distinctBy (fun r : Row => r.stamp.rank?) t.rows, r ∈ t.rows :=
      fun _ hr => (distinctAfter_sublist _ _ _).subset hr
    rw [List.filter_congr hkey, List.filter_congr fun r hr => hkey r (hsub r hr)]
    exact filter_distinctBy (fun r : Row => r.stamp.rank?) _ (fun rank? => rank?.any test)
      (fun _ => rfl) t.rows
  refine eq_of_names_of_rows rfl ?_
  change ((distinctBy (fun r : Row => r.stamp.rank?) t.rows).mergeSort fun a b =>
    Cell.rankLE a.stamp.rank? b.stamp.rank?).filter (Row.passes test) = _
  rw [filter_mergeSort Row.rankLE_trans Row.rankLE_total, hfirst]
  rfl

theorem copyRows_cut (t : Table) (source : String) (column : Nat) :
    (t.copyRows source column).filter (Row.passes test) = (t.cut test).copyRows source column := by
  rw [copyRows, List.filter_map]
  rfl

/-- A copy of a column does not touch the stamps, so a table is cut before or after it is made. -/
theorem cut_withAlias {name : String} (hname : name ≠ stampName) (t : Table) (source : String) :
    (t.withAlias source name).map (cut test) = (t.cut test).withAlias source name := by
  have hhas : (t.cut test).hasName source = t.hasName source := rfl
  have hcolumn : ¬ name = "timestamp" := hname
  unfold withAlias
  rw [hhas]
  by_cases hsource : t.hasName source = true
  · rw [if_pos hsource, if_pos hsource, dif_neg hcolumn, dif_neg hcolumn]
    by_cases hmem : name ∈ t.names
    · have hmem' : name ∈ (t.cut test).names := hmem
      rw [dif_pos hmem, dif_pos hmem']
      exact congrArg Except.ok (eq_of_names_of_rows rfl (t.copyRows_cut source _))
    · have hmem' : name ∉ (t.cut test).names := hmem
      rw [dif_neg hmem, dif_neg hmem']
      exact congrArg Except.ok (eq_of_names_of_rows rfl (t.copyRows_cut source _))
  · rw [if_neg hsource, if_neg hsource]
    rfl

end Table

namespace Snapshot

/-- A table is cut before or after its columns are copied to price fields. -/
theorem cut_withPrices (test : Int → Bool) (map : List (String × PriceField)) (t : Table) :
    (withPrices map t).map (Table.cut test) = withPrices map (t.cut test) := by
  induction map generalizing t with
  | nil => rfl
  | cons m rest ih =>
    have hnames : (t.cut test).names = t.names := rfl
    rw [withPrices, withPrices, List.foldlM_cons, List.foldlM_cons, hnames]
    by_cases hcolumn : t.names.contains m.1 = true
    · rw [if_pos hcolumn, if_pos hcolumn, ← Table.cut_withAlias m.2.name_ne_stampName]
      cases t.withAlias m.1 m.2.name with
      | error e => rfl
      | ok u => exact ih u
    · rw [if_neg hcolumn, if_neg hcolumn]
      exact ih t

/-- What was loaded, with the rows whose timestamps pass a test. -/
def cutLoaded (test : Int → Bool) (loaded : List (Ticker × Option (Table × List String))) :
    List (Ticker × Option (Table × List String)) :=
  loaded.map fun e => (e.1, e.2.map fun got => (got.1.cut test, got.2))

/-- The tables of a snapshot, with the rows whose timestamps pass a test. -/
def cutTables (test : Int → Bool) (tables : List (Ticker × Table)) : List (Ticker × Table) :=
  tables.map fun e => (e.1, e.2.cut test)

/-- The tables of a snapshot can be cut when they are loaded, or when they are finished. -/
theorem loadedTables_cut (test : Int → Bool) (map : List (String × PriceField))
    (loaded : List (Ticker × Option (Table × List String))) :
    (loadedTables map loaded).map (cutTables test) = loadedTables map (cutLoaded test loaded) := by
  have hbare : (cutLoaded test loaded).filterMap (fun e => e.2.map fun got => (e.1, got.1)) =
      cutTables test (loaded.filterMap fun e => e.2.map fun got => (e.1, got.1)) := by
    rw [cutLoaded, cutTables, List.filterMap_map, List.map_filterMap]
    refine congrArg (fun g => List.filterMap g loaded) (funext fun e => ?_)
    simp only [Function.comp_apply, Option.map_map, Function.comp_def]
  rw [loadedTables, loadedTables, hbare]
  refine map_mapM (fun e => ?_) _
  rw [← cut_withPrices]
  cases withPrices map e.2 <;> rfl

end Snapshot

end MarketBars
