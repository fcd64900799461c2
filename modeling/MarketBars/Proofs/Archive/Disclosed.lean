import MarketBars.Proofs.Archive.Instrument
import MarketBars.Proofs.Table.Disclosed

/-!
# Instruments up to an instant

The table of an instrument joins the values of its files along the calendar. Two archives whose files have
values at the same positions, and the same values where the calendar is not after an instant, have tables
that agree up to this instant: neither the adjustment by factors nor the dropping of repeated timestamps
carries a value from one row to another.
-/

namespace MarketBars

/-- What looks alike in two lists can be read off alike. -/
theorem map_congr_of_map_eq {α β γ δ : Type} {look : α → γ} {look' : β → γ} {xs : List α} {ys : List β}
    (h : xs.map look = ys.map look') {f : α → δ} {g : β → δ}
    (hfg : ∀ a b, look a = look' b → f a = g b) : xs.map f = ys.map g := by
  induction xs generalizing ys with
  | nil =>
    cases ys with
    | nil => rfl
    | cons b ys => cases h
  | cons a xs ih =>
    cases ys with
    | nil => cases h
    | cons b ys =>
      obtain ⟨hhead, htail⟩ := List.cons.inj h
      rw [List.map_cons, List.map_cons, hfg a b hhead, ih htail]

namespace FeatureSeries

/-- What a series shows: where its values are, and the values that may be seen. -/
structure View where
  start : Nat
  size : Nat
  value : Nat → Option Binary64

def view (shown : Nat → Bool) (s : FeatureSeries) : View :=
  ⟨s.start, s.values.size, fun i => if shown i then s.at? i else none⟩

variable {shown : Nat → Bool}

theorem at?_eq_of_view_eq {s u : FeatureSeries} (h : s.view shown = u.view shown) {i : Nat}
    (hi : shown i = true) : s.at? i = u.at? i := by
  have hvalue := congrFun (congrArg View.value h) i
  simp only [view, hi, if_true] at hvalue
  exact hvalue

/-- Values and factors that look alike give adjusted values that do. -/
theorem adjustedAt?_eq_of_view_eq {s u : FeatureSeries} (h : s.view shown = u.view shown)
    {factor? factor'? : Option FeatureSeries}
    (hfactor : factor?.map (view shown) = factor'?.map (view shown)) {i : Nat}
    (hi : shown i = true) : s.adjustedAt? factor? i = u.adjustedAt? factor'? i := by
  rw [adjustedAt?, adjustedAt?, at?_eq_of_view_eq h hi]
  cases factor? with
  | none =>
    cases factor'? with
    | none => rfl
    | some factor' => cases hfactor
  | some factor =>
    cases factor'? with
    | none => cases hfactor
    | some factor' =>
      dsimp only
      rw [at?_eq_of_view_eq (Option.some.inj hfactor) hi]

theorem earliestStart_eq_of_view_eq {xs ys : List FeatureSeries}
    (h : xs.map (view shown) = ys.map (view shown)) : earliestStart xs = earliestStart ys := by
  have hstarts := map_congr_of_map_eq h (f := start) (g := start) fun _ _ hview =>
    congrArg View.start hview
  rw [earliestStart, earliestStart, hstarts]

theorem latestStop?_eq_of_view_eq {xs ys : List FeatureSeries}
    (h : xs.map (view shown) = ys.map (view shown)) : latestStop? xs = latestStop? ys := by
  have hstops := map_congr_of_map_eq h (f := stop?) (g := stop?) fun s u hview => by
    have hstart := congrArg View.start hview
    have hsize := congrArg View.size hview
    simp only [view] at hstart hsize
    rw [stop?, stop?, hstart, hsize]
  have hmapM : ∀ zs : List FeatureSeries, zs.mapM stop? = (zs.map stop?).mapM id :=
    fun zs => by rw [List.mapM_map]; rfl
  rw [latestStop?, latestStop?, hmapM, hmapM, hstops]

end FeatureSeries

namespace Archive

section Views

variable {shown : Nat → Bool} {last? : Option Instant} {calendar : Array Instant}

/-- Rows at positions that are not shown are not up to the instant, so rows that look alike agree as far
as they are. -/
theorem filter_rowAt_eq {found found' : List (String × FeatureSeries)}
    {factor? factor'? : Option FeatureSeries}
    (hfound : (found.map fun e => (e.1, e.2.view shown)) = found'.map fun e => (e.1, e.2.view shown))
    (hfactor : factor?.map (FeatureSeries.view shown) = factor'?.map (FeatureSeries.view shown))
    {entries : List (Instant × Nat)}
    (hshown : ∀ e ∈ entries, (last?.any fun last => decide (e.1.millis ≤ last.millis)) = true →
      shown e.2 = true) :
    (entries.map fun e => rowAt found factor? e.1 e.2).filter (Row.isUpTo last?) =
      (entries.map fun e => rowAt found' factor'? e.1 e.2).filter (Row.isUpTo last?) := by
  rw [List.filter_map, List.filter_map]
  refine List.map_congr_left fun e he => ?_
  obtain ⟨hmem, hupTo⟩ := List.mem_filter.mp he
  have hi : shown e.2 = true := hshown e hmem hupTo
  refine congrArg (Row.mk _) (map_congr_of_map_eq hfound fun x y hxy => ?_)
  obtain ⟨hname, hview⟩ := Prod.mk.inj hxy
  rw [hname]
  refine congrArg Cell.ofValue (FeatureSeries.adjustedAt?_eq_of_view_eq hview ?_ hi)
  split
  · exact hfactor
  · rfl

/-- The tables of series that look alike agree up to the instant. -/
theorem tableAt_upTo {found found' : List (String × FeatureSeries)}
    {factor? factor'? : Option FeatureSeries}
    (hfound : (found.map fun e => (e.1, e.2.view shown)) = found'.map fun e => (e.1, e.2.view shown))
    (hfactor : factor?.map (FeatureSeries.view shown) = factor'?.map (FeatureSeries.view shown))
    (hshown : ∀ i t, calendar[i]? = some t →
      (last?.any fun last => decide (t.millis ≤ last.millis)) = true → shown i = true)
    {positions : List Nat} (hpositions : ∀ i ∈ positions, ∃ t, calendar[i]? = some t) :
    (tableAt calendar positions found factor?).map (Table.upTo last?) =
      (tableAt calendar positions found' factor'?).map (Table.upTo last?) := by
  have hstamps := map_eq_map_some_filterMap hpositions
  have hlength : (positions.filterMap fun i => calendar[i]?).length = positions.length := by
    simpa using (congrArg List.length hstamps).symm
  rw [tableAt_eq, tableAt_eq]
  generalize (positions.filterMap fun i => calendar[i]?) = stamps at hstamps hlength ⊢
  -- Every entry stands at a position of the calendar, where `hshown` applies.
  have hentries : ∀ e ∈ stamps.zip positions,
      (last?.any fun last => decide (e.1.millis ≤ last.millis)) = true → shown e.2 = true := by
    intro e he
    obtain ⟨k, hk, rfl⟩ := List.getElem_of_mem he
    have hk' : k < positions.length := by
      rw [List.length_zip] at hk
      omega
    have hat := congrArg (fun l => l[k]?) hstamps
    simp only [List.getElem?_map, List.getElem?_eq_getElem hk',
      List.getElem?_eq_getElem (hlength ▸ hk'), Option.map_some, Option.some.injEq] at hat
    rw [List.getElem_zip]
    exact hshown _ _ hat
  have hrows := filter_rowAt_eq hfound hfactor hentries
  rw [← rowsOf_eq_map_rowAt hlength, ← rowsOf_eq_map_rowAt hlength] at hrows
  have hnames : (columnsAt positions found factor?).map Prod.fst =
      (columnsAt positions found' factor'?).map Prod.fst := by
    rw [names_columnsAt, names_columnsAt]
    exact map_congr_of_map_eq hfound fun _ _ h => (Prod.mk.inj h).1
  rw [except_map_map, except_map_map]
  refine Table.map_ofColumns_congr (fun c hc => (length_of_mem_columnsAt c hc).trans hlength.symm)
    (fun c hc => (length_of_mem_columnsAt c hc).trans hlength.symm) hnames ?_
  -- The rows agree before repeated timestamps are dropped, and therefore also afterwards.
  intro t t' htnames ht ht'
  have hcut : t.upTo last? = t'.upTo last? :=
    Table.eq_of_names_of_rows htnames (show t.rows.filter _ = t'.rows.filter _ by rw [ht, ht', hrows])
  rw [Function.comp_apply, Function.comp_apply, Table.upTo_dedupFirst (Table.isStamped_of_rowsOf ht),
    Table.upTo_dedupFirst (Table.isStamped_of_rowsOf ht'), hcut]

variable {a b : Archive} {f : Frequency}

theorem featureFiles_view (hfeature : ∀ symbol field,
      (a.feature symbol field f).map (Option.map (FeatureSeries.view shown)) =
        (b.feature symbol field f).map (Option.map (FeatureSeries.view shown)))
    (symbol : String) (fields : List String) :
    (a.featureFiles symbol fields f).map
        (List.map fun e => (e.1, e.2.map (FeatureSeries.view shown))) =
      (b.featureFiles symbol fields f).map
        (List.map fun e => (e.1, e.2.map (FeatureSeries.view shown))) := by
  refine map_mapM_congr (fun field => ?_) fields
  refine map_bind_congr (hfeature symbol field) fun s? s'? hs => ?_
  exact congrArg (fun view? => Except.ok (field, view?)) hs

theorem found_view {files files' : List (String × Option FeatureSeries)}
    (h : (files.map fun e => (e.1, e.2.map (FeatureSeries.view shown))) =
      files'.map fun e => (e.1, e.2.map (FeatureSeries.view shown))) :
    ((found files).map fun e => (e.1, e.2.view shown)) =
      (found files').map fun e => (e.1, e.2.view shown) := by
  have hfound : ∀ fs : List (String × Option FeatureSeries),
      ((found fs).map fun e => (e.1, e.2.view shown)) =
        (fs.map fun e => (e.1, e.2.map (FeatureSeries.view shown))).filterMap fun e =>
          e.2.map fun v => (e.1, v) := by
    intro fs
    rw [found, List.map_filterMap, List.filterMap_map]
    refine congrArg (fun g => List.filterMap g fs) (funext fun e => ?_)
    simp only [Function.comp_apply, Option.map_map, Function.comp_def]
  rw [hfound, hfound, h]

theorem lacking_view {files files' : List (String × Option FeatureSeries)}
    (h : (files.map fun e => (e.1, e.2.map (FeatureSeries.view shown))) =
      files'.map fun e => (e.1, e.2.map (FeatureSeries.view shown))) :
    lacking files = lacking files' := by
  have hlacking : ∀ fs : List (String × Option FeatureSeries), lacking fs =
      ((fs.map fun e => (e.1, e.2.map (FeatureSeries.view shown))).filter fun e =>
        e.2.isNone).map Prod.fst := by
    intro fs
    rw [lacking, List.filter_map, List.map_map]
    refine congrArg (List.map Prod.fst) (List.filter_congr fun e _ => ?_)
    exact Option.isNone_map.symm
  rw [hlacking, hlacking, h]

/-- The tables of an instrument agree up to the instant when its files do at the positions shown. -/
theorem load_upTo (hfeature : ∀ symbol field,
      (a.feature symbol field f).map (Option.map (FeatureSeries.view shown)) =
        (b.feature symbol field f).map (Option.map (FeatureSeries.view shown)))
    (hshown : ∀ i t, calendar[i]? = some t →
      (last?.any fun last => decide (t.millis ≤ last.millis)) = true → shown i = true)
    (symbol : String) (fields : List String) (start stop : Instant) :
    (a.load symbol fields f calendar start stop).map
        (Option.map fun got => (got.1.upTo last?, got.2)) =
      (b.load symbol fields f calendar start stop).map
        (Option.map fun got => (got.1.upTo last?, got.2)) := by
  have hread : (liftError (a.featureFiles symbol fields f)).map
        (List.map fun e => (e.1, e.2.map (FeatureSeries.view shown))) =
      (liftError (b.featureFiles symbol fields f)).map
        (List.map fun e => (e.1, e.2.map (FeatureSeries.view shown))) := by
    rw [map_liftError, map_liftError, featureFiles_view hfeature]
  refine map_bind_congr hread fun files files' hfiles => ?_
  have hfound := found_view hfiles
  have hempty : (found files).isEmpty = (found files').isEmpty := by
    rw [← List.isEmpty_map (f := fun e : String × FeatureSeries => (e.1, e.2.view shown)), hfound,
      List.isEmpty_map]
  have hseries : ((found files).map Prod.snd).map (FeatureSeries.view shown) =
      ((found files').map Prod.snd).map (FeatureSeries.view shown) := by
    rw [List.map_map, List.map_map]
    exact map_congr_of_map_eq hfound fun _ _ h => (Prod.mk.inj h).2
  dsimp only
  rw [hempty]
  split
  · rfl
  have hreadFactor : (liftError (a.feature symbol factorField f)).map
        (Option.map (FeatureSeries.view shown)) =
      (liftError (b.feature symbol factorField f)).map (Option.map (FeatureSeries.view shown)) := by
    rw [map_liftError, map_liftError, hfeature]
  refine map_bind_congr hreadFactor fun factor? factor'? hfactor => ?_
  -- Where the table begins and ends is decided by the places of the values alone.
  rw [FeatureSeries.latestStop?_eq_of_view_eq hseries,
    FeatureSeries.earliestStart_eq_of_view_eq hseries]
  refine map_bind_congr_of_ok fun last _ => ?_
  have hpositions : ∀ i ∈ calendarPositions calendar start stop
      (FeatureSeries.earliestStart ((found files').map Prod.snd)) (min last calendar.size),
      ∃ t, calendar[i]? = some t := exists_of_mem_calendarPositions
  have htables := congrArg liftError (tableAt_upTo hfound hfactor hshown hpositions)
  rw [← map_liftError, ← map_liftError] at htables
  refine map_bind_congr htables fun t t' ht => ?_
  rw [lacking_view hfiles]
  exact congrArg (fun table => Except.ok (some (table, lacking files'))) ht

end Views

end Archive

end MarketBars
