import MarketBars.Proofs.Panel.RowMajor

/-!
# Laying a cube out again

The axes of tickers and fields of a cube are laid out by label, and dates without any value are dropped.
These operations satisfy the laws that their names suggest: the two axes do not interfere, a layout of a
layout is the last one as long as no label was lost before, and only the last of several drops counts. A
layout of a request is therefore stable: requesting the same labels of the answer gives the answer.
-/

namespace MarketBars

/-- Looking a label up in one list and what is found in another is looking it up in the other, unless it is
only there. -/
theorem findIdx?_bind_findIdx? {α κ : Type} [BEq κ] [LawfulBEq κ] (key : α → κ) {axis first : List α}
    (b : α) (h : (∃ a ∈ axis, key a = key b) → ∃ a ∈ first, key a = key b) :
    ((first.findIdx? fun a => key a == key b).bind fun i =>
      first[i]?.bind fun a => axis.findIdx? fun x => key x == key a) =
        axis.findIdx? fun x => key x == key b := by
  cases hfind : first.findIdx? fun a => key a == key b with
  | none =>
    symm
    apply List.findIdx?_eq_none_iff.mpr
    intro x hx
    refine beq_eq_false_iff_ne.mpr fun hkey => ?_
    obtain ⟨a, ha, hab⟩ := h ⟨x, hx, hkey⟩
    have hne := List.findIdx?_eq_none_iff.mp hfind a ha
    exact absurd hab (beq_eq_false_iff_ne.mp hne)
  | some i =>
    obtain ⟨hi, hkey, -⟩ := List.findIdx?_eq_some_iff_getElem.mp hfind
    simp [List.getElem?_eq_getElem hi, beq_iff_eq.mp hkey]

/-- Values that are all there are found at their positions. -/
theorem getElem?_filterMap {α β : Type} {f : α → Option β} {xs : List α}
    (h : ∀ x ∈ xs, ∃ y, f x = some y) (i : Nat) : (xs.filterMap f)[i]? = xs[i]?.bind f := by
  have hi := congrArg (fun l => l[i]?.join) (map_eq_map_some_filterMap h)
  simp only [List.getElem?_map] at hi
  cases hx : xs[i]? <;> cases hy : (xs.filterMap f)[i]? <;> simp_all

namespace Cube

variable {c : Cube} {tickers : List Ticker} {fields : List String} {positions : List Nat}

theorem tabulate_get (c : Cube) : tabulate c.dates c.tickers c.fields c.get = c := by
  obtain ⟨dates, tickers, fields, values, hsize⟩ := c
  simp only [tabulate, mk.injEq, true_and]
  apply Array.ext
  · simp [hsize]
  · intro i hi hi'
    have hlt : i < dates.length * tickers.length * fields.length := hsize ▸ hi'
    obtain ⟨hd, ht, hf⟩ := positions_of_lt hlt
    have hplace := (place_eq_iff ht hf).mpr ⟨rfl, rfl, rfl⟩
    simp [get, hd, ht, hf, hplace, hi']

theorem ext_get {c c' : Cube} (hdates : c.dates = c'.dates) (htickers : c.tickers = c'.tickers)
    (hfields : c.fields = c'.fields) (hget : ∀ d t f, c.get d t f = c'.get d t f) : c = c' := by
  rw [← tabulate_get c, ← tabulate_get c', hdates, htickers, hfields]
  congr 1
  funext d t f
  exact hget d t f

/-! ## The axes of tickers and fields -/

theorem reindexTickers_reindexFields (c : Cube) (tickers : List Ticker) (fields : List String) :
    (c.reindexTickers tickers).reindexFields fields =
      (c.reindexFields fields).reindexTickers tickers := by
  refine ext_get rfl rfl rfl fun d t f => ?_
  have hfields : (c.reindexTickers tickers).fields = c.fields := rfl
  have htickers : (c.reindexFields fields).tickers = c.tickers := rfl
  rw [get_reindexFields, get_reindexTickers, hfields, htickers]
  simp only [get_reindexTickers, get_reindexFields]
  -- The four lookups are independent of each other.
  cases tickers[t]? <;> cases fields[f]? <;> simp only [Option.bind_none, Option.bind_some, Option.bind_fun_none]
  rename_i ticker field
  cases c.tickers.findIdx? (Ticker.same · ticker) <;> cases c.fields.findIdx? (· == field) <;> rfl

theorem reindexTickers_reindexTickers {first second : List Ticker}
    (h : ∀ t ∈ second, (∃ u ∈ c.tickers, u.same t) → ∃ u ∈ first, u.same t) :
    (c.reindexTickers first).reindexTickers second = c.reindexTickers second := by
  refine ext_get rfl rfl rfl fun d t f => ?_
  have haxis : (c.reindexTickers first).tickers = first := rfl
  simp only [get_reindexTickers, haxis]
  refine Option.bind_congr fun ticker hticker => ?_
  have hlabel : (∃ u ∈ c.tickers, u.symbol = ticker.symbol) → ∃ u ∈ first, u.symbol = ticker.symbol := by
    simpa only [Ticker.same, beq_iff_eq] using h ticker (List.mem_of_getElem? hticker)
  have hfound := findIdx?_bind_findIdx? Ticker.symbol ticker hlabel
  show _ = (c.tickers.findIdx? fun x => x.symbol == ticker.symbol).bind _
  rw [← hfound]
  simp only [Option.bind_assoc]
  rfl

theorem reindexFields_reindexFields {first second : List String}
    (h : ∀ f ∈ second, f ∈ c.fields → f ∈ first) :
    (c.reindexFields first).reindexFields second = c.reindexFields second := by
  refine ext_get rfl rfl rfl fun d t f => ?_
  have haxis : (c.reindexFields first).fields = first := rfl
  simp only [get_reindexFields, haxis]
  refine Option.bind_congr fun field hfield => ?_
  have hlabel : (∃ f ∈ c.fields, id f = id field) → ∃ f ∈ first, id f = id field := by
    simpa using h field (List.mem_of_getElem? hfield)
  have hfound := findIdx?_bind_findIdx? id field hlabel
  show _ = (c.fields.findIdx? fun x => id x == id field).bind _
  rw [← hfound]
  simp only [Option.bind_assoc]
  rfl

/-! ## The dates -/

def selectDates (c : Cube) (positions : List Nat) : Cube :=
  tabulate (positions.filterMap fun d => c.dates[d]?) c.tickers c.fields fun d t f =>
    positions[d]?.bind fun source => c.get source t f

theorem dropEmptyDates_eq (c : Cube) : c.dropEmptyDates = c.selectDates c.keptDates := by
  simp only [dropEmptyDates, selectDates, List.getElem?_toArray]

theorem lt_of_mem_keptDates : ∀ d ∈ c.keptDates, d < c.dates.length :=
  fun _ hd => List.mem_range.mp (List.mem_filter.mp hd).1

theorem map_dates_selectDates (h : ∀ d ∈ positions, d < c.dates.length) :
    (c.selectDates positions).dates.map some = positions.map fun d => c.dates[d]? :=
  (map_eq_map_some_filterMap fun d hd => ⟨_, List.getElem?_eq_getElem (h d hd)⟩).symm

theorem getElem?_dates_selectDates (h : ∀ d ∈ positions, d < c.dates.length) (d : Nat) :
    (c.selectDates positions).dates[d]? = positions[d]?.bind fun source => c.dates[source]? :=
  getElem?_filterMap (fun d hd => ⟨_, List.getElem?_eq_getElem (h d hd)⟩) d

theorem length_selectDates (h : ∀ d ∈ positions, d < c.dates.length) :
    (c.selectDates positions).dates.length = positions.length := by
  rw [← List.length_map some, map_dates_selectDates h, List.length_map]

theorem get_selectDates (h : ∀ d ∈ positions, d < c.dates.length) (d t f : Nat) :
    (c.selectDates positions).get d t f = positions[d]?.bind fun source => c.get source t f := by
  rw [selectDates, get_tabulate_eq]
  split
  · rfl
  · rename_i hbeyond
    symm
    refine Option.bind_eq_none_iff.mpr fun source hd => get_eq_none fun hin => hbeyond ⟨?_, hin.2⟩
    have hlength : (c.selectDates positions).dates.length = positions.length := length_selectDates h
    exact hlength ▸ (List.getElem?_eq_some_iff.mp hd).1

theorem selectDates_selectDates {chosen : List Nat} (h : ∀ d ∈ positions, d < c.dates.length)
    (hchosen : ∀ d ∈ chosen, d < positions.length) :
    (c.selectDates positions).selectDates chosen =
      c.selectDates (chosen.filterMap fun d => positions[d]?) := by
  have hin : ∀ d ∈ chosen, d < (c.selectDates positions).dates.length :=
    fun d hd => (length_selectDates h).symm ▸ hchosen d hd
  have hsource : ∀ d ∈ chosen.filterMap fun d => positions[d]?, d < c.dates.length := by
    intro source hs
    obtain ⟨d, -, hd⟩ := List.mem_filterMap.mp hs
    exact h source (List.mem_of_getElem? hd)
  have hpositions := getElem?_filterMap fun d hd => ⟨_, List.getElem?_eq_getElem (hchosen d hd)⟩
  refine ext_get ?_ rfl rfl fun d t f => ?_
  · apply List.ext_getElem?
    intro d
    rw [getElem?_dates_selectDates hin, getElem?_dates_selectDates hsource, hpositions,
      Option.bind_assoc]
    simp only [getElem?_dates_selectDates h]
  · rw [get_selectDates hin, get_selectDates hsource, hpositions, Option.bind_assoc]
    simp only [get_selectDates h]

theorem hasValueOn_selectDates (h : ∀ d ∈ positions, d < c.dates.length) {d source : Nat}
    (hd : positions[d]? = some source) :
    (c.selectDates positions).hasValueOn d = c.hasValueOn source := by
  simp only [hasValueOn, get_selectDates h, hd, Option.bind_some]
  rfl

/-- A drop among some of the dates keeps those of them that have a value. -/
theorem dropEmptyDates_selectDates (h : ∀ d ∈ positions, d < c.dates.length) :
    (c.selectDates positions).dropEmptyDates = c.selectDates (positions.filter c.hasValueOn) := by
  have hlength := length_selectDates h
  have hkept : (c.selectDates positions).keptDates.filterMap (fun d => positions[d]?) =
      positions.filter c.hasValueOn := by
    have hsome := map_getElem?_filter_range positions c.hasValueOn (c.selectDates positions).hasValueOn
      fun d source hd => hasValueOn_selectDates h hd
    rw [← hlength] at hsome
    simpa [keptDates, List.filterMap_map, Function.comp_def] using congrArg (List.filterMap id) hsome
  rw [dropEmptyDates_eq, selectDates_selectDates h, hkept]
  exact fun d hd => hlength ▸ lt_of_mem_keptDates d hd

theorem dropEmptyDates_dropEmptyDates (c : Cube) :
    c.dropEmptyDates.dropEmptyDates = c.dropEmptyDates := by
  rw [dropEmptyDates_eq c, dropEmptyDates_selectDates lt_of_mem_keptDates]
  congr 1
  exact List.filter_eq_self.mpr fun d hd => (List.mem_filter.mp hd).2

/-- Only the last of two drops counts when what lies between them treats every date by itself and gives
values only to dates that have some. -/
theorem dropEmptyDates_between (layout : Cube → Cube)
    (hselect : ∀ positions, (∀ d ∈ positions, d < c.dates.length) →
      layout (c.selectDates positions) = (layout c).selectDates positions)
    (hdates : (layout c).dates = c.dates)
    (hvalue : ∀ d, (layout c).hasValueOn d = true → c.hasValueOn d = true) :
    (layout c.dropEmptyDates).dropEmptyDates = (layout c).dropEmptyDates := by
  have hin : ∀ d ∈ c.keptDates, d < (layout c).dates.length :=
    fun d hd => hdates ▸ lt_of_mem_keptDates d hd
  rw [dropEmptyDates_eq c, hselect _ lt_of_mem_keptDates, dropEmptyDates_selectDates hin,
    dropEmptyDates_eq (layout c)]
  congr 1
  rw [keptDates, keptDates, hdates, List.filter_filter]
  refine List.filter_congr fun d _ => ?_
  by_cases hd : (layout c).hasValueOn d = true
  · simp [hd, hvalue d hd]
  · simp [hd]

theorem hasValueOn_iff {d : Nat} : c.hasValueOn d = true ↔ ∃ t f, c.get d t f ≠ none := by
  simp only [hasValueOn, List.any_eq_true, List.mem_range, Option.isSome_iff_ne_none]
  constructor
  · rintro ⟨t, -, f, -, hv⟩
    exact ⟨t, f, hv⟩
  · rintro ⟨t, f, hv⟩
    by_cases hin : d < c.dates.length ∧ t < c.tickers.length ∧ f < c.fields.length
    · exact ⟨t, hin.2.1, f, hin.2.2, hv⟩
    · exact absurd (get_eq_none hin) hv

theorem dropEmptyDates_reindexTickers (c : Cube) (tickers : List Ticker) :
    (c.dropEmptyDates.reindexTickers tickers).dropEmptyDates =
      (c.reindexTickers tickers).dropEmptyDates := by
  refine dropEmptyDates_between (reindexTickers · tickers) (fun positions h => ?_) rfl ?_
  · refine ext_get rfl rfl rfl fun d t f => ?_
    have haxis : (c.selectDates positions).tickers = c.tickers := rfl
    rw [get_reindexTickers, get_selectDates (c := c.reindexTickers tickers) h, haxis]
    simp only [get_selectDates h, get_reindexTickers]
    cases positions[d]? <;> simp
  · intro d hd
    obtain ⟨t, f, hv⟩ := hasValueOn_iff.mp hd
    obtain ⟨v, hv⟩ := Option.ne_none_iff_exists'.mp hv
    rw [get_reindexTickers] at hv
    obtain ⟨ticker, -, hv⟩ := Option.bind_eq_some_iff.mp hv
    obtain ⟨source, -, hv⟩ := Option.bind_eq_some_iff.mp hv
    exact hasValueOn_iff.mpr ⟨source, f, by simp [hv]⟩

theorem dropEmptyDates_reindexFields (c : Cube) (fields : List String) :
    (c.dropEmptyDates.reindexFields fields).dropEmptyDates =
      (c.reindexFields fields).dropEmptyDates := by
  refine dropEmptyDates_between (reindexFields · fields) (fun positions h => ?_) rfl ?_
  · refine ext_get rfl rfl rfl fun d t f => ?_
    have haxis : (c.selectDates positions).fields = c.fields := rfl
    rw [get_reindexFields, get_selectDates (c := c.reindexFields fields) h, haxis]
    simp only [get_selectDates h, get_reindexFields]
    cases positions[d]? <;> simp
  · intro d hd
    obtain ⟨t, f, hv⟩ := hasValueOn_iff.mp hd
    obtain ⟨v, hv⟩ := Option.ne_none_iff_exists'.mp hv
    rw [get_reindexFields] at hv
    obtain ⟨field, -, hv⟩ := Option.bind_eq_some_iff.mp hv
    obtain ⟨source, -, hv⟩ := Option.bind_eq_some_iff.mp hv
    exact hasValueOn_iff.mpr ⟨t, source, by simp [hv]⟩

/-! ## What is left after a drop -/

/-- A cube holds some dates of another one, in their order, with all of their values: those at the
positions on which the other has a value. -/
structure KeepsDates (kept c : Cube) (positions : List Nat) : Prop where
  ascending : positions.Pairwise (· < ·)
  mem_iff : ∀ d, d ∈ positions ↔ d < c.dates.length ∧ ∃ t f, c.get d t f ≠ none
  dates_eq : kept.dates.map some = positions.map fun d => c.dates[d]?
  tickers_eq : kept.tickers = c.tickers
  fields_eq : kept.fields = c.fields
  slab_eq : ∀ i d, positions[i]? = some d → kept.slab? i = c.slab? d

theorem keepsDates_dropEmptyDates (c : Cube) : c.dropEmptyDates.KeepsDates c c.keptDates := by
  rw [dropEmptyDates_eq]
  refine ⟨List.pairwise_lt_range.filter _, fun d => ?_, ?_, rfl, rfl, fun i d hi => ?_⟩
  · rw [keptDates, List.mem_filter, List.mem_range, hasValueOn_iff]
  · exact map_dates_selectDates lt_of_mem_keptDates
  · have hlt : i < (c.selectDates c.keptDates).dates.length := by
      rw [length_selectDates lt_of_mem_keptDates]
      exact (List.getElem?_eq_some_iff.mp hi).1
    have hget : (c.selectDates c.keptDates).get i = c.get d := by
      funext t f
      rw [get_selectDates lt_of_mem_keptDates, hi, Option.bind_some]
    rw [slab?_eq hlt, slab?_eq (lt_of_mem_keptDates d (List.mem_of_getElem? hi)), slab, slab, hget]
    rfl

theorem normalize_normalize (c : Cube) (tickers : List Ticker) (fields : List String) :
    ∃ laid, c.normalize tickers fields ⟨false, false, false⟩ = .cube laid ∧
      laid.normalize tickers fields ⟨false, false, false⟩ = .cube laid := by
  refine ⟨_, rfl, congrArg History.cube ?_⟩
  have htwice : ((((c.reindexTickers tickers).reindexFields fields).reindexTickers
      tickers).reindexFields fields) = (c.reindexTickers tickers).reindexFields fields := by
    rw [← reindexTickers_reindexFields (c.reindexTickers tickers),
      reindexTickers_reindexTickers fun t ht _ => ⟨t, ht, beq_self_eq_true _⟩,
      reindexFields_reindexFields fun f hf _ => hf]
  calc ((c.reindexTickers tickers |>.reindexFields fields).dropEmptyDates.reindexTickers tickers
          |>.reindexFields fields).dropEmptyDates
      = (((c.reindexTickers tickers |>.reindexFields fields).dropEmptyDates.reindexTickers
          tickers).dropEmptyDates.reindexFields fields).dropEmptyDates :=
        (dropEmptyDates_reindexFields _ _).symm
    _ = (((c.reindexTickers tickers |>.reindexFields fields).reindexTickers
          tickers).dropEmptyDates.reindexFields fields).dropEmptyDates := by
        rw [dropEmptyDates_reindexTickers]
    _ = (((c.reindexTickers tickers |>.reindexFields fields).reindexTickers
          tickers).reindexFields fields).dropEmptyDates := dropEmptyDates_reindexFields _ _
    _ = (c.reindexTickers tickers |>.reindexFields fields).dropEmptyDates := by rw [htwice]

/-- The laws of layouts and drops. A label that the cube does not have may be left out in between. -/
theorem layout_laws (c : Cube) :
    (∀ tickers fields, (c.reindexTickers tickers).reindexFields fields =
      (c.reindexFields fields).reindexTickers tickers) ∧
    (∀ first second : List Ticker,
      (∀ t ∈ second, (∃ u ∈ c.tickers, u.same t) → ∃ u ∈ first, u.same t) →
        (c.reindexTickers first).reindexTickers second = c.reindexTickers second) ∧
    (∀ first second : List String, (∀ f ∈ second, f ∈ c.fields → f ∈ first) →
      (c.reindexFields first).reindexFields second = c.reindexFields second) ∧
    c.dropEmptyDates.dropEmptyDates = c.dropEmptyDates ∧
    (∃ positions, c.dropEmptyDates.KeepsDates c positions) ∧
    (∀ tickers, (c.dropEmptyDates.reindexTickers tickers).dropEmptyDates =
      (c.reindexTickers tickers).dropEmptyDates) ∧
    (∀ fields, (c.dropEmptyDates.reindexFields fields).dropEmptyDates =
      (c.reindexFields fields).dropEmptyDates) ∧
    ∀ tickers fields, ∃ laid, c.normalize tickers fields ⟨false, false, false⟩ = .cube laid ∧
      laid.normalize tickers fields ⟨false, false, false⟩ = .cube laid :=
  ⟨c.reindexTickers_reindexFields, fun _ _ => reindexTickers_reindexTickers,
    fun _ _ => reindexFields_reindexFields, c.dropEmptyDates_dropEmptyDates,
    ⟨_, c.keepsDates_dropEmptyDates⟩, c.dropEmptyDates_reindexTickers,
    c.dropEmptyDates_reindexFields, c.normalize_normalize⟩

/-- A cube in which the second of two tickers has a value. -/
def pairCube : Cube where
  dates := [.startOf ⟨7, by decide, by decide⟩]
  tickers := [.stock "A", .stock "B"]
  fields := ["close"]
  values := #[none, some (.ofInt 1)]
  size_eq := rfl

/-- Tickers that the cube does not have are left out in between, and so is a field. -/
theorem layout_laws_pairCube :
    (pairCube.reindexTickers [.stock "B"]).reindexTickers [.stock "B", .stock "C", .stock "B"] =
      pairCube.reindexTickers [.stock "B", .stock "C", .stock "B"] ∧
    (pairCube.reindexFields []).reindexFields ["open"] = pairCube.reindexFields ["open"] :=
  ⟨(layout_laws pairCube).2.1 _ _ (by decide), (layout_laws pairCube).2.2.1 _ _ (by decide)⟩

end Cube

end MarketBars
