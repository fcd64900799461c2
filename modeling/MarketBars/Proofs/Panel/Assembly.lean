import MarketBars.Proofs.Calendar.Order
import MarketBars.Proofs.Outcome
import MarketBars.Proofs.Panel.Layout

namespace MarketBars

namespace Table

theorem stampsFrom_eq_ok_iff {row : Nat} {rows : List Row} {ts : List Instant} :
    stampsFrom row rows = .ok ts ↔ rows.map Row.instant? = ts.map some := by
  induction rows generalizing row ts with
  | nil => cases ts <;> simp [stampsFrom]
  | cons r rest ih =>
    unfold stampsFrom
    cases hr : r.instant? with
    | none => cases ts <;> simp [hr]
    | some t =>
      cases hrest : stampsFrom (row + 1) rest with
      | error e =>
        simp only [reduceCtorEq, false_iff, List.map_cons, hr]
        intro h
        cases ts with
        | nil => simp at h
        | cons t' ts' =>
          have hok := (@ih (row + 1) ts').mpr (List.cons.inj h).2
          rw [hrest] at hok
          cases hok
      | ok more =>
        have hmore := ih.mp hrest
        cases ts with
        | nil => simp
        | cons t' ts' =>
          simp only [Except.ok.injEq, List.map_cons, List.cons.injEq, hr, Option.some.injEq, hmore]
          rw [List.map_inj_right fun _ _ => Option.some.inj]

theorem stamps_eq_ok_iff {t : Table} {ts : List Instant} :
    t.stamps = .ok ts ↔ t.rows.map Row.instant? = ts.map some :=
  stampsFrom_eq_ok_iff

theorem mem_stamps_iff {t : Table} {ts : List Instant} (h : t.stamps = .ok ts) {date : Instant} :
    date ∈ ts ↔ ∃ r ∈ t.rows, r.instant? = some date := by
  have hsome : date ∈ ts ↔ some date ∈ ts.map some := by simp
  rw [hsome, ← stamps_eq_ok_iff.mp h, List.mem_map]

/-- A timestamp that cannot be read is an error of the table. -/
theorem stampsFrom_eq_error {row : Nat} {rows : List Row} {e : DataError}
    (h : stampsFrom row rows = .error e) : ∃ reason, e = .table reason := by
  induction rows generalizing row with
  | nil => cases h
  | cons r rest ih =>
    unfold stampsFrom at h
    cases hr : r.instant? with
    | none =>
      rw [hr] at h
      cases h
      exact ⟨_, rfl⟩
    | some t =>
      cases hrest : stampsFrom (row + 1) rest with
      | error e' =>
        simp only [hr, hrest, Except.error.injEq] at h
        exact ih (h ▸ hrest)
      | ok ts => simp [hr, hrest] at h

end Table

namespace Cube

theorem stampsOf_eq_error {tables : List (Ticker × Table)} {e : DataError}
    (h : stampsOf tables = .error e) : ∃ reason, e = .table reason := by
  induction tables with
  | nil => cases h
  | cons entry rest ih =>
    rw [stampsOf] at h
    cases hstamps : entry.2.stamps with
    | error e' =>
      simp only [hstamps, Except.error.injEq] at h
      exact Table.stampsFrom_eq_error (h ▸ hstamps)
    | ok ts =>
      cases hrest : stampsOf rest with
      | error e' =>
        simp only [hstamps, hrest, Except.error.injEq] at h
        exact ih (h ▸ hrest)
      | ok more => simp [hstamps, hrest] at h

theorem stampsOf_eq_mapM (tables : List (Ticker × Table)) :
    stampsOf tables = tables.mapM fun e => e.2.stamps := by
  induction tables with
  | nil => rfl
  | cons e rest ih =>
    rw [List.mapM_cons, ← ih, stampsOf]
    cases e.2.stamps with
    | error fault => rfl
    | ok ts => cases stampsOf rest <;> rfl

theorem mem_flatten_of_stampsOf {tables : List (Ticker × Table)} {stamps : List (List Instant)}
    (h : stampsOf tables = .ok stamps) (date : Instant) :
    date ∈ stamps.flatten ↔ ∃ e ∈ tables, ∃ r ∈ e.2.rows, r.instant? = some date := by
  rw [stampsOf_eq_mapM, mapM_eq_ok_iff] at h
  rw [List.mem_flatten]
  constructor
  · rintro ⟨ts, hts, hdate⟩
    have hmem : Except.ok ts ∈ tables.map fun e => e.2.stamps := by
      rw [h]
      exact List.mem_map_of_mem hts
    obtain ⟨e, he, hstamps⟩ := List.mem_map.mp hmem
    exact ⟨e, he, (Table.mem_stamps_iff hstamps).mp hdate⟩
  · rintro ⟨e, he, hdate⟩
    have hmem : e.2.stamps ∈ stamps.map .ok := by
      rw [← h]
      exact List.mem_map_of_mem he
    obtain ⟨ts, hts, hstamps⟩ := List.mem_map.mp hmem
    exact ⟨ts, hts, (Table.mem_stamps_iff hstamps.symm).mpr hdate⟩

/-- Sorted instants are strictly ascending. -/
theorem sortedInstants_pairwise (instants : List Instant) :
    (sortedInstants instants).Pairwise (· < ·) := by
  have hle : (instants.mergeSort fun a b => decide (a ≤ b)).Pairwise (· ≤ ·) := by
    refine (List.pairwise_mergeSort ?_ ?_ instants).imp of_decide_eq_true
    · intro a b c hab hbc
      exact decide_eq_true (Instant.le_trans (of_decide_eq_true hab) (of_decide_eq_true hbc))
    · intro a b
      simpa using Instant.le_total a b
  have hnodup : (sortedInstants instants).Nodup := by
    simpa [sortedInstants] using nodup_map_distinctBy id (instants.mergeSort _)
  exact List.Pairwise.imp₂ (fun _ _ => Instant.lt_of_le_of_ne)
    (hle.sublist (distinctAfter_sublist id [] _)) hnodup

theorem mem_sortedInstants {instants : List Instant} {date : Instant} :
    date ∈ sortedInstants instants ↔ date ∈ instants := by
  have h := mem_map_distinctBy id (instants.mergeSort fun a b => decide (a ≤ b)) date
  simpa [sortedInstants] using h

/-- Tables over given dates: at each date, table and field, what the table says. -/
def union (dates : List Instant) (tables : List (Ticker × Table)) (fields : List String) : Cube :=
  tabulate dates (tables.map Prod.fst) fields fun d t f =>
    dates[d]?.bind fun date => tables[t]?.bind fun e => fields[f]?.bind fun field =>
      valueAt e.2 date field

/-- The assembled cube of some tables is their union over the sorted timestamps. -/
theorem assemble_eq (tables : List (Ticker × Table)) (fields : List String) :
    assemble tables fields =
      (stampsOf tables).map fun stamps => union (sortedInstants stamps.flatten) tables fields := by
  unfold assemble
  cases stampsOf tables with
  | error e => rfl
  | ok stamps =>
    refine congrArg Except.ok (tabulate_congr ?_)
    intro d t f hd ht hf
    rw [List.length_map] at ht
    simp [hd, ht, hf]

/-- What the first table of a ticker says of a date and a field. -/
def lookup (tables : List (Ticker × Table)) (date : Instant) (ticker : Ticker) (field : String) :
    Value :=
  (tables.find? fun e => e.1.same ticker).bind fun e => valueAt e.2 date field

theorem get_union (dates : List Instant) (tables : List (Ticker × Table)) (fields : List String)
    (d t f : Nat) :
    (union dates tables fields).get d t f =
      dates[d]?.bind fun date => tables[t]?.bind fun e => fields[f]?.bind fun field =>
        valueAt e.2 date field :=
  get_labelled rfl (List.length_map _) rfl (fun date (e : Ticker × Table) field => valueAt e.2 date field)
    d t f

/-- The values of a union, by label, are what the tables say. -/
theorem valueOf_union {dates : List Instant} {tables : List (Ticker × Table)} {fields : List String}
    {field : String} (hfield : field ∈ fields) (d : Nat) (ticker : Ticker) :
    (union dates tables fields).valueOf d ticker field =
      dates[d]?.bind fun date => lookup tables date ticker field := by
  obtain ⟨f, hf⟩ : ∃ f, fields.findIdx? (· == field) = some f :=
    Option.isSome_iff_exists.mp (by simpa using hfield)
  have hname : fields[f]? = some field := by
    obtain ⟨hlt, hbeq, -⟩ := List.findIdx?_eq_some_iff_getElem.mp hf
    rw [List.getElem?_eq_getElem hlt, eq_of_beq hbeq]
  simp only [valueOf, lookup, get_union]
  have htickers : (union dates tables fields).tickers = tables.map Prod.fst := rfl
  have hfields : (union dates tables fields).fields = fields := rfl
  have hcomp : (Ticker.same · ticker) ∘ Prod.fst = fun e : Ticker × Table => e.1.same ticker := rfl
  rw [htickers, hfields, hf, List.findIdx?_map, hcomp, List.find?_eq_bind_findIdx?_getElem?]
  simp only [Option.bind_some, hname]
  cases dates[d]? with
  | none => cases tables.findIdx? fun e => e.1.same ticker <;> rfl
  | some date =>
    cases tables.findIdx? fun e => e.1.same ticker with
    | none => rfl
    | some t => rfl

section Panel

variable {κ : Type}

/-- The dates on which there is a value for some requested ticker and label. -/
def shownDates (dates : List Instant) (value : Instant → Ticker → κ → Value) (tickers : List Ticker)
    (labels : List κ) : List Instant :=
  dates.filter fun date =>
    tickers.any fun ticker => labels.any fun label => (value date ticker label).isSome

/-- The answer to a request, label by label: on the dates that are shown, the values of the tickers and
labels. The names of the labels serve as the axis of fields, and for nothing else. -/
def panel (dates : List Instant) (value : Instant → Ticker → κ → Value) (tickers : List Ticker)
    (labels : List κ) (names : List String) : Cube :=
  tabulate (shownDates dates value tickers labels) tickers names fun d t f =>
    (shownDates dates value tickers labels)[d]?.bind fun date =>
      tickers[t]?.bind fun ticker => labels[f]?.bind fun label => value date ticker label

end Panel

/-- The dates that a union shows for a request, by position and by label. -/
theorem map_shownPositions (dates : List Instant) (tables : List (Ticker × Table))
    (tickers : List Ticker) (fields : List String) :
    ((union dates tables fields).shownPositions tickers fields).map (fun i => dates[i]?) =
      (shownDates dates (lookup tables) tickers fields).map some := by
  apply map_getElem?_filter_range
  intro i date hdate
  have hvalue : ∀ ticker, ∀ field ∈ fields,
      (union dates tables fields).valueOf i ticker field = lookup tables date ticker field := by
    intro ticker field hfield
    rw [valueOf_union hfield, hdate, Option.bind_some]
  rw [Bool.eq_iff_iff]
  simp only [showsOn, List.any_eq_true]
  constructor
  · rintro ⟨ticker, hticker, field, hfield, hv⟩
    exact ⟨ticker, hticker, field, hfield, hvalue ticker field hfield ▸ hv⟩
  · rintro ⟨ticker, hticker, field, hfield, hv⟩
    exact ⟨ticker, hticker, field, hfield, (hvalue ticker field hfield).symm ▸ hv⟩

/-- The layout of a union is a panel, which is then collapsed. -/
theorem normalize_union (dates : List Instant) (tables : List (Ticker × Table))
    (tickers : List Ticker) (fields : List String) (flags : SqueezeFlags) :
    (union dates tables fields).normalize tickers fields flags =
      (panel dates (lookup tables) tickers fields fields).squeeze flags := by
  have hmap := map_shownPositions dates tables tickers fields
  have hdates : ((union dates tables fields).shownPositions tickers fields).filterMap
      (fun d => dates[d]?) = shownDates dates (lookup tables) tickers fields := by
    have hid := congrArg (List.filterMap id) hmap
    simpa [List.filterMap_map, Function.comp_def] using hid
  have hdate : ∀ d : Nat,
      ((union dates tables fields).shownPositions tickers fields)[d]?.bind (fun i => dates[i]?) =
        (shownDates dates (lookup tables) tickers fields)[d]? := by
    intro d
    have hd := congrArg (fun l => l[d]?.bind id) hmap
    simpa only [List.getElem?_map, Option.bind_map, Function.comp_def, id, Option.bind_fun_some]
      using hd
  -- The positions that are kept and the dates that are shown go together one by one.
  rw [normalize_eq]
  have haxis : (union dates tables fields).dates = dates := rfl
  rw [haxis, hdates, panel]
  refine congrArg (fun c => squeeze c flags) (tabulate_congr ?_)
  intro d t f _ ht hf
  rw [← hdate d, List.getElem?_eq_getElem ht, List.getElem?_eq_getElem hf]
  simp only [Option.bind_some, valueOf_union (List.getElem_mem hf), Option.bind_assoc]

end Cube

end MarketBars
