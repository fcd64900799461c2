import MarketBars.Proofs.Calendar.Millis
import MarketBars.Proofs.Table.Cut

/-!
# The first row of every timestamp

Timestamps are kept in whole milliseconds, so rows may share one that came from different instants. Of the
rows of one timestamp the first is kept, as a whole, and the rest is put in order. What is kept depends on
the timestamps alone: it does not matter which columns there are, or whether rows outside of a window are
dropped before.
-/

namespace MarketBars

/-- Lists that agree in their keys go together one by one. -/
theorem eq_map_of_map_eq {α β κ : Type} {key : α → κ} {label : β → κ} {f : β → α} {xs : List α}
    {ys : List β} (h : xs.map key = ys.map label)
    (hf : ∀ x ∈ xs, ∀ y ∈ ys, key x = label y → x = f y) : xs = ys.map f := by
  induction xs generalizing ys with
  | nil =>
    cases ys with
    | nil => rfl
    | cons y rest => cases h
  | cons x rest ih =>
    cases ys with
    | nil => cases h
    | cons y rest' =>
      obtain ⟨hkey, hrest⟩ := List.cons.inj h
      rw [List.map_cons, ← hf x List.mem_cons_self y List.mem_cons_self hkey, ← ih hrest]
      exact fun x' hx' y' hy' => hf x' (List.mem_cons_of_mem x hx') y' (List.mem_cons_of_mem y hy')

namespace Table

/-- The cells of the first instant that has the given milliseconds. -/
def firstRow (stamps : List Instant) (columns : List (String × List (Option Binary64)))
    (ms : Int) : Row :=
  ⟨.moment ms, columns.map fun c => Cell.ofValue (c.2[stamps.findIdx fun u => u.millis = ms]?).join⟩

/-- A table holds the first row of every timestamp of some columns, in ascending order. -/
structure FirstRows (stamps : List Instant) (columns : List (String × List (Option Binary64)))
    (millis : List Int) (t : Table) : Prop where
  ascending : millis.Pairwise (· < ·)
  mem_millis : ∀ ms, ms ∈ millis ↔ ∃ u ∈ stamps, u.millis = ms
  names_eq : t.names = columns.map Prod.fst
  rows_eq : t.rows = millis.map (firstRow stamps columns)

/-- Every row is stamped with a time that is after that of the row before it. -/
def Ascends (t : Table) : Prop :=
  ∃ millis : List Int, t.rows.map Row.stamp = millis.map Cell.moment ∧ millis.Pairwise (· < ·)

theorem rows_dedupFirst (t : Table) :
    t.dedupFirst.rows = (distinctBy (fun r : Row => r.stamp.rank?) t.rows).mergeSort
      fun a b => Cell.rankLE a.stamp.rank? b.stamp.rank? :=
  rfl

theorem rank?_mem_dedupFirst_iff {t : Table} {rank? : Option Int} :
    rank? ∈ t.dedupFirst.rows.map (fun r => r.stamp.rank?) ↔
      rank? ∈ t.rows.map fun r => r.stamp.rank? := by
  rw [rows_dedupFirst, ((List.mergeSort_perm _ _).map _).mem_iff, mem_map_distinctBy]

/-- What is kept of a timestamp is the first row that has it. -/
theorem find?_of_mem_dedupFirst {t : Table} {r : Row} (h : r ∈ t.dedupFirst.rows) :
    t.rows.find? (fun r' => r'.stamp.rank? == r.stamp.rank?) = some r := by
  rw [rows_dedupFirst, List.mem_mergeSort] at h
  exact find?_of_mem_distinctBy (fun r : Row => r.stamp.rank?) h

theorem isStamped_dedupFirst {t : Table} (h : t.IsStamped) : t.dedupFirst.IsStamped :=
  fun r hr => h r (mem_of_mem_dedupFirst hr)

theorem exists_stamp_millis {rows : List Row} (h : ∀ r ∈ rows, ∃ ms, r.stamp = .moment ms) :
    ∃ millis : List Int, rows.map Row.stamp = millis.map Cell.moment := by
  induction rows with
  | nil => exact ⟨[], rfl⟩
  | cons r rest ih =>
    obtain ⟨ms, hms⟩ := h r List.mem_cons_self
    obtain ⟨millis, hmillis⟩ := ih fun r' hr' => h r' (List.mem_cons_of_mem r hr')
    exact ⟨ms :: millis, by rw [List.map_cons, List.map_cons, hms, hmillis]⟩

/-- Once repeated timestamps are dropped, rows ascend strictly. -/
theorem ascends_dedupFirst {t : Table} (h : t.IsStamped) : t.dedupFirst.Ascends := by
  obtain ⟨millis, hmillis⟩ := exists_stamp_millis (isStamped_dedupFirst h)
  refine ⟨millis, hmillis, ?_⟩
  have hstamps : (t.dedupFirst.rows.map Row.stamp).Pairwise fun a b =>
      Cell.rankLE a.rank? b.rank? = true ∧ a.rank? ≠ b.rank? :=
    List.pairwise_map.mpr (pairwise_mergeSort_distinctBy (fun r : Row => r.stamp.rank?) Cell.rankLE
      Cell.rankLE_trans Cell.rankLE_total t.rows)
  rw [hmillis] at hstamps
  apply (List.pairwise_map.mp hstamps).imp
  rintro x y ⟨hle, hne⟩
  have hle' : x ≤ y := of_decide_eq_true hle
  have hne' : x ≠ y := fun heq => hne (congrArg some heq)
  omega

/-- There is nothing to drop and nothing to sort in rows that ascend. -/
theorem dedupFirst_of_ascends {t : Table} (h : t.Ascends) : t.dedupFirst = t := by
  obtain ⟨millis, hmillis, hascending⟩ := h
  have hranks : t.rows.map (fun r => r.stamp.rank?) = millis.map some := by
    have hmap := congrArg (List.map Cell.rank?) hmillis
    rw [List.map_map, List.map_map] at hmap
    exact hmap
  have hdistinct : distinctBy (fun r : Row => r.stamp.rank?) t.rows = t.rows := by
    apply distinctBy_eq_self
    rw [hranks]
    exact List.pairwise_map.mpr (hascending.imp fun hlt heq => by cases heq; omega)
  have hsorted : t.rows.Pairwise fun a b => Cell.rankLE a.stamp.rank? b.stamp.rank? = true := by
    have hpairs : (millis.map some).Pairwise fun a b => Cell.rankLE a b = true :=
      List.pairwise_map.mpr (hascending.imp fun hlt => decide_eq_true (Int.le_of_lt hlt))
    rw [← hranks] at hpairs
    exact List.pairwise_map.mp hpairs
  refine eq_of_names_of_rows rfl ?_
  rw [rows_dedupFirst, hdistinct, List.mergeSort_of_pairwise hsorted]

/-- Timestamps that ascend can be read back as instants that ascend, if there are no leap seconds among
them. -/
theorem Ascends.exists_stamps {t : Table} (h : t.Ascends)
    (hleapless : ∀ r ∈ t.rows, ∃ u : Instant, u.time.nano < 1000000000 ∧ r.stamp = .moment u.millis) :
    ∃ ts, t.stamps = .ok ts ∧ ts.Pairwise (· < ·) := by
  have hread : ∀ r ∈ t.rows, ∃ u, r.instant? = some u := by
    intro r hr
    obtain ⟨u, hnano, hstamp⟩ := hleapless r hr
    rw [Row.instant?, hstamp]
    exact Instant.exists_ofMillis? u.le_millis (Instant.millis_lt_endMillis hnano)
  obtain ⟨ts, hts⟩ := exists_stamps_of_instants hread
  refine ⟨ts, hts, ?_⟩
  obtain ⟨millis, hmillis, hascending⟩ := h
  have hinstants : ts.map some = millis.map Instant.ofMillis? := by
    have hmap := congrArg (List.map fun c : Cell => c.millis?.bind Instant.ofMillis?) hmillis
    rw [List.map_map, List.map_map] at hmap
    exact (stamps_eq_ok_iff.mp hts).symm.trans hmap
  have hpairs : (millis.map Instant.ofMillis?).Pairwise fun a b =>
      ∀ u v, a = some u → b = some v → u < v :=
    List.pairwise_map.mpr (hascending.imp fun hlt u v hu hv => Instant.lt_of_ofMillis? hu hv hlt)
  rw [← hinstants] at hpairs
  exact (List.pairwise_map.mp hpairs).imp fun huv => huv _ _ rfl rfl

/-- Rows can be laid out anew before or after repeated timestamps are dropped, as long as they keep their
timestamps. -/
theorem map_rows_dedupFirst {t u : Table} {lay : Row → Row} (hlay : ∀ r, (lay r).stamp = r.stamp)
    (h : u.rows = t.rows.map lay) : u.dedupFirst.rows = t.dedupFirst.rows.map lay := by
  have hdistinct : distinctBy (fun r : Row => r.stamp.rank?) (t.rows.map lay) =
      (distinctBy (fun r : Row => r.stamp.rank?) t.rows).map lay := by
    rw [distinctBy_map]
    simp only [hlay]
  rw [rows_dedupFirst, rows_dedupFirst, h, hdistinct, List.map_mergeSort]
  intro a _ b _
  rw [hlay, hlay]

/-- Columns are chosen before or after repeated timestamps are dropped. -/
theorem dedupFirst_project (t : Table) (fields : List String) :
    (t.project fields).dedupFirst = t.dedupFirst.project fields := by
  unfold project
  by_cases hfields : fields.isEmpty = true
  · rw [if_pos hfields, if_pos hfields]
  · rw [if_neg hfields, if_neg hfields]
    -- A row that is laid out to some of the columns keeps its timestamp.
    have hstamp : ∀ r : Row, (⟨r.stamp, (t.selected fields).map fun n =>
        r.cellAt (t.names.idxOf n)⟩ : Row).stamp = r.stamp := fun _ => rfl
    exact eq_of_names_of_rows rfl (map_rows_dedupFirst hstamp rfl)

/-- Rows outside of a window are dropped before or after repeated timestamps are. -/
theorem within_dedupFirst {t : Table} (h : t.IsStamped) (start stop : Instant) :
    t.dedupFirst.within start stop = (t.within start stop).dedupFirst := by
  rw [within_eq_cut, within_eq_cut, cut_dedupFirst h]

section Columns

variable {stamps : List Instant} {columns : List (String × List (Option Binary64))} {t : Table}

theorem getElem?_rowsOf (stamps : List Instant) (columns : List (String × List (Option Binary64)))
    (i : Nat) : (rowsOf stamps columns)[i]? =
      stamps[i]?.map fun u => ⟨.moment u.millis, columns.map fun c => Cell.ofValue (c.2[i]?).join⟩ := by
  simp [rowsOf, Function.comp_def]

theorem map_stamp_rowsOf (stamps : List Instant)
    (columns : List (String × List (Option Binary64))) :
    (rowsOf stamps columns).map Row.stamp = stamps.map fun u => .moment u.millis := by
  apply List.ext_getElem?
  intro i
  rw [List.getElem?_map, getElem?_rowsOf, List.getElem?_map, Option.map_map]
  rfl

/-- Of the rows with a timestamp, the first holds the cells of the first instant with the timestamp. -/
theorem find?_rowsOf {ms : Int} (h : ∃ u ∈ stamps, u.millis = ms) :
    (rowsOf stamps columns).find? (fun r => r.stamp.rank? == some ms) =
      some (firstRow stamps columns ms) := by
  have hindex : (rowsOf stamps columns).findIdx? (fun r => r.stamp.rank? == some ms) =
      stamps.findIdx? fun u => u.millis = ms := by
    have htest : (fun r : Row => r.stamp.rank? == some ms) =
        (fun c : Cell => c.rank? == some ms) ∘ Row.stamp := rfl
    rw [htest, ← List.findIdx?_map, map_stamp_rowsOf, List.findIdx?_map]
    congr 1
  have hlt : (stamps.findIdx fun u => u.millis = ms) < stamps.length := by
    apply List.findIdx_lt_length_of_exists
    simpa using h
  have hmillis : (stamps[stamps.findIdx fun u => u.millis = ms]).millis = ms := by
    simpa using List.findIdx_getElem (w := hlt)
  rw [List.find?_eq_bind_findIdx?_getElem?, hindex,
    List.findIdx?_eq_some_iff_findIdx_eq.mpr ⟨hlt, rfl⟩, Option.bind_some, getElem?_rowsOf,
    List.getElem?_eq_getElem hlt, Option.map_some, hmillis]
  rfl

/-- A table that is made of columns holds the first row of every timestamp, once repeated ones are
dropped. -/
theorem exists_firstRows (h : ofColumns stamps columns = .ok t) :
    ∃ millis, FirstRows stamps columns millis t.dedupFirst := by
  have hrows := rows_of_ofColumns h
  obtain ⟨millis, hmillis, hascending⟩ := ascends_dedupFirst (isStamped_of_rowsOf hrows)
  have hmem : ∀ ms, ms ∈ millis ↔ ∃ u ∈ stamps, u.millis = ms := by
    intro ms
    have hkept : t.dedupFirst.rows.map (fun r => r.stamp.rank?) = millis.map some := by
      simpa [Function.comp_def, Cell.rank?] using congrArg (List.map Cell.rank?) hmillis
    have hgiven : t.rows.map (fun r => r.stamp.rank?) = stamps.map fun u => some u.millis := by
      rw [hrows]
      simpa [Function.comp_def, Cell.rank?] using
        congrArg (List.map Cell.rank?) (map_stamp_rowsOf stamps columns)
    have hiff : some ms ∈ t.dedupFirst.rows.map (fun r => r.stamp.rank?) ↔
        some ms ∈ t.rows.map fun r => r.stamp.rank? := rank?_mem_dedupFirst_iff
    rw [hkept, hgiven] at hiff
    simpa using hiff
  have hnames : t.names = columns.map Prod.fst := names_of_ofColumns h
  refine ⟨millis, hascending, hmem, hnames, ?_⟩
  -- A row that is kept is the first of its timestamp among the given ones.
  apply eq_map_of_map_eq hmillis
  intro r hr ms hms hstamp
  have hfind := find?_of_mem_dedupFirst hr
  have hrank : r.stamp.rank? = some ms := by rw [hstamp]; rfl
  rw [hrank, hrows, find?_rowsOf ((hmem ms).mp hms)] at hfind
  exact (Option.some.inj hfind).symm

namespace FirstRows

variable {millis : List Int} {ts : List Instant}

theorem ascends (h : FirstRows stamps columns millis t) : t.Ascends := by
  refine ⟨millis, ?_, h.ascending⟩
  rw [h.rows_eq, List.map_map]
  rfl

theorem millis_eq (h : FirstRows stamps columns millis t) (hts : t.stamps = .ok ts) :
    millis = ts.map Instant.millis := by
  have hread : millis.map Instant.ofMillis? = ts.map some := by
    rw [← stamps_eq_ok_iff.mp hts, h.rows_eq, List.map_map]
    rfl
  exact eq_map_of_map_eq hread fun ms _ u _ hu => (Instant.millis_of_ofMillis? hu).symm

/-- Instants without fractions are read back as they were. -/
theorem mem_stamps_iff (h : FirstRows stamps columns millis t) (hts : t.stamps = .ok ts)
    (hnano : ∀ u ∈ stamps, u.time.nano = 0) {u : Instant} : u ∈ ts ↔ u ∈ stamps := by
  rw [Table.mem_stamps_iff hts, h.rows_eq]
  constructor
  · rintro ⟨r, hr, hu⟩
    obtain ⟨ms, hms, rfl⟩ := List.mem_map.mp hr
    obtain ⟨v, hv, rfl⟩ := (h.mem_millis ms).mp hms
    cases (Instant.ofMillis?_millis (hnano v hv)).symm.trans hu
    exact hv
  · intro hu
    have hms := (h.mem_millis u.millis).mpr ⟨u, hu, rfl⟩
    exact ⟨_, List.mem_map_of_mem hms, Instant.ofMillis?_millis (hnano u hu)⟩

/-- The values of a column are those of the first instants with the timestamps, as far as they are
numbers. -/
theorem values?_eq (h : FirstRows stamps columns millis t) (hts : t.stamps = .ok ts) {name : String}
    {column : List (Option Binary64)} (hcolumn : (name, column) ∈ columns) :
    t.values? name = some (ts.map fun u =>
      (column[stamps.findIdx fun v => v.millis = u.millis]?).join.filter fun x => !x.isNaN) := by
  have hmem : name ∈ t.names := by
    rw [h.names_eq]
    exact List.mem_map_of_mem hcolumn
  have hname := ne_stampName hmem
  have hposition : columns[t.names.idxOf name]? = some (name, column) := by
    obtain ⟨i, hi, hget⟩ := List.getElem_of_mem hcolumn
    have hi' : i < t.names.length := by rwa [h.names_eq, List.length_map]
    have hat : t.names[i] = name := by simp [h.names_eq, hget]
    have hfirst : t.names.idxOf name = i := by rw [← hat, t.names_nodup.idxOf_getElem i hi']
    rw [hfirst, List.getElem?_eq_getElem hi, hget]
  rw [values?, hasName_of_ne hname, if_pos (decide_eq_true hmem), h.rows_eq, h.millis_eq hts,
    List.map_map, List.map_map]
  refine congrArg some (List.map_congr_left fun u _ => ?_)
  rw [Function.comp_apply, Function.comp_apply, cellNamed_of_ne hname, ← Cell.number?_ofValue, firstRow,
    Row.cellAt, List.getElem?_map, hposition]
  rfl

end FirstRows

end Columns

end Table

end MarketBars
