import MarketBars.Proofs.Table.Copying
import MarketBars.Proofs.Table.Dedup

/-!
# Steps on a table

Rows outside of a window are dropped, columns are chosen and copied, in any order. What comes out is one
choice of rows and of columns: a row stays whole, and keeps its timestamp unless the timestamps themselves
are replaced. So rows that ascend go on ascending, whatever the steps are.
-/

namespace MarketBars

namespace Table

/-- One of the operations on a table. -/
inductive Step where
  | within (start stop : Instant)
  | project (fields : List String)
  | copy (source target : String)

namespace Step

def apply : Step → Table → Except DataError Table
  | within start stop, t => .ok (t.within start stop)
  | project fields, t => .ok (t.project fields)
  | copy source target, t => t.withAlias source target

def KeepsStamps : Step → Prop
  | copy _ target => target ≠ stampName
  | _ => True

def keeps : Step → Row → Bool
  | within start stop, r => r.isWithin start stop
  | _, _ => true

/-- There are cells to copy under a name. -/
def isShown (names : List String) (name : String) : Bool :=
  name == stampName || names.contains name

/-- The columns after a step, by those before. -/
def names : Step → List String → List String
  | within _ _, names => names
  | project fields, names =>
    if fields.isEmpty then names else distinctBy id (fields.filter fun f => names.contains f)
  | copy source target, names => if isShown names source then namesWith names target else names

/-- What a name shows after a step: the cells of this name before the step. -/
def origin : Step → List String → String → String
  | copy source target, names, name =>
    if name = target ∧ isShown names source then source else name
  | _, _, name => name

def namesAll (steps : List Step) (names : List String) : List String :=
  steps.foldl (fun names s => s.names names) names

def originAll : List Step → List String → String → String
  | [], _, name => name
  | s :: rest, names, name => s.origin names (originAll rest (s.names names) name)

/-- All of the steps keep a row. -/
def keepsAll (steps : List Step) (r : Row) : Bool :=
  steps.all fun s => s.keeps r

end Step

open Step

/-- A table after a step; one that fails leaves it as it was. -/
def after (t : Table) (s : Step) : Table :=
  match s.apply t with
  | .ok u => u
  | .error _ => t

def afterAll (t : Table) (steps : List Step) : Table :=
  steps.foldl after t

/-- A table consists of chosen rows of another one, in their order, and each of its columns shows the cells
of one name there; the timestamps are kept. -/
structure Chosen (t : Table) (keep : Row → Bool) (names : List String) (origin : String → String)
    (u : Table) : Prop where
  names_eq : u.names = names
  rows_eq : u.rows = (t.rows.filter keep).map fun r =>
    ⟨r.stamp, names.map fun n => t.cellNamed (origin n) r⟩
  origin_shown : ∀ name ∈ names, t.hasName (origin name) = true
  origin_stampName : origin stampName = stampName

theorem hasName_iff {t : Table} {name : String} :
    t.hasName name = true ↔ name = stampName ∨ name ∈ t.names := by
  simp [hasName]

/-- A row is made of its timestamp and the cells of the columns. -/
theorem eq_of_cellNamed {t : Table} {r : Row} (h : r ∈ t.rows) :
    (⟨r.stamp, t.names.map fun n => t.cellNamed n r⟩ : Row) = r := by
  have hcells : t.names.map (fun n => t.cellNamed n r) = r.cells := by
    rw [cells_eq_map h]
    exact List.map_congr_left fun n hn => cellNamed_of_ne (ne_stampName hn) r
  rw [hcells]

/-- What is chosen by rows alone. -/
theorem chosen_of_filter {t u : Table} {keep : Row → Bool} (hnames : u.names = t.names)
    (hrows : u.rows = t.rows.filter keep) : t.Chosen keep t.names id u where
  names_eq := hnames
  rows_eq := by
    rw [hrows]
    apply (List.map_id _).symm.trans
    exact List.map_congr_left fun r hr => (eq_of_cellNamed (List.mem_filter.mp hr).1).symm
  origin_shown name hname := hasName_iff.mpr (.inr hname)
  origin_stampName := rfl

theorem chosen_self (t : Table) : t.Chosen (fun _ => true) t.names id t :=
  chosen_of_filter rfl (List.filter_eq_self.mpr fun _ _ => rfl).symm

/-- What is chosen by columns alone. -/
theorem chosen_of_map {t u : Table} {names : List String} {origin : String → String}
    (hnames : u.names = names)
    (hrows : u.rows = t.rows.map fun r => ⟨r.stamp, names.map fun n => t.cellNamed (origin n) r⟩)
    (hshown : ∀ name ∈ names, t.hasName (origin name) = true)
    (hstamp : origin stampName = stampName) : t.Chosen (fun _ => true) names origin u where
  names_eq := hnames
  rows_eq := by rw [hrows, List.filter_eq_self.mpr fun _ _ => rfl]
  origin_shown := hshown
  origin_stampName := hstamp

theorem chosen_project (t : Table) (fields : List String) :
    t.Chosen (fun _ => true) ((Step.project fields).names t.names) id (t.project fields) := by
  rw [Step.names, Table.project]
  by_cases hfields : fields.isEmpty = true
  · rw [if_pos hfields, if_pos hfields]
    exact t.chosen_self
  · rw [if_neg hfields, if_neg hfields]
    have hmem : ∀ name ∈ t.selected fields, name ∈ t.names := fun name h => (mem_selected.mp h).2
    refine chosen_of_map rfl ?_ (fun name h => hasName_iff.mpr (.inr (hmem name h))) rfl
    refine List.map_congr_left fun r _ => congrArg (Row.mk r.stamp) ?_
    exact List.map_congr_left fun n hn => (cellNamed_of_ne (ne_stampName (hmem n hn)) r).symm

theorem chosen_copy {t : Table} {source target : String} (htarget : target ≠ stampName) :
    t.Chosen (fun _ => true) ((copy source target).names t.names)
      ((copy source target).origin t.names) (t.after (copy source target)) := by
  have hshown : isShown t.names source = t.hasName source := rfl
  unfold Table.after Step.apply Step.names Step.origin
  by_cases hsource : t.hasName source = true
  · obtain ⟨u, hu, hnames, hrows⟩ := exists_withAlias hsource htarget
    simp only [hu, hshown, hsource, and_true, if_true]
    refine chosen_of_map hnames (hrows.trans ?_) ?_ (if_neg (Ne.symm htarget))
    · refine List.map_congr_left fun r _ => congrArg (Row.mk r.stamp) ?_
      refine List.map_congr_left fun n hn => ?_
      by_cases hn' : n = target
      · rw [if_pos hn', if_pos hn']
      · have hmem : n ∈ t.names := (mem_namesWith.mp hn).resolve_left hn'
        rw [if_neg hn', if_neg hn', cellNamed_of_ne (ne_stampName hmem)]
    · intro name hname
      by_cases hname' : name = target
      · rw [if_pos hname']
        exact hsource
      · rw [if_neg hname']
        exact hasName_iff.mpr (.inr ((mem_namesWith.mp hname).resolve_left hname'))
  · -- Without a source the copy fails, and the table is still there.
    have hfail : t.withAlias source target = .error .columnNames := if_neg hsource
    simp only [hfail, hshown, hsource, Bool.false_eq_true, and_false, if_false]
    exact t.chosen_self

/-- What a step chooses. -/
theorem chosen_after {t : Table} {s : Step} (h : s.KeepsStamps) :
    t.Chosen s.keeps (s.names t.names) (s.origin t.names) (t.after s) := by
  cases s with
  | within start stop => exact chosen_of_filter rfl rfl
  | project fields => exact t.chosen_project fields
  | copy source target => exact chosen_copy h

namespace Chosen

variable {t u v : Table} {keep keep' : Row → Bool} {names names' : List String}
  {origin origin' : String → String}

/-- A chosen row shows in each column the cell of its origin. -/
theorem cellNamed_eq (h : t.Chosen keep names origin u) {name : String} (hname : u.hasName name = true)
    (r : Row) : u.cellNamed name ⟨r.stamp, names.map fun n => t.cellNamed (origin n) r⟩ =
      t.cellNamed (origin name) r := by
  by_cases hstamp : name = stampName
  · rw [hstamp, h.origin_stampName]
    rfl
  · have hmem : name ∈ names := h.names_eq ▸ (hasName_iff.mp hname).resolve_left hstamp
    rw [cellNamed_of_ne hstamp, h.names_eq]
    exact cellAt_map hmem _ _

/-- Choosing twice is choosing once. -/
theorem trans (h : t.Chosen keep names origin u) (h' : u.Chosen keep' names' origin' v)
    (hkeep : ∀ r r' : Row, r.stamp = r'.stamp → keep' r = keep' r') :
    t.Chosen (fun r => keep r && keep' r) names' (fun name => origin (origin' name)) v where
  names_eq := h'.names_eq
  rows_eq := by
    have hlaid : (keep' ∘ fun r : Row => ⟨r.stamp, names.map fun n => t.cellNamed (origin n) r⟩) =
        keep' := funext fun r => hkeep _ _ rfl
    rw [h'.rows_eq, h.rows_eq, List.filter_map, List.map_map, hlaid, List.filter_filter]
    simp only [Bool.and_comm]
    refine List.map_congr_left fun r _ => congrArg (Row.mk r.stamp) ?_
    exact List.map_congr_left fun n hn => h.cellNamed_eq (h'.origin_shown n hn) r
  origin_shown name hname := by
    have hshown := hasName_iff.mp (h'.origin_shown name hname)
    rw [h.names_eq] at hshown
    rcases hshown with hstamp | hmem
    · rw [hstamp, h.origin_stampName]
      exact hasName_iff.mpr (.inl rfl)
    · exact h.origin_shown _ hmem
  origin_stampName := by rw [h'.origin_stampName, h.origin_stampName]

/-- Chosen rows are stamped with the times of the rows that are kept. -/
theorem stamps_sublist (h : t.Chosen keep names origin u) :
    (u.rows.map Row.stamp).Sublist (t.rows.map Row.stamp) := by
  have hstamps : u.rows.map Row.stamp = (t.rows.filter keep).map Row.stamp := by
    rw [h.rows_eq, List.map_map]
    rfl
  rw [hstamps]
  exact List.filter_sublist.map _

theorem ascends (h : t.Chosen keep names origin u) (ht : t.Ascends) : u.Ascends := by
  obtain ⟨millis, hmillis, hascending⟩ := ht
  have hsub := h.stamps_sublist
  rw [hmillis] at hsub
  obtain ⟨millis', hsub', hmillis'⟩ := List.sublist_map_iff.mp hsub
  exact ⟨millis', hmillis', hascending.sublist hsub'⟩

end Chosen

/-- Steps keep rows by their timestamps. -/
theorem keepsAll_congr {steps : List Step} (r r' : Row) (h : r.stamp = r'.stamp) :
    keepsAll steps r = keepsAll steps r' := by
  have hkeeps : ∀ s : Step, s.keeps r = s.keeps r' := by
    intro s
    cases s with
    | within start stop => simp only [keeps, Row.isWithin, h]
    | project fields => rfl
    | copy source target => rfl
  rw [keepsAll, keepsAll, funext hkeeps]

/-- What a run of steps chooses. -/
theorem chosen_afterAll {t : Table} {steps : List Step} (h : ∀ s ∈ steps, s.KeepsStamps) :
    t.Chosen (keepsAll steps) (namesAll steps t.names) (originAll steps t.names)
      (t.afterAll steps) := by
  induction steps generalizing t with
  | nil => exact t.chosen_self
  | cons s rest ih =>
    have hstep : t.Chosen s.keeps (s.names t.names) (s.origin t.names) (t.after s) :=
      chosen_after (h s List.mem_cons_self)
    have hrest := @ih (t.after s) fun s' hs' => h s' (List.mem_cons_of_mem s hs')
    rw [hstep.names_eq] at hrest
    exact hstep.trans hrest keepsAll_congr

/-- Of the steps only a copy fails, when there is nothing to copy. -/
theorem apply_eq_error_iff {s : Step} {t : Table} {e : DataError} :
    s.apply t = .error e ↔ ∃ source target, s = .copy source target ∧
      t.hasName source = false ∧ e = .columnNames := by
  cases s with
  | within start stop => simp [apply]
  | project fields => simp [apply]
  | copy source target =>
    have hok : t.hasName source = true → ∃ u, t.withAlias source target = .ok u := by
      intro hsource
      by_cases htarget : target = "timestamp"
      · rw [withAlias, if_pos hsource, dif_pos htarget]
        exact ⟨_, rfl⟩
      · obtain ⟨u, hu, -⟩ := exists_withAlias hsource htarget
        exact ⟨u, hu⟩
    constructor
    · intro herror
      cases hsource : t.hasName source with
      | true =>
        obtain ⟨u, hu⟩ := hok hsource
        cases hu.symm.trans herror
      | false =>
        cases (withAlias_of_not_hasName hsource target).symm.trans herror
        exact ⟨source, target, rfl, hsource, rfl⟩
    · rintro ⟨source', target', heq, hsource, rfl⟩
      cases heq
      exact withAlias_of_not_hasName hsource target

theorem after_of_error {s : Step} {t : Table} {e : DataError} (h : s.apply t = .error e) :
    t.after s = t := by
  rw [after, h]

/-- What is chosen of a table without leap seconds has timestamps that ascend when they are read back. -/
theorem Chosen.exists_stamps {stamps : List Instant} {columns : List (String × List (Option Binary64))}
    {t u : Table} {keep : Row → Bool} {names : List String} {origin : String → String}
    (ht : ofColumns stamps columns = .ok t) (hleapless : ∀ v ∈ stamps, v.time.nano < 1000000000)
    (h : t.dedupFirst.Chosen keep names origin u) : ∃ ts, u.stamps = .ok ts ∧ ts.Pairwise (· < ·) := by
  have hrows := rows_of_ofColumns ht
  refine (h.ascends (ascends_dedupFirst (isStamped_of_rowsOf hrows))).exists_stamps fun r hr => ?_
  obtain ⟨r', hr', hstamp⟩ := List.mem_map.mp (h.stamps_sublist.subset (List.mem_map_of_mem hr))
  have hgiven : r'.stamp ∈ (rowsOf stamps columns).map Row.stamp :=
    List.mem_map_of_mem (hrows ▸ mem_of_mem_dedupFirst hr')
  rw [map_stamp_rowsOf] at hgiven
  obtain ⟨v, hv, hmillis⟩ := List.mem_map.mp hgiven
  exact ⟨v, hleapless v hv, by rw [← hstamp, ← hmillis]⟩

/-- Of a table that is made of columns the first row of every timestamp is kept, in ascending order. This can
be done once or twice, and before or after rows outside of a window are dropped and columns are chosen.
Whatever further steps are taken, as long as they do not replace the timestamps, whole rows are chosen, and
they ascend; a step that fails changes nothing. -/
theorem first_rows_ascend {stamps : List Instant} {columns : List (String × List (Option Binary64))}
    {t : Table} (h : ofColumns stamps columns = .ok t) :
    (∃ millis, FirstRows stamps columns millis t.dedupFirst) ∧
    t.dedupFirst.dedupFirst = t.dedupFirst ∧
    (∀ start stop, t.dedupFirst.within start stop = (t.within start stop).dedupFirst) ∧
    (∀ fields, t.dedupFirst.project fields = (t.project fields).dedupFirst ∧
      t.dedupFirst.missing fields = t.missing fields) ∧
    ∀ steps : List Step, (∀ s ∈ steps, s.KeepsStamps) →
      (t.dedupFirst.afterAll steps).Ascends ∧
      ((∀ u ∈ stamps, u.time.nano < 1000000000) →
        ∃ ts, (t.dedupFirst.afterAll steps).stamps = .ok ts ∧ ts.Pairwise (· < ·)) ∧
      t.dedupFirst.Chosen (keepsAll steps) (namesAll steps t.names) (originAll steps t.names)
        (t.dedupFirst.afterAll steps) ∧
      ∀ s e, s.apply (t.dedupFirst.afterAll steps) = .error e →
        (∃ source target, s = .copy source target ∧
          (t.dedupFirst.afterAll steps).hasName source = false ∧ e = .columnNames) ∧
        (t.dedupFirst.afterAll steps).after s = t.dedupFirst.afterAll steps := by
  have hstamped := isStamped_of_rowsOf (rows_of_ofColumns h)
  have hascends : t.dedupFirst.Ascends := ascends_dedupFirst hstamped
  refine ⟨exists_firstRows h, dedupFirst_of_ascends hascends, within_dedupFirst hstamped,
    fun fields => ⟨(t.dedupFirst_project fields).symm, rfl⟩, fun steps hsteps => ?_⟩
  have hchosen : t.dedupFirst.Chosen (keepsAll steps) (namesAll steps t.names)
      (originAll steps t.names) (t.dedupFirst.afterAll steps) := chosen_afterAll hsteps
  exact ⟨hchosen.ascends hascends, hchosen.exists_stamps h, hchosen,
    fun s e herror => ⟨apply_eq_error_iff.mp herror, after_of_error herror⟩⟩

/-- Two instants of one millisecond, after a later one. -/
def collidingStamps : List Instant :=
  [.startOf .afterNewYear, ⟨.newYear, { TimeOfDay.midnight with nano := 400, nano_lt := by decide }⟩,
    .startOf .newYear]

/-- The prices of these instants. Each of them lacks one. -/
def collidingColumns : List (String × List (Option Binary64)) :=
  [("close", [some (.ofInt 12), none, some (.ofInt 10)]),
    ("open", [none, some (.ofInt 9), some (.ofInt 8)])]

/-- Steps of which one fails, for want of a column. -/
def openingSteps : List Step :=
  [.copy "open" "close", .within (.startOf .newYear) (.startOf .newYear), .copy "volume" "open",
    .project ["close"]]

/-- The first of the two instants is kept, with its opening price. -/
theorem first_rows_ascend_colliding : ∃ t, ofColumns collidingStamps collidingColumns = .ok t ∧
    (∀ s ∈ openingSteps, s.KeepsStamps) ∧
    (t.dedupFirst.afterAll openingSteps).rows =
      [⟨.moment (Instant.startOf .newYear).millis, [.number (.ofInt 9)]⟩] := by
  have hlength : ∀ column ∈ collidingColumns, column.2.length = collidingStamps.length := by decide
  obtain ⟨t, ht, hnames, -⟩ := exists_ofColumns hlength (by decide) (by decide)
  have hsteps : ∀ s ∈ openingSteps, s.KeepsStamps := by
    simp [openingSteps, KeepsStamps, stampName]
  obtain ⟨⟨millis, hfirst⟩, -, -, -, hrun⟩ := first_rows_ascend ht
  obtain ⟨-, -, hchosen, -⟩ := hrun openingSteps hsteps
  have hmillis : millis = [(Instant.startOf .newYear).millis, (Instant.startOf .afterNewYear).millis] := by
    refine eq_of_ascending (fun _ _ h h' => Int.lt_asymm h h') hfirst.ascending (by decide) fun ms => ?_
    have hgiven : collidingStamps.map Instant.millis = [(Instant.startOf .afterNewYear).millis,
        (Instant.startOf .newYear).millis, (Instant.startOf .newYear).millis] := by decide
    rw [hfirst.mem_millis, ← List.mem_map, hgiven]
    simp [or_comm]
  refine ⟨t, ht, hsteps, ?_⟩
  have hcells : ∀ name r, t.dedupFirst.cellNamed name r =
      if name = stampName then r.stamp else r.cellAt (["close", "open"].idxOf name) := by
    intro name r
    rw [← show t.names = ["close", "open"] from hnames]
    rfl
  rw [hchosen.rows_eq, hfirst.rows_eq, hmillis, hnames]
  simp only [hcells]
  decide

end Table

end MarketBars
