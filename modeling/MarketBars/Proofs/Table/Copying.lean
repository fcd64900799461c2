import MarketBars.Proofs.Table.Reading

/-!
# Copied columns

Copying columns under other names, time after time, gives a table whose columns are all copies of
columns of the first table. Which one a name is a copy of is its origin; it can be told from the names
alone, without looking at the cells.
-/

namespace MarketBars

namespace Table

/-- For each name the column that it is a copy of, if it is the name of a column at all. -/
abbrev Origin := String → Option String

namespace Origin

/-- Before anything is copied, every column is its own origin. -/
def self (names : List String) : Origin := fun name => if name ∈ names then some name else none

/-- After a column is copied under another name, the name has the origin of the column; nothing changes
when there is no such column. -/
def copy (origin : Origin) (source target : String) : Origin := fun name =>
  if name = target then (origin source).or (origin name) else origin name

theorem copy_of_ne {origin : Origin} {source target name : String} (h : name ≠ target) :
    origin.copy source target name = origin name :=
  if_neg h

theorem copy_target (origin : Origin) (source target : String) :
    origin.copy source target target = (origin source).or (origin target) :=
  if_pos rfl

end Origin

/-- A table has the rows of another one, laid out anew: the columns are copies of columns of the other
table, and a row keeps its timestamp. -/
structure Copies (t : Table) (origin : Origin) (u : Table) : Prop where
  mem_names : ∀ name, name ∈ u.names ↔ (origin name).isSome
  source_mem : ∀ name source, origin name = some source → source ∈ t.names
  rows : ∃ lay : Row → Row, u.rows = t.rows.map lay ∧ (∀ r, (lay r).stamp = r.stamp) ∧
    ∀ r ∈ t.rows, ∀ name source, origin name = some source →
      (lay r).cellAt (u.names.idxOf name) = r.cellAt (t.names.idxOf source)

/-- A row holds the cells of its columns, one for each name. -/
theorem cells_eq_map {t : Table} {r : Row} (h : r ∈ t.rows) :
    r.cells = t.names.map fun n => r.cellAt (t.names.idxOf n) := by
  apply List.ext_getElem
  · rw [List.length_map, t.aligned r h]
  · intro i hi hi'
    rw [List.length_map] at hi'
    rw [List.getElem_map, t.names_nodup.idxOf_getElem i hi', Row.cellAt, List.getElem?_eq_getElem hi]
    rfl

/-- A row that is laid out by names holds the cell of each name. -/
theorem cellAt_map {names : List String} {name : String} (h : name ∈ names) (stamp : Cell)
    (cell : String → Cell) : (⟨stamp, names.map cell⟩ : Row).cellAt (names.idxOf name) = cell name := by
  have hlt := List.idxOf_lt_length_of_mem h
  simp [Row.cellAt, hlt, List.getElem_idxOf]

/-- A cell that is put under a name of a column takes the place of the one there. -/
theorem set_idxOf_map {names : List String} (hnodup : names.Nodup) (name : String)
    (cell : String → Cell) (new : Cell) : (names.map cell).set (names.idxOf name) new =
      names.map fun n => if n = name then new else cell n := by
  apply List.ext_getElem
  · simp
  · intro i _ hi
    rw [List.length_map] at hi
    rw [List.getElem_set, List.getElem_map, List.getElem_map]
    by_cases heq : names[i] = name
    · rw [if_pos heq, if_pos (heq ▸ hnodup.idxOf_getElem i hi)]
    · rw [if_neg heq, if_neg]
      intro hidx
      apply heq
      simp only [← hidx, List.getElem_idxOf]

/-- The names of a table after a column is copied under a name. -/
def namesWith (names : List String) (name : String) : List String :=
  if name ∈ names then names else names ++ [name]

theorem mem_namesWith {names : List String} {name other : String} :
    other ∈ namesWith names name ↔ other = name ∨ other ∈ names := by
  unfold namesWith
  split
  · constructor
    · exact Or.inr
    · rintro (rfl | hother)
      · assumption
      · exact hother
  · simp [or_comm]

/-- A copy of a column is there under the new name, and nothing else changes. -/
theorem exists_withAlias {t : Table} {source name : String} (hsource : t.hasName source = true)
    (hname : name ≠ stampName) :
    ∃ u, t.withAlias source name = .ok u ∧ u.names = namesWith t.names name ∧
      u.rows = t.rows.map fun r => ⟨r.stamp, (namesWith t.names name).map fun n =>
        if n = name then t.cellNamed source r else r.cellAt (t.names.idxOf n)⟩ := by
  have hcolumn : ¬ name = "timestamp" := hname
  unfold withAlias namesWith
  rw [if_pos hsource, dif_neg hcolumn]
  -- A column of that name is replaced where it stands; otherwise the copy comes last.
  by_cases hmem : name ∈ t.names
  · rw [dif_pos hmem, if_pos hmem]
    refine ⟨_, rfl, rfl, List.map_congr_left fun r hr => ?_⟩
    have hlt : t.names.idxOf name < r.cells.length := by
      rw [t.aligned r hr]
      exact List.idxOf_lt_length_of_mem hmem
    have hset := set_idxOf_map t.names_nodup name (fun n => r.cellAt (t.names.idxOf n))
      (t.cellNamed source r)
    rw [← cells_eq_map hr] at hset
    rw [setOrPush, if_pos hlt, hset]
  · rw [dif_neg hmem, if_neg hmem]
    refine ⟨_, rfl, rfl, List.map_congr_left fun r hr => ?_⟩
    have hlast : ¬ t.names.length < r.cells.length := by
      rw [t.aligned r hr]
      exact Nat.lt_irrefl _
    have hothers : t.names.map (fun n => r.cellAt (t.names.idxOf n)) = t.names.map fun n =>
        if n = name then t.cellNamed source r else r.cellAt (t.names.idxOf n) := by
      refine List.map_congr_left fun n hn => ?_
      rw [if_neg]
      rintro rfl
      exact hmem hn
    rw [setOrPush, if_neg hlast, List.map_append, ← hothers, ← cells_eq_map hr, List.map_singleton,
      if_pos rfl]

theorem withAlias_of_not_hasName {t : Table} {source : String} (h : t.hasName source = false)
    (name : String) : t.withAlias source name = .error .columnNames :=
  if_neg (by simp [h])

namespace Copies

variable {t u : Table} {origin : Origin}

theorem refl (t : Table) : t.Copies (Origin.self t.names) t where
  mem_names name := by
    unfold Origin.self
    split <;> simp [*]
  source_mem name source horigin := by
    unfold Origin.self at horigin
    split at horigin
    · cases horigin
      assumption
    · cases horigin
  rows := by
    refine ⟨id, (List.map_id _).symm, fun _ => rfl, ?_⟩
    intro r _ name source horigin
    unfold Origin.self at horigin
    split at horigin
    · cases horigin
      rfl
    · cases horigin

/-- Copying a column copies its origin. -/
theorem copy {source target : String} (h : t.Copies origin u) (hsource : source ∈ u.names)
    (htarget : target ≠ stampName) :
    ∃ u', u.withAlias source target = .ok u' ∧ t.Copies (origin.copy source target) u' := by
  have hhas : u.hasName source = true := by
    rw [hasName, Bool.or_eq_true]
    exact Or.inr (List.contains_iff_mem.mpr hsource)
  obtain ⟨u', hu', hnames, hrows⟩ := exists_withAlias hhas htarget
  obtain ⟨lay, hlay, hstamp, hcells⟩ := h.rows
  obtain ⟨o', ho'⟩ := Option.isSome_iff_exists.mp ((h.mem_names source).mp hsource)
  have horigin : ∀ {name o}, origin.copy source target name = some o →
      name = target ∧ o = o' ∨ name ≠ target ∧ origin name = some o := by
    intro name o ho
    by_cases hname : name = target
    · rw [hname, Origin.copy_target, ho', Option.some_or] at ho
      exact .inl ⟨hname, (Option.some.inj ho).symm⟩
    · rw [Origin.copy_of_ne hname] at ho
      exact .inr ⟨hname, ho⟩
  have hmem : ∀ name, name ∈ u'.names ↔ (origin.copy source target name).isSome := by
    intro name
    rw [hnames, mem_namesWith, h.mem_names]
    by_cases hname : name = target
    · rw [hname, Origin.copy_target, ho']
      simp
    · rw [Origin.copy_of_ne hname]
      simp [hname]
  refine ⟨u', hu', hmem, ?_, fun r => ⟨(lay r).stamp, u'.names.map fun n =>
    if n = target then u.cellNamed source (lay r) else (lay r).cellAt (u.names.idxOf n)⟩,
    ?_, hstamp, ?_⟩
  · intro name o ho
    rcases horigin ho with ⟨-, rfl⟩ | ⟨-, ho⟩
    · exact h.source_mem source _ ho'
    · exact h.source_mem name o ho
  · rw [hrows, hlay, List.map_map, hnames]
    rfl
  · -- Under the new name the cells of the source are read, under every other name those of before.
    intro r hr name o ho
    rw [cellAt_map ((hmem name).mpr (by rw [ho]; rfl))]
    rcases horigin ho with ⟨hname, rfl⟩ | ⟨hname, ho⟩
    · rw [if_pos hname, cellNamed_of_ne (ne_stampName hsource)]
      exact hcells r hr source _ ho'
    · rw [if_neg hname]
      exact hcells r hr name o ho

theorem within (h : t.Copies origin u) (start stop : Instant) :
    (t.within start stop).Copies origin (u.within start stop) := by
  obtain ⟨lay, hlay, hstamp, hcells⟩ := h.rows
  have hwithin : Row.isWithin start stop ∘ lay = Row.isWithin start stop := by
    funext r
    rw [Function.comp_apply, Row.isWithin, hstamp r]
    rfl
  refine ⟨h.mem_names, h.source_mem, lay, ?_, hstamp, ?_⟩
  · have hfilter : (u.within start stop).rows = u.rows.filter (Row.isWithin start stop) := rfl
    rw [hfilter, hlay, List.filter_map, hwithin]
    rfl
  · intro r hr
    exact hcells r (List.mem_filter.mp hr).1

theorem stamps_eq (h : t.Copies origin u) : u.stamps = t.stamps := by
  obtain ⟨lay, hlay, hstamp, -⟩ := h.rows
  refine stampsFrom_congr ?_ 0
  rw [hlay, List.map_map]
  refine List.map_congr_left fun r _ => ?_
  rw [Function.comp_apply, Row.instant?, hstamp r]
  rfl

/-- A copied column says what its origin says. -/
theorem valueAt_eq (h : t.Copies origin u) {name : String} (hname : name ≠ stampName)
    (date : Instant) :
    Cube.valueAt u date name = (origin name).bind fun source => Cube.valueAt t date source := by
  obtain ⟨lay, hlay, hstamp, hcells⟩ := h.rows
  cases horigin : origin name with
  | none =>
    have hmem : name ∉ u.names := by
      rw [h.mem_names, horigin]
      exact Bool.false_ne_true
    exact valueAt_of_not_mem hmem hname date
  | some source =>
    have hmem : name ∈ u.names := (h.mem_names name).mpr (by rw [horigin]; rfl)
    have hmem' : source ∈ t.names := h.source_mem name source horigin
    -- Rows keep their timestamps, so the last row of an instant is the same one in both tables.
    have hlast : Cube.lastRowAt u date = (Cube.lastRowAt t date).map lay := by
      have htest : (fun r : Row => decide (r.instant? = some date)) ∘ lay =
          fun r : Row => decide (r.instant? = some date) := by
        funext r
        rw [Function.comp_apply, Row.instant?, hstamp r]
        rfl
      rw [Cube.lastRowAt, hlay, ← List.map_reverse, List.find?_map, htest]
      rfl
    rw [Option.bind_some, Cube.valueAt, Cube.valueAt, hasName_of_ne hname,
      hasName_of_ne (ne_stampName hmem'), if_pos (decide_eq_true hmem), if_pos (decide_eq_true hmem'),
      hlast, Option.bind_map]
    cases hr : Cube.lastRowAt t date with
    | none => rfl
    | some r =>
      have hr' : r ∈ t.rows := List.mem_reverse.mp (List.mem_of_find?_eq_some hr)
      rw [Option.bind_some, Option.bind_some, Function.comp_apply, cellNamed_of_ne hname,
        cellNamed_of_ne (ne_stampName hmem')]
      exact congrArg Cell.number? (hcells r hr' name source horigin)

end Copies

end Table

end MarketBars
