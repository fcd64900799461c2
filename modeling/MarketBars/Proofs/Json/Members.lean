import MarketBars.Json.Value

namespace MarketBars

namespace Json

/-- The first member counts when no later one has its name. -/
theorem lastMember?_cons (m : String × Json) (rest : List (String × Json)) (name : String) :
    lastMember? (m :: rest) name =
      (lastMember? rest name).or (if name = m.1 then some m.2 else none) := by
  rw [lastMember?, List.reverse_cons, List.lookup_append, lastMember?]
  congr 1
  obtain ⟨key, value⟩ := m
  by_cases h : name = key
  · rw [if_pos h, h, List.lookup_cons_self]
  · rw [if_neg h, List.lookup_cons, beq_eq_false_iff_ne.mpr h]
    rfl

variable {α : Type}

/-- Setting a member changes the value of one name. -/
theorem mem_setMember {members : List (String × α)} {name : String} {value : α} {m : String × α} :
    m ∈ setMember members name value ↔ m = (name, value) ∨ (m.1 ≠ name ∧ m ∈ members) := by
  unfold setMember
  split
  · rename_i hany
    obtain ⟨old, hold, hname⟩ := List.any_eq_true.mp hany
    rw [List.mem_map]
    constructor
    · rintro ⟨x, hx, rfl⟩
      by_cases hxn : x.1 = name
      · rw [if_pos (beq_iff_eq.mpr hxn)]
        exact .inl rfl
      · rw [if_neg (mt beq_iff_eq.mp hxn)]
        exact .inr ⟨hxn, hx⟩
    · rintro (rfl | ⟨hne, hm⟩)
      · exact ⟨old, hold, if_pos hname⟩
      · exact ⟨m, hm, if_neg (mt beq_iff_eq.mp hne)⟩
  · rename_i hnone
    have hfresh : ∀ x ∈ members, x.1 ≠ name := fun x hx h =>
      hnone (List.any_eq_true.mpr ⟨x, hx, beq_iff_eq.mpr h⟩)
    rw [List.mem_append, List.mem_singleton, or_comm]
    exact or_congr_right ⟨fun h => ⟨hfresh m h, h⟩, And.right⟩

theorem nodup_setMember {members : List (String × α)} (name : String) (value : α)
    (h : (members.map Prod.fst).Nodup) : ((setMember members name value).map Prod.fst).Nodup := by
  unfold setMember
  split
  · -- The names do not change where the value of one of them is replaced.
    have hnames : (members.map fun m => if m.1 == name then (name, value) else m).map Prod.fst =
        members.map Prod.fst := by
      rw [List.map_map]
      refine List.map_congr_left fun m _ => ?_
      show (if m.1 == name then (name, value) else m).1 = m.1
      split
      · rename_i hname
        exact (beq_iff_eq.mp hname).symm
      · rfl
    rw [hnames]
    exact h
  · rename_i hnone
    rw [List.map_append, List.nodup_append]
    refine ⟨h, List.pairwise_singleton _ _, ?_⟩
    rintro a ha b hb rfl
    obtain ⟨m, hm, hname⟩ := List.mem_map.mp ha
    exact hnone (List.any_eq_true.mpr ⟨m, hm, beq_iff_eq.mpr (hname.trans (List.mem_singleton.mp hb))⟩)

/-- The members that are set one after the other: those that count, and beside them the ones that were
there before. -/
theorem mem_foldl_setMember (members acc : List (String × Json)) (m : String × Json) :
    m ∈ members.foldl (fun acc m => setMember acc m.1 m.2) acc ↔
      lastMember? members m.1 = some m.2 ∨ (lastMember? members m.1 = none ∧ m ∈ acc) := by
  induction members generalizing acc with
  | nil => simp [lastMember?]
  | cons first rest ih =>
    rw [List.foldl_cons, ih, mem_setMember, lastMember?_cons]
    cases hrest : lastMember? rest m.1 with
    | some value => simp
    | none =>
      by_cases hname : m.1 = first.1
      · simp [hname, Prod.ext_iff, eq_comm]
      · simp [hname, Prod.ext_iff]

theorem nodup_foldl_setMember (members acc : List (String × α)) (h : (acc.map Prod.fst).Nodup) :
    ((members.foldl (fun acc m => setMember acc m.1 m.2) acc).map Prod.fst).Nodup := by
  induction members generalizing acc with
  | nil => exact h
  | cons first rest ih => exact ih _ (nodup_setMember first.1 first.2 h)

theorem mem_sortedMembers {members : List (String × Json)} {m : String × Json} :
    m ∈ sortedMembers members ↔ lastMember? members m.1 = some m.2 := by
  rw [sortedMembers, List.mem_mergeSort, mem_foldl_setMember]
  simp

theorem nodup_sortedMembers (members : List (String × α)) :
    ((sortedMembers members).map Prod.fst).Nodup :=
  ((List.mergeSort_perm _ _).map Prod.fst).nodup_iff.mpr
    (nodup_foldl_setMember members [] List.nodup_nil)

end Json

end MarketBars
