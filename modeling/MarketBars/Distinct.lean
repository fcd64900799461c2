namespace MarketBars

/-- The first occurrence of every key, in order of appearance, leaving out the keys already seen. -/
def distinctAfter {α κ : Type} [BEq κ] (key : α → κ) (seen : List κ) : List α → List α
  | [] => []
  | a :: rest =>
    if seen.contains (key a) then distinctAfter key seen rest
    else a :: distinctAfter key (key a :: seen) rest

/-- The first occurrence of every key, in order of appearance. -/
def distinctBy {α κ : Type} [BEq κ] (key : α → κ) (xs : List α) : List α :=
  distinctAfter key [] xs

section Laws

variable {α κ : Type} [BEq κ] (key : α → κ)

theorem distinctAfter_sublist (seen : List κ) (xs : List α) :
    (distinctAfter key seen xs).Sublist xs := by
  induction xs generalizing seen with
  | nil => exact List.Sublist.refl _
  | cons a rest ih =>
    unfold distinctAfter
    split
    · exact (ih seen).cons a
    · exact (ih _).cons_cons a

variable [LawfulBEq κ]

theorem mem_map_distinctAfter (seen : List κ) (xs : List α) (k : κ) :
    k ∈ (distinctAfter key seen xs).map key ↔ k ∈ xs.map key ∧ k ∉ seen := by
  induction xs generalizing seen with
  | nil => simp [distinctAfter]
  | cons a rest ih =>
    unfold distinctAfter
    split
    · rename_i h
      have hm : key a ∈ seen := by simpa using h
      rw [ih, List.map_cons, List.mem_cons]
      constructor
      · rintro ⟨h₁, h₂⟩; exact ⟨Or.inr h₁, h₂⟩
      · rintro ⟨h₁ | h₁, h₂⟩
        · exact absurd (h₁ ▸ hm) h₂
        · exact ⟨h₁, h₂⟩
    · rename_i h
      have hm : key a ∉ seen := by simpa using h
      simp only [List.map_cons, List.mem_cons, ih]
      by_cases hk : k = key a
      · subst hk; simp [hm]
      · simp [hk]

theorem mem_map_distinctBy (xs : List α) (k : κ) :
    k ∈ (distinctBy key xs).map key ↔ k ∈ xs.map key := by
  simp [distinctBy, mem_map_distinctAfter]

theorem nodup_map_distinctAfter (seen : List κ) (xs : List α) :
    ((distinctAfter key seen xs).map key).Nodup := by
  induction xs generalizing seen with
  | nil => simp [distinctAfter]
  | cons a rest ih =>
    unfold distinctAfter
    split
    · exact ih seen
    · rw [List.map_cons, List.nodup_cons]
      refine ⟨?_, ih _⟩
      rw [mem_map_distinctAfter]
      simp

theorem nodup_map_distinctBy (xs : List α) : ((distinctBy key xs).map key).Nodup :=
  nodup_map_distinctAfter key [] xs

end Laws

end MarketBars
