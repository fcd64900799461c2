import MarketBars.Diagnostic
import MarketBars.Distinct

/-!
# Dropping, sorting and telling apart

A list is cut down by dropping elements, by keeping the first element of every key, and it is put in
order; in a list that is in order, repeats are neighbours. These steps can change places: a drop that
looks at keys only may come before the others or after them, and so may a relabelling that keeps the
keys.
-/

namespace MarketBars

section Distinct

variable {α β κ : Type} [BEq κ] [LawfulBEq κ]

theorem distinctAfter_cons_of_mem (key : α → κ) {seen : List κ} {a : α} (h : key a ∈ seen)
    (rest : List α) : distinctAfter key seen (a :: rest) = distinctAfter key seen rest := by
  rw [distinctAfter, if_pos (by simpa using h)]

theorem distinctAfter_cons_of_not_mem (key : α → κ) {seen : List κ} {a : α} (h : key a ∉ seen)
    (rest : List α) :
    distinctAfter key seen (a :: rest) = a :: distinctAfter key (key a :: seen) rest := by
  rw [distinctAfter, if_neg (by simpa using h)]

/-- Only the keys that occur in a list matter among those already seen. -/
theorem distinctAfter_congr (key : α → κ) {seen seen' : List κ} {xs : List α}
    (h : ∀ a ∈ xs, key a ∈ seen ↔ key a ∈ seen') :
    distinctAfter key seen xs = distinctAfter key seen' xs := by
  induction xs generalizing seen seen' with
  | nil => rfl
  | cons a rest ih =>
    have ha : key a ∈ seen ↔ key a ∈ seen' := h a List.mem_cons_self
    have hrest : ∀ b ∈ rest, key b ∈ seen ↔ key b ∈ seen' :=
      fun b hb => h b (List.mem_cons_of_mem a hb)
    by_cases hseen : key a ∈ seen
    · rw [distinctAfter_cons_of_mem key hseen, distinctAfter_cons_of_mem key (ha.mp hseen)]
      exact ih hrest
    · rw [distinctAfter_cons_of_not_mem key hseen,
        distinctAfter_cons_of_not_mem key (mt ha.mpr hseen)]
      refine congrArg (a :: ·) (ih fun b hb => ?_)
      simp only [List.mem_cons, hrest b hb]

theorem filter_distinctAfter (key : α → κ) (keep : α → Bool) (keepKey : κ → Bool)
    (hkeep : ∀ a, keep a = keepKey (key a)) (seen : List κ) (xs : List α) :
    (distinctAfter key seen xs).filter keep = distinctAfter key seen (xs.filter keep) := by
  induction xs generalizing seen with
  | nil => rfl
  | cons a rest ih =>
    by_cases hseen : key a ∈ seen
    · rw [distinctAfter_cons_of_mem key hseen, ih]
      by_cases ha : keep a
      · rw [List.filter_cons_of_pos ha, distinctAfter_cons_of_mem key hseen]
      · rw [List.filter_cons_of_neg ha]
    · rw [distinctAfter_cons_of_not_mem key hseen]
      by_cases ha : keep a
      · rw [List.filter_cons_of_pos ha, List.filter_cons_of_pos ha,
          distinctAfter_cons_of_not_mem key hseen, ih]
      · rw [List.filter_cons_of_neg ha, List.filter_cons_of_neg ha, ih]
        -- The key of the dropped element is not among the others, so it need not be seen.
        refine distinctAfter_congr key fun b hb => ?_
        have hne : key b ≠ key a := by
          intro heq
          have hb' := (List.mem_filter.mp hb).2
          rw [hkeep, heq, ← hkeep] at hb'
          exact ha hb'
        simp [hne]

/-- A drop that looks at keys only commutes with keeping the first of every key. -/
theorem filter_distinctBy (key : α → κ) (keep : α → Bool) (keepKey : κ → Bool)
    (hkeep : ∀ a, keep a = keepKey (key a)) (xs : List α) :
    (distinctBy key xs).filter keep = distinctBy key (xs.filter keep) :=
  filter_distinctAfter key keep keepKey hkeep [] xs

theorem find?_of_mem_distinctAfter (key : α → κ) {seen : List κ} {xs : List α} {a : α}
    (h : a ∈ distinctAfter key seen xs) : xs.find? (fun b => key b == key a) = some a := by
  induction xs generalizing seen with
  | nil => cases h
  | cons b rest ih =>
    have hnew : key a ∉ seen :=
      ((mem_map_distinctAfter key seen (b :: rest) (key a)).mp (List.mem_map_of_mem h)).2
    by_cases hseen : key b ∈ seen
    · rw [distinctAfter_cons_of_mem key hseen] at h
      have hne : key b ≠ key a := fun heq => hnew (heq ▸ hseen)
      rw [List.find?_cons_of_neg (by simpa using hne)]
      exact ih h
    · rw [distinctAfter_cons_of_not_mem key hseen] at h
      rcases List.mem_cons.mp h with rfl | hrest
      · exact List.find?_cons_of_pos (beq_self_eq_true _)
      · have hne : key b ≠ key a := by
          intro heq
          have hlater := (mem_map_distinctAfter key (key b :: seen) rest (key a)).mp
            (List.mem_map_of_mem hrest)
          exact hlater.2 (heq ▸ List.mem_cons_self)
        rw [List.find?_cons_of_neg (by simpa using hne)]
        exact ih hrest

/-- What is kept of a key is the first element that has it. -/
theorem find?_of_mem_distinctBy (key : α → κ) {xs : List α} {a : α} (h : a ∈ distinctBy key xs) :
    xs.find? (fun b => key b == key a) = some a :=
  find?_of_mem_distinctAfter key h

/-- Where no key appears twice, an element is found by its key. -/
theorem find?_of_mem_of_nodup (key : α → κ) {xs : List α} (hkeys : (xs.map key).Nodup) {a : α}
    (h : a ∈ xs) : xs.find? (fun b => key b == key a) = some a := by
  obtain ⟨before, after, rfl⟩ := List.append_of_mem h
  refine List.find?_eq_some_iff_append.mpr ⟨beq_self_eq_true _, before, after, rfl, fun b hb => ?_⟩
  rw [List.map_append, List.nodup_append] at hkeys
  have hne := hkeys.2.2 _ (List.mem_map_of_mem hb) _ List.mem_cons_self
  simpa using hne

theorem lookup_of_mem_of_nodup {entries : List (κ × β)} (hkeys : (entries.map Prod.fst).Nodup) {k : κ}
    {v : β} (h : (k, v) ∈ entries) : entries.lookup k = some v := by
  obtain ⟨before, after, rfl⟩ := List.append_of_mem h
  refine List.lookup_eq_some_iff.mpr ⟨before, after, rfl, fun p hp => ?_⟩
  rw [List.map_append, List.nodup_append] at hkeys
  have hne := hkeys.2.2 _ (List.mem_map_of_mem hp) _ List.mem_cons_self
  simpa using hne.symm

theorem distinctAfter_eq_self (key : α → κ) {seen : List κ} {xs : List α}
    (hkeys : (xs.map key).Nodup) (hnew : ∀ a ∈ xs, key a ∉ seen) : distinctAfter key seen xs = xs := by
  induction xs generalizing seen with
  | nil => rfl
  | cons a rest ih =>
    rw [List.map_cons, List.nodup_cons] at hkeys
    rw [distinctAfter_cons_of_not_mem key (hnew a List.mem_cons_self), ih hkeys.2]
    intro b hb hseen
    rcases List.mem_cons.mp hseen with heq | hseen
    · exact hkeys.1 (heq ▸ List.mem_map_of_mem hb)
    · exact hnew b (List.mem_cons_of_mem a hb) hseen

/-- Where no key appears twice, every element is the first of its key. -/
theorem distinctBy_eq_self (key : α → κ) {xs : List α} (hkeys : (xs.map key).Nodup) :
    distinctBy key xs = xs :=
  distinctAfter_eq_self key hkeys fun _ _ => List.not_mem_nil

/-- What is kept of a list does not depend on what follows it. -/
theorem distinctAfter_append (key : α → κ) (seen : List κ) (xs ys : List α) :
    distinctAfter key seen (xs ++ ys) =
      distinctAfter key seen xs ++ distinctAfter key (xs.map key ++ seen) ys := by
  induction xs generalizing seen with
  | nil => rfl
  | cons a rest ih =>
    rw [List.cons_append]
    by_cases hseen : key a ∈ seen
    · rw [distinctAfter_cons_of_mem key hseen, distinctAfter_cons_of_mem key hseen, ih]
      refine congrArg (_ ++ ·) (distinctAfter_congr key fun b _ => ?_)
      rw [List.map_cons, List.cons_append, List.mem_cons, or_iff_right_of_imp]
      rintro heq
      exact List.mem_append_right _ (heq ▸ hseen)
    · rw [distinctAfter_cons_of_not_mem key hseen, distinctAfter_cons_of_not_mem key hseen, ih,
        List.cons_append]
      refine congrArg (a :: _ ++ ·) (distinctAfter_congr key fun b _ => ?_)
      simp only [List.map_cons, List.mem_append, List.mem_cons, List.cons_append]
      exact or_left_comm

theorem distinctBy_append (key : α → κ) (xs ys : List α) :
    distinctBy key (xs ++ ys) = distinctBy key xs ++ distinctAfter key (xs.map key) ys := by
  rw [distinctBy, distinctAfter_append, List.append_nil, distinctBy]

/-- The repeats of a first part need not be dropped before the rest is looked at. -/
theorem distinctBy_append_left (key : α → κ) (xs ys : List α) :
    distinctBy key (distinctBy key xs ++ ys) = distinctBy key (xs ++ ys) := by
  rw [distinctBy_append, distinctBy_append, distinctBy_eq_self key (nodup_map_distinctBy key xs)]
  exact congrArg (_ ++ ·) (distinctAfter_congr key fun b _ => mem_map_distinctBy key xs (key b))

theorem distinctAfter_eq_nil (key : α → κ) {seen : List κ} {xs : List α}
    (h : ∀ a ∈ xs, key a ∈ seen) : distinctAfter key seen xs = [] := by
  induction xs with
  | nil => rfl
  | cons a rest ih =>
    rw [distinctAfter_cons_of_mem key (h a List.mem_cons_self)]
    exact ih fun b hb => h b (List.mem_cons_of_mem a hb)

/-- Of the parts of a list, a repeated one adds nothing. -/
theorem distinctAfter_flatMap {ι : Type} [BEq ι] [LawfulBEq ι] (key : α → κ) (part : ι → List α)
    {seen : List κ} {passed : List ι} (h : ∀ i ∈ passed, ∀ a ∈ part i, key a ∈ seen) (parts : List ι) :
    distinctAfter key seen ((distinctAfter id passed parts).flatMap part) =
      distinctAfter key seen (parts.flatMap part) := by
  induction parts generalizing seen passed with
  | nil => rfl
  | cons i rest ih =>
    by_cases hi : i ∈ passed
    · have hnew : ∀ a ∈ rest.flatMap part, key a ∈ (part i).map key ++ seen ↔ key a ∈ seen := by
        intro a _
        rw [List.mem_append, or_iff_right_of_imp]
        intro ha
        obtain ⟨b, hb, hkey⟩ := List.mem_map.mp ha
        exact hkey ▸ h i hi b hb
      rw [distinctAfter_cons_of_mem id hi, ih h, List.flatMap_cons, distinctAfter_append,
        distinctAfter_eq_nil key (h i hi), List.nil_append, distinctAfter_congr key hnew]
    · have hpassed : ∀ j ∈ i :: passed, ∀ a ∈ part j, key a ∈ (part i).map key ++ seen := by
        intro j hj a ha
        rcases List.mem_cons.mp hj with rfl | hj
        · exact List.mem_append_left _ (List.mem_map_of_mem ha)
        · exact List.mem_append_right _ (h j hj a ha)
      rw [distinctAfter_cons_of_not_mem id hi, List.flatMap_cons, List.flatMap_cons,
        distinctAfter_append, distinctAfter_append]
      exact congrArg (_ ++ ·) (ih hpassed)

/-- What is kept stands in the order in which it first appears. -/
theorem pairwise_idxOf_distinctAfter (seen xs : List κ) :
    (distinctAfter id seen xs).Pairwise fun a b => xs.idxOf a < xs.idxOf b := by
  induction xs generalizing seen with
  | nil => exact .nil
  | cons a rest ih =>
    have hlater : ∀ {seen : List κ}, a ∈ seen → ∀ b ∈ distinctAfter id seen rest,
        (a :: rest).idxOf b = rest.idxOf b + 1 := by
      intro seen ha b hb
      have hne : a ≠ b := by
        rintro rfl
        exact ((mem_map_distinctAfter id seen rest a).mp (List.mem_map_of_mem hb)).2 ha
      rw [List.idxOf_cons, beq_eq_false_iff_ne.mpr hne, cond_false]
    have hrest : ∀ {seen : List κ}, a ∈ seen → (distinctAfter id seen rest).Pairwise
        fun b c => (a :: rest).idxOf b < (a :: rest).idxOf c := by
      intro seen ha
      refine (ih seen).imp_of_mem fun hb hc hlt => ?_
      rw [hlater ha _ hb, hlater ha _ hc]
      exact Nat.succ_lt_succ hlt
    by_cases hseen : a ∈ seen
    · rw [distinctAfter_cons_of_mem id hseen]
      exact hrest hseen
    · rw [distinctAfter_cons_of_not_mem id hseen]
      refine List.pairwise_cons.mpr ⟨fun b hb => ?_, hrest List.mem_cons_self⟩
      rw [List.idxOf_cons_self, hlater List.mem_cons_self b hb]
      exact Nat.succ_pos _

omit [LawfulBEq κ] in
theorem distinctAfter_map (key : β → κ) (f : α → β) (seen : List κ) (xs : List α) :
    distinctAfter key seen (xs.map f) = (distinctAfter (fun a => key (f a)) seen xs).map f := by
  induction xs generalizing seen with
  | nil => rfl
  | cons a rest ih =>
    simp only [List.map_cons, distinctAfter, ih]
    split <;> rfl

omit [LawfulBEq κ] in
/-- Relabelling commutes with keeping the first of every key. -/
theorem distinctBy_map (key : β → κ) (f : α → β) (xs : List α) :
    distinctBy key (xs.map f) = (distinctBy (fun a => key (f a)) xs).map f :=
  distinctAfter_map key f [] xs

end Distinct

section Sorted

variable {α : Type} {le : α → α → Bool}

/-- A list is split in one way only into elements that fail a test and elements that pass it. -/
theorem append_split_unique (test : α → Bool) {a₁ a₂ b₁ b₂ : List α}
    (ha₁ : ∀ x ∈ a₁, ¬ test x) (ha₂ : ∀ x ∈ a₂, test x) (hb₁ : ∀ x ∈ b₁, ¬ test x)
    (hb₂ : ∀ x ∈ b₂, test x) (h : a₁ ++ a₂ = b₁ ++ b₂) : a₁ = b₁ ∧ a₂ = b₂ := by
  have hfail := congrArg (List.filter fun x => !test x) h
  have hpass := congrArg (List.filter test) h
  rw [List.filter_append, List.filter_append] at hfail hpass
  rw [List.filter_eq_self.mpr (by simpa using ha₁), List.filter_eq_nil_iff.mpr (by simpa using ha₂),
    List.filter_eq_self.mpr (by simpa using hb₁), List.filter_eq_nil_iff.mpr (by simpa using hb₂),
    List.append_nil, List.append_nil] at hfail
  rw [List.filter_eq_nil_iff.mpr ha₁, List.filter_eq_self.mpr ha₂,
    List.filter_eq_nil_iff.mpr hb₁, List.filter_eq_self.mpr hb₂] at hpass
  exact ⟨hfail, by simpa using hpass⟩

/-- A strictly ascending list is determined by its elements. -/
theorem eq_of_ascending {lt : α → α → Prop} (asymm : ∀ a b, lt a b → ¬ lt b a) {xs ys : List α}
    (hxs : xs.Pairwise lt) (hys : ys.Pairwise lt) (h : ∀ a, a ∈ xs ↔ a ∈ ys) : xs = ys := by
  have hne : ∀ {a b}, lt a b → a ≠ b := by
    rintro a _ hab rfl
    exact asymm a a hab hab
  have hperm : xs.Perm ys := (List.perm_ext_iff_of_nodup (hxs.imp hne) (hys.imp hne)).mpr h
  exact hperm.eq_of_pairwise (fun a b _ _ hab hba => absurd hba (asymm a b hab)) hxs hys

/-- What is sorted behind the first element of a list is not before it. -/
theorem le_of_mergeSort_cons (trans : ∀ a b c, le a b → le b c → le a c)
    (total : ∀ a b, (le a b || le b a) = true) {a : α} {rest low high : List α}
    (h : (a :: rest).mergeSort le = low ++ a :: high) : ∀ b ∈ high, le a b = true := by
  have hsorted := List.pairwise_mergeSort trans total (a :: rest)
  rw [h, List.pairwise_append] at hsorted
  exact fun b hb => List.rel_of_pairwise_cons hsorted.2.1 hb

/-- Once the first element of every key is kept, sorting by key puts the elements in strict order. -/
theorem pairwise_mergeSort_distinctBy {κ : Type} [BEq κ] [LawfulBEq κ] (key : α → κ) (le : κ → κ → Bool)
    (trans : ∀ {a b c}, le a b → le b c → le a c) (total : ∀ a b, (le a b || le b a) = true)
    (xs : List α) :
    ((distinctBy key xs).mergeSort fun a b => le (key a) (key b)).Pairwise fun a b =>
      le (key a) (key b) = true ∧ key a ≠ key b := by
  have hsorted := @List.pairwise_mergeSort _ (fun a b => le (key a) (key b))
    (fun _ _ _ => trans) (fun _ _ => total _ _) (distinctBy key xs)
  have hnodup : (((distinctBy key xs).mergeSort fun a b => le (key a) (key b)).map key).Nodup :=
    ((List.mergeSort_perm _ _).map key).nodup_iff.mpr (nodup_map_distinctBy key xs)
  exact List.Pairwise.imp₂ (fun _ _ => And.intro) hsorted (List.pairwise_map.mp hnodup)

/-- Dropping elements commutes with sorting, which is stable. -/
theorem filter_mergeSort (trans : ∀ a b c, le a b → le b c → le a c)
    (total : ∀ a b, (le a b || le b a) = true) (keep : α → Bool) (xs : List α) :
    (xs.mergeSort le).filter keep = (xs.filter keep).mergeSort le := by
  induction xs with
  | nil => simp
  | cons a rest ih =>
    -- An element is inserted after all that it is not before, whatever else is dropped.
    obtain ⟨low, high, hsort, hrest, hlow⟩ := List.mergeSort_cons trans total a rest
    have hhigh := le_of_mergeSort_cons trans total hsort
    rw [hsort, List.filter_append]
    rw [hrest, List.filter_append] at ih
    by_cases ha : keep a
    · obtain ⟨low', high', hsort', hrest', hlow'⟩ :=
        List.mergeSort_cons trans total a (rest.filter keep)
      have hhigh' := le_of_mergeSort_cons trans total hsort'
      obtain ⟨heq, heq'⟩ := append_split_unique (le a)
        (fun b hb => by simpa using hlow b (List.mem_filter.mp hb).1)
        (fun b hb => hhigh b (List.mem_filter.mp hb).1)
        (fun b hb => by simpa using hlow' b hb) hhigh' (ih.trans hrest')
      rw [List.filter_cons_of_pos ha, List.filter_cons_of_pos ha, hsort', heq, heq']
    · rw [List.filter_cons_of_neg ha, List.filter_cons_of_neg ha, ih]

end Sorted

section Repeats

variable {α : Type} [BEq α]

omit [BEq α] in
/-- What is kept already does not matter for what is kept of the rest. -/
theorem eraseRepsBy_loop (r : α → α → Bool) (a : α) (rest kept : List α) :
    List.eraseRepsBy.loop r a rest kept = kept.reverse ++ List.eraseRepsBy.loop r a rest [] := by
  induction rest generalizing a kept with
  | nil => simp [List.eraseRepsBy.loop]
  | cons b rest ih =>
    simp only [List.eraseRepsBy.loop]
    cases r a b with
    | true => exact ih a kept
    | false =>
      dsimp only
      rw [ih b (a :: kept), ih b [a], List.reverse_cons, List.append_assoc]
      rfl

theorem eraseReps_cons_cons (a b : α) (rest : List α) :
    (a :: b :: rest).eraseReps =
      if a == b then (a :: rest).eraseReps else a :: (b :: rest).eraseReps := by
  simp only [List.eraseReps, List.eraseRepsBy, List.eraseRepsBy.loop]
  cases a == b with
  | true => rfl
  | false => exact eraseRepsBy_loop _ b rest [a]

variable [LawfulBEq α]

theorem mem_eraseReps_cons {a x : α} {rest : List α} :
    x ∈ (a :: rest).eraseReps ↔ x ∈ a :: rest := by
  induction rest generalizing a with
  | nil => exact Iff.rfl
  | cons b rest ih =>
    rw [eraseReps_cons_cons]
    by_cases hab : a = b
    · rw [if_pos (beq_iff_eq.mpr hab), ih, hab]
      simp
    · rw [if_neg (by simpa using hab), List.mem_cons, ih, ← List.mem_cons]

/-- In a list that is in order, no two elements are equal once neighbours are told apart. -/
theorem eraseReps_ascending {lt : α → α → Prop} (trans : ∀ a b c, lt a b → lt b c → lt a c)
    {xs : List α} (h : xs.Pairwise fun a b => lt a b ∨ a = b) : xs.eraseReps.Pairwise lt := by
  cases xs with
  | nil => exact .nil
  | cons a rest =>
    induction rest generalizing a with
    | nil => exact List.pairwise_singleton lt a
    | cons b rest ih =>
      obtain ⟨ha, hrest⟩ := List.pairwise_cons.mp h
      rw [eraseReps_cons_cons]
      by_cases hab : a = b
      · rw [if_pos (beq_iff_eq.mpr hab), hab]
        exact ih b hrest
      · rw [if_neg (by simpa using hab)]
        refine List.pairwise_cons.mpr ⟨fun x hx => ?_, ih b hrest⟩
        have hlt : lt a b := (ha b List.mem_cons_self).resolve_right hab
        rcases List.mem_cons.mp (mem_eraseReps_cons.mp hx) with rfl | hx
        · exact hlt
        · rcases List.rel_of_pairwise_cons hrest hx with hbx | rfl
          · exact trans a b x hlt hbx
          · exact hlt

end Repeats

theorem mem_sortedDistinct {texts : List String} {text : String} :
    text ∈ sortedDistinct texts ↔ text ∈ texts := by
  have hsorted : text ∈ texts.mergeSort (fun a b => decide (a ≤ b)) ↔ text ∈ texts :=
    List.mem_mergeSort
  rw [← hsorted, sortedDistinct]
  cases texts.mergeSort fun a b => decide (a ≤ b) with
  | nil => exact Iff.rfl
  | cons a rest => exact mem_eraseReps_cons

theorem sortedDistinct_ascending (texts : List String) :
    (sortedDistinct texts).Pairwise (· < ·) := by
  have hsorted : (texts.mergeSort fun a b => decide (a ≤ b)).Pairwise fun a b =>
      decide (a ≤ b) = true := by
    refine List.pairwise_mergeSort ?_ ?_ texts
    · intro a b c hab hbc
      exact decide_eq_true (String.le_trans (of_decide_eq_true hab) (of_decide_eq_true hbc))
    · intro a b
      simpa using String.le_total a b
  have hascending : (texts.mergeSort fun a b => decide (a ≤ b)).Pairwise fun a b =>
      a < b ∨ a = b := by
    refine hsorted.imp fun {a b} hab => ?_
    by_cases hlt : a < b
    · exact .inl hlt
    · exact .inr (String.le_antisymm (of_decide_eq_true hab) (String.not_lt.mp hlt))
  have htrans : ∀ a b c : String, a < b → b < c → a < c := fun _ _ _ => String.lt_trans
  exact eraseReps_ascending htrans hascending

end MarketBars
