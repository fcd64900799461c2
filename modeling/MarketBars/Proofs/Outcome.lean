import MarketBars.DataError

/-!
# Results that may be errors

Inversion of the ways in which results that may be errors are put together: one after the other, and
one for each element of a list.
-/

namespace MarketBars

variable {ε α β : Type}

/-- Two steps succeed when the first one does, and the second one does with its value. -/
theorem bind_eq_ok_iff {x : Except ε α} {f : α → Except ε β} {b : β} :
    x >>= f = .ok b ↔ ∃ a, x = .ok a ∧ f a = .ok b := by
  cases x with
  | error e => simp [bind, Except.bind]
  | ok a => simp [bind, Except.bind]

theorem map_eq_ok_iff {f : α → β} {x : Except ε α} {b : β} :
    x.map f = .ok b ↔ ∃ a, x = .ok a ∧ f a = b := by
  cases x with
  | error e => simp [Except.map]
  | ok a => simp [Except.map]

theorem exists_eq_ok_iff {x : Except ε α} : (∃ a, x = .ok a) ↔ ∀ e, x ≠ .error e := by
  cases x <;> simp

theorem map_eq_error_iff {f : α → β} {x : Except ε α} {e : ε} : x.map f = .error e ↔ x = .error e := by
  cases x with
  | error e' => simp [Except.map]
  | ok a => simp [Except.map]

/-- A step for each element of a list succeeds when all of them do, and the values are theirs. -/
theorem mapM_eq_ok_iff {f : α → Except ε β} {xs : List α} {ys : List β} :
    xs.mapM f = .ok ys ↔ xs.map f = ys.map .ok := by
  induction xs generalizing ys with
  | nil => cases ys <;> simp [pure, Except.pure]
  | cons x rest ih =>
    simp only [List.mapM_cons, bind_eq_ok_iff, ih, pure, Except.pure, Except.ok.injEq, List.map_cons]
    constructor
    · rintro ⟨y, hy, zs, hzs, rfl⟩
      rw [hy, hzs, List.map_cons]
    · intro h
      cases ys with
      | nil => simp at h
      | cons y zs =>
        simp only [List.map_cons, List.cons.injEq] at h
        exact ⟨y, h.1, zs, h.2, rfl⟩

theorem mem_mapM_iff {f : α → Except ε β} {xs : List α} {ys : List β} (h : xs.mapM f = .ok ys) {y : β} :
    y ∈ ys ↔ ∃ x ∈ xs, f x = .ok y := by
  have hmem : y ∈ ys ↔ (Except.ok y : Except ε β) ∈ ys.map .ok := by simp
  rw [hmem, ← mapM_eq_ok_iff.mp h, List.mem_map]

/-- Each element can be kept beside its value. -/
theorem mem_mapM_pair_iff {f : α → Except ε β} {xs : List α} {ys : List (α × β)}
    (h : (xs.mapM fun x => do pure (x, ← f x)) = .ok ys) {x : α} {y : β} :
    (x, y) ∈ ys ↔ x ∈ xs ∧ f x = .ok y := by
  rw [mem_mapM_iff h]
  constructor
  · rintro ⟨x', hx', hstep⟩
    obtain ⟨y', hy', hpair⟩ := bind_eq_ok_iff.mp hstep
    cases hpair
    exact ⟨hx', hy'⟩
  · rintro ⟨hx, hy⟩
    exact ⟨x, hx, bind_eq_ok_iff.mpr ⟨y, hy, rfl⟩⟩

theorem map_fst_mapM_pair {f : α → Except ε β} {xs : List α} {ys : List (α × β)}
    (h : (xs.mapM fun x => do pure (x, ← f x)) = .ok ys) : ys.map Prod.fst = xs := by
  rw [mapM_eq_ok_iff] at h
  induction xs generalizing ys with
  | nil => rw [List.map_eq_nil_iff.mp h.symm, List.map_nil]
  | cons x rest ih =>
    cases ys with
    | nil => cases h
    | cons y more =>
      obtain ⟨hstep, hrest⟩ := List.cons.inj h
      obtain ⟨value, -, hpair⟩ := bind_eq_ok_iff.mp hstep
      cases hpair
      rw [List.map_cons, ih hrest]

/-- Results that look alike are one error, or values that look alike. -/
theorem of_map_eq_map {γ : Type} {x : Except ε α} {y : Except ε β} {look : α → γ} {look' : β → γ}
    (h : x.map look = y.map look') :
    (∃ e, x = .error e ∧ y = .error e) ∨ ∃ a b, x = .ok a ∧ y = .ok b ∧ look a = look' b := by
  cases x with
  | error e =>
    cases y with
    | error e' =>
      cases h
      exact Or.inl ⟨e, rfl, rfl⟩
    | ok b => cases h
  | ok a =>
    cases y with
    | error e => cases h
    | ok b => exact Or.inr ⟨a, b, rfl, rfl, Except.ok.inj h⟩

/-- Steps that look alike, after results that look alike, give results that look alike. -/
theorem map_bind_congr {α' β' γ δ : Type} {x : Except ε α} {x' : Except ε α'} {look : α → γ}
    {look' : α' → γ} (hx : x.map look = x'.map look') {f : α → Except ε β} {f' : α' → Except ε β'}
    {see : β → δ} {see' : β' → δ}
    (hf : ∀ a a', look a = look' a' → (f a).map see = (f' a').map see') :
    (x >>= f).map see = (x' >>= f').map see' := by
  rcases of_map_eq_map hx with ⟨e, rfl, rfl⟩ | ⟨a, a', rfl, rfl, haa'⟩
  · rfl
  · exact hf a a' haa'

/-- After one result, steps need only look alike for its value. -/
theorem map_bind_congr_of_ok {β' δ : Type} {x : Except ε α} {f : α → Except ε β}
    {f' : α → Except ε β'} {see : β → δ} {see' : β' → δ}
    (hf : ∀ a, x = .ok a → (f a).map see = (f' a).map see') :
    (x >>= f).map see = (x >>= f').map see' := by
  cases x with
  | error e => rfl
  | ok a => exact hf a rfl

/-- Steps that look alike element by element give lists that look alike. -/
theorem map_mapM_congr {β' γ : Type} {f : α → Except ε β} {f' : α → Except ε β'} {see : β → γ}
    {see' : β' → γ} (hf : ∀ a, (f a).map see = (f' a).map see') (xs : List α) :
    (xs.mapM f).map (List.map see) = (xs.mapM f').map (List.map see') := by
  induction xs with
  | nil => rfl
  | cons a rest ih =>
    rw [List.mapM_cons, List.mapM_cons]
    refine map_bind_congr (hf a) fun b b' hb => map_bind_congr ih fun bs bs' hbs => ?_
    exact congrArg Except.ok (by rw [List.map_cons, List.map_cons, hb, hbs])

/-- Elements can be changed before or after a step for each of them. -/
theorem map_mapM {γ δ : Type} {f : α → Except ε β} {g : γ → Except ε δ} {see : β → δ} {look : α → γ}
    (h : ∀ a, (f a).map see = g (look a)) (xs : List α) :
    (xs.mapM f).map (List.map see) = (xs.map look).mapM g := by
  induction xs with
  | nil => rfl
  | cons a rest ih =>
    rw [List.map_cons, List.mapM_cons, List.mapM_cons, ← h, ← ih]
    cases f a with
    | error e => rfl
    | ok b => cases rest.mapM f <;> rfl

/-- Values can be changed in each step, or in the list of them. -/
theorem map_mapM_eq {γ : Type} {f : α → Except ε β} {g : α → Except ε γ} {see : β → γ}
    (h : ∀ a, (f a).map see = g a) (xs : List α) : (xs.mapM f).map (List.map see) = xs.mapM g := by
  have hxs := @map_mapM ε α β α γ f g see id h xs
  rwa [List.map_id] at hxs

theorem except_map_map {γ : Type} (f : α → β) (g : β → γ) (x : Except ε α) :
    (x.map f).map g = x.map (g ∘ f) := by
  cases x <;> rfl

theorem exists_mapM {f : α → Except ε β} {xs : List α} (h : ∀ x ∈ xs, ∃ y, f x = .ok y) :
    ∃ ys, xs.mapM f = .ok ys := by
  induction xs with
  | nil => exact ⟨[], rfl⟩
  | cons x rest ih =>
    obtain ⟨y, hy⟩ := h x List.mem_cons_self
    obtain ⟨ys, hys⟩ := ih fun z hz => h z (List.mem_cons_of_mem x hz)
    rw [mapM_eq_ok_iff] at hys
    refine ⟨y :: ys, mapM_eq_ok_iff.mpr ?_⟩
    rw [List.map_cons, hy, hys, List.map_cons]

theorem exists_mapM_pair {f : α → Except ε β} {xs : List α} (h : ∀ x ∈ xs, ∃ y, f x = .ok y) :
    ∃ ys, (xs.mapM fun x => do pure (x, ← f x)) = .ok ys := by
  refine exists_mapM fun x hx => ?_
  obtain ⟨y, hy⟩ := h x hx
  exact ⟨(x, y), bind_eq_ok_iff.mpr ⟨y, hy, rfl⟩⟩

/-- Steps that succeed together succeed one by one, and the error of some steps is that of one of them. -/
theorem exists_of_mapM_ok {f : α → Except ε β} {xs : List α} {ys : List β} (h : xs.mapM f = .ok ys) :
    ∀ x ∈ xs, ∃ y, f x = .ok y := by
  intro x hx
  have hmem := List.mem_map_of_mem (f := f) hx
  rw [mapM_eq_ok_iff.mp h] at hmem
  obtain ⟨y, -, hy⟩ := List.mem_map.mp hmem
  exact ⟨y, hy.symm⟩

/-- The error of some steps is that of the first one that fails. -/
theorem exists_split_of_mapM_error {f : α → Except ε β} {xs : List α} {e : ε}
    (h : xs.mapM f = .error e) : ∃ before x after, xs = before ++ x :: after ∧
      (∀ y ∈ before, ∃ z, f y = .ok z) ∧ f x = .error e := by
  induction xs with
  | nil => cases h
  | cons x rest ih =>
    rw [List.mapM_cons] at h
    cases hx : f x with
    | error e' =>
      rw [hx] at h
      cases h
      exact ⟨[], x, rest, rfl, List.forall_mem_nil _, hx⟩
    | ok y =>
      rw [hx] at h
      cases hrest : rest.mapM f with
      | error e' =>
        rw [hrest] at h
        cases h
        obtain ⟨before, z, after, hsplit, hbefore, herror⟩ := ih hrest
        exact ⟨x :: before, z, after, congrArg (x :: ·) hsplit,
          List.forall_mem_cons.mpr ⟨⟨y, hx⟩, hbefore⟩, herror⟩
      | ok ys =>
        rw [hrest] at h
        cases h

theorem exists_of_mapM_error {f : α → Except ε β} {xs : List α} {e : ε} (h : xs.mapM f = .error e) :
    ∃ x ∈ xs, f x = .error e := by
  obtain ⟨before, x, after, hsplit, -, hx⟩ := exists_split_of_mapM_error h
  exact ⟨x, hsplit ▸ List.mem_append_right before List.mem_cons_self, hx⟩

theorem liftError_eq_ok_iff {x : Except DataError α} {a : α} : liftError x = .ok a ↔ x = .ok a := by
  cases x with
  | error e => simp [liftError]
  | ok b => simp [liftError]

theorem map_liftError {α β : Type} (f : α → β) (x : Except DataError α) :
    (liftError x).map f = liftError (x.map f) := by
  cases x <;> rfl

end MarketBars
