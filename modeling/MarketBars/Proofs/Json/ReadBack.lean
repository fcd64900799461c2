import MarketBars.Json.Printer
import MarketBars.Json.Reader
import Mathlib.Tactic.IntervalCases

namespace MarketBars.Json

/-! ## Strings -/

/-- The characters that a string is written with, between its quotes. -/
def escaped (s : String) : List Char := s.toList.flatMap fun c => (escapeChar c).toList

theorem toList_quoted (s : String) : (quoted s).toList = '"' :: (escaped s ++ ['"']) := by
  simp [quoted, escaped, String.toList_append, String.toList_join, List.flatMap_map]

theorem readCodePoint_control {n : Nat} (h : n < 32) (rest : List Char) :
    readCodePoint ('0' :: '0' :: (((if n < 16 then "0" else "") ++ Text.hexDigits n).toList ++ rest)) =
      some (Char.ofNat n, rest) := by
  interval_cases n <;> rfl

theorem readString_escapeChar (c : Char) (fuel : Nat) (acc rest : List Char) :
    readString (fuel + 1) acc ((escapeChar c).toList ++ rest) = readString fuel (c :: acc) rest := by
  unfold escapeChar
  split
  · rfl
  · rfl
  · rfl
  · rfl
  · rfl
  · rfl
  · rfl
  · rename_i hquote hbackslash _ _ _ _ _
    split
    · rename_i hcontrol
      have hread := readCodePoint_control hcontrol rest
      rw [Char.ofNat_toNat] at hread
      have hfront : "\\u00".toList = ['\\', 'u', '0', '0'] := rfl
      rw [String.append_assoc, String.toList_append, List.append_assoc, hfront]
      simp only [List.cons_append, List.nil_append]
      rw [readString, hread]
    · rename_i hplain
      rw [Char.toString_eq_singleton, String.toList_singleton]
      show readString (fuel + 1) acc (c :: rest) = _
      rw [readString.eq_def]
      split <;> simp_all

theorem readString_escaped (cs rest : List Char) {fuel : Nat} (acc : List Char) (h : cs.length < fuel) :
    readString fuel acc ((cs.flatMap fun c => (escapeChar c).toList) ++ '"' :: rest) =
      some (String.ofList (acc.reverse ++ cs), rest) := by
  induction cs generalizing fuel acc with
  | nil =>
    obtain ⟨fuel, rfl⟩ := Nat.exists_eq_succ_of_ne_zero (Nat.ne_of_gt h)
    rw [List.append_nil]
    rfl
  | cons c cs ih =>
    obtain ⟨fuel, rfl⟩ := Nat.exists_eq_succ_of_ne_zero (Nat.ne_of_gt (Nat.zero_lt_of_lt h))
    rw [List.flatMap_cons, List.append_assoc, readString_escapeChar, ih _ (Nat.lt_of_succ_lt_succ h),
      List.reverse_cons, List.append_assoc, List.singleton_append]

theorem escapeChar_ne_nil (c : Char) : (escapeChar c).toList ≠ [] := by
  unfold escapeChar
  split <;> try decide
  split <;> simp [String.toList_append, Char.toString_eq_singleton]

theorem length_le_escaped (s : String) : s.toList.length ≤ (escaped s).length := by
  rw [escaped, List.length_flatMap]
  induction s.toList with
  | nil => exact Nat.le_refl _
  | cons c cs ih =>
    have hpos := List.length_pos_iff.mpr (escapeChar_ne_nil c)
    rw [List.map_cons, List.sum_cons, List.length_cons]
    omega

theorem readString_quoted (s : String) (fuel : Nat) (rest : List Char)
    (h : (escaped s).length < fuel) :
    readString fuel [] (escaped s ++ '"' :: rest) = some (s, rest) := by
  rw [escaped, readString_escaped _ _ _ (Nat.lt_of_le_of_lt (length_le_escaped s) h), List.reverse_nil,
    List.nil_append, String.ofList_toList]

/-! ## Values -/

/-- A value without numbers, in which no more than a number of brackets are open at once. The text of a number
may stand for a value of the other kind. -/
inductive IsText : Nat → Json → Prop
  | string (n : Nat) (s : String) : IsText n (.string s)
  | array {n : Nat} {items : List Json} (h : ∀ j ∈ items, IsText n j) : IsText (n + 1) (.array items)
  | object {n : Nat} {members : List (String × Json)} (h : ∀ m ∈ members, IsText n m.2) :
    IsText (n + 1) (.object members)

def written (j : Json) : List Char := (compact j).toList

def writtenMember (m : String × Json) : List Char := (quoted m.1).toList ++ ':' :: written m.2

theorem written_string (s : String) : written (.string s) = '"' :: (escaped s ++ ['"']) :=
  toList_quoted s

theorem compactItems_eq (items : List Json) : compactItems items = items.map compact := by
  induction items with
  | nil => rfl
  | cons j rest ih => rw [compactItems, ih, List.map_cons]

theorem written_array (items : List Json) :
    written (.array items) = '[' :: ([','].intercalate (items.map written) ++ [']']) := by
  rw [written, compact, compactItems_eq, String.toList_append, String.toList_append,
    String.toList_intercalate, List.map_map]
  rfl

theorem written_object (members : List (String × Json)) :
    written (.object members) =
      '\x7b' :: ([','].intercalate (members.map writtenMember) ++ ['\x7d']) := by
  have hmembers : (compactMembers members).map String.toList = members.map writtenMember := by
    induction members with
    | nil => rfl
    | cons m rest ih =>
      rw [compactMembers, List.map_cons, List.map_cons, ih, String.toList_append, String.toList_append,
        List.append_assoc]
      rfl
  rw [written, compact, String.toList_append, String.toList_append, String.toList_intercalate, hmembers]
  rfl

theorem IsText.exists_head {n : Nat} {j : Json} (h : IsText n j) :
    ∃ c tail, written j = c :: tail ∧ (c = '"' ∨ c = '[' ∨ c = '\x7b') := by
  cases h with
  | string _ s => exact ⟨_, _, written_string s, .inl rfl⟩
  | array => exact ⟨_, _, written_array _, .inr (.inl rfl)⟩
  | object => exact ⟨_, _, written_object _, .inr (.inr rfl)⟩

theorem exists_intercalate_cons {α : Type} (sep x : List α) (xs : List (List α)) :
    ∃ others, sep.intercalate (x :: xs) = x ++ others := by
  cases xs with
  | nil => exact ⟨[], by rw [List.intercalate_singleton, List.append_nil]⟩
  | cons y ys => exact ⟨_, by rw [List.intercalate_cons_cons, List.append_assoc]⟩

/-- The text of a value is read as the value, at some depth and with as many steps as characters. -/
def ReadsAt (depth : Nat) (j : Json) : Prop :=
  ∀ fuel rest, (written j).length ≤ fuel → readValue fuel depth (written j ++ rest) = some (j, rest)

theorem skipSpace_cons {c : Char} (h : isSpace c = false) (rest : List Char) :
    skipSpace (c :: rest) = c :: rest :=
  List.dropWhile_cons_of_neg (by simp [h])

theorem readItems_of_reads (fuel depth : Nat) (j : Json) (items : List Json)
    (h : ∀ i ∈ j :: items, ReadsAt depth i) (rest : List Char)
    (hfuel : ([','].intercalate ((j :: items).map written)).length < fuel) :
    readItems fuel depth ([','].intercalate ((j :: items).map written) ++ ']' :: rest) =
      some (j :: items, rest) := by
  induction items generalizing fuel j with
  | nil =>
    obtain ⟨fuel, rfl⟩ := Nat.exists_eq_succ_of_ne_zero (Nat.ne_of_gt (Nat.zero_lt_of_lt hfuel))
    rw [List.map_singleton, List.intercalate_singleton] at hfuel ⊢
    rw [readItems, h j List.mem_cons_self fuel _ (by omega)]
    rfl
  | cons next items ih =>
    obtain ⟨fuel, rfl⟩ := Nat.exists_eq_succ_of_ne_zero (Nat.ne_of_gt (Nat.zero_lt_of_lt hfuel))
    rw [List.map_cons, List.map_cons, List.intercalate_cons_cons, ← List.map_cons] at hfuel ⊢
    simp only [List.length_append, List.length_singleton] at hfuel
    have hrest := ih fuel next (fun i hi => h i (List.mem_cons_of_mem j hi)) (by omega)
    rw [List.append_assoc, List.append_assoc, readItems, h j List.mem_cons_self fuel _ (by omega)]
    simp only [List.singleton_append, skipSpace_cons (c := ',') rfl]
    rw [hrest]
    rfl

/-- The first member is read up to the comma or the brace after it. -/
theorem readMembers_succ {depth fuel : Nat} {m : String × Json} (h : ReadsAt depth m.2)
    (rest : List Char) (hfuel : (writtenMember m).length ≤ fuel) :
    readMembers (fuel + 1) depth (writtenMember m ++ rest) =
      match skipSpace rest with
      | '\x7d' :: rest => some ([m], rest)
      | ',' :: rest =>
        (readMembers fuel depth rest).map fun (members, rest) => (m :: members, rest)
      | _ => none := by
  obtain ⟨name, value⟩ := m
  have hvalue : ReadsAt depth value := h
  rw [writtenMember, toList_quoted] at hfuel
  simp only [List.length_append, List.length_cons, List.length_nil] at hfuel
  have htext : writtenMember (name, value) ++ rest =
      '"' :: (escaped name ++ '"' :: ':' :: (written value ++ rest)) := by
    simp [writtenMember, toList_quoted]
  have hname := readString_quoted name (fuel + 1) (':' :: (written value ++ rest)) (by omega)
  rw [htext, readMembers, skipSpace_cons (c := '"') rfl]
  simp only [hname, skipSpace_cons (c := ':') rfl]
  rewrite [hvalue fuel rest (by omega)]
  rfl

theorem readMembers_of_reads (fuel depth : Nat) (m : String × Json) (members : List (String × Json))
    (h : ∀ i ∈ m :: members, ReadsAt depth i.2) (rest : List Char)
    (hfuel : ([','].intercalate ((m :: members).map writtenMember)).length < fuel) :
    readMembers fuel depth ([','].intercalate ((m :: members).map writtenMember) ++ '\x7d' :: rest) =
      some (m :: members, rest) := by
  induction members generalizing fuel m with
  | nil =>
    obtain ⟨fuel, rfl⟩ := Nat.exists_eq_succ_of_ne_zero (Nat.ne_of_gt (Nat.zero_lt_of_lt hfuel))
    rw [List.map_singleton, List.intercalate_singleton] at hfuel ⊢
    rw [readMembers_succ (h m List.mem_cons_self) _ (by omega)]
    rfl
  | cons next members ih =>
    obtain ⟨fuel, rfl⟩ := Nat.exists_eq_succ_of_ne_zero (Nat.ne_of_gt (Nat.zero_lt_of_lt hfuel))
    rw [List.map_cons, List.map_cons, List.intercalate_cons_cons, ← List.map_cons] at hfuel ⊢
    simp only [List.length_append, List.length_singleton] at hfuel
    have hrest := ih fuel next (fun i hi => h i (List.mem_cons_of_mem m hi)) (by omega)
    rw [List.append_assoc, List.append_assoc, readMembers_succ (h m List.mem_cons_self) _ (by omega)]
    simp only [List.singleton_append, skipSpace_cons (c := ',') rfl]
    rw [hrest]
    rfl

/-- The induction is on the nesting: what is inside of the brackets is read at the depth below. -/
theorem IsText.readsAt {n depth : Nat} {j : Json} (h : IsText n j) (hdepth : n < depth) :
    ReadsAt depth j := by
  induction h generalizing depth with
  | string n s =>
    intro fuel rest hfuel
    rw [written_string, List.length_cons, List.length_append, List.length_singleton] at hfuel
    obtain ⟨fuel, rfl⟩ := Nat.exists_eq_succ_of_ne_zero (n := fuel) (by omega)
    rw [written_string, List.cons_append, List.append_assoc, List.singleton_append, readValue,
      skipSpace_cons (c := '"') rfl]
    simp only [readString_quoted s (fuel + 1) rest (by omega), Option.map_some]
  | @array n items hitems ih =>
    intro fuel rest hfuel
    rw [written_array, List.length_cons, List.length_append, List.length_singleton] at hfuel
    obtain ⟨fuel, rfl⟩ := Nat.exists_eq_succ_of_ne_zero (n := fuel) (by omega)
    rw [written_array, List.cons_append, List.append_assoc, List.singleton_append, readValue,
      skipSpace_cons (c := '[') rfl]
    simp only [if_neg (show ¬ depth ≤ 1 by omega)]
    cases items with
    | nil => rfl
    | cons first items =>
      have hread := readItems_of_reads fuel (depth - 1) first items (fun i hi => ih i hi (by omega)) rest
        (by omega)
      obtain ⟨c, tail, hhead, hc⟩ := (hitems first List.mem_cons_self).exists_head
      obtain ⟨others, hfirst⟩ := exists_intercalate_cons [','] (written first) (items.map written)
      rw [List.map_cons, hfirst, hhead] at hread ⊢
      -- The bracket does not close at once, since no value begins with a closing bracket.
      rcases hc with rfl | rfl | rfl
      all_goals exact congrArg (Option.map fun x => (Json.array x.1, x.2)) hread
  | @object n members hmembers ih =>
    intro fuel rest hfuel
    rw [written_object, List.length_cons, List.length_append, List.length_singleton] at hfuel
    obtain ⟨fuel, rfl⟩ := Nat.exists_eq_succ_of_ne_zero (n := fuel) (by omega)
    rw [written_object, List.cons_append, List.append_assoc, List.singleton_append, readValue,
      skipSpace_cons (c := '\x7b') rfl]
    simp only [if_neg (show ¬ depth ≤ 1 by omega)]
    cases members with
    | nil => rfl
    | cons first members =>
      have hread := readMembers_of_reads fuel (depth - 1) first members
        (fun i hi => ih i hi (by omega)) rest (by omega)
      obtain ⟨others, hfirst⟩ :=
        exists_intercalate_cons [','] (writtenMember first) (members.map writtenMember)
      rw [List.map_cons, hfirst, writtenMember, toList_quoted] at hread ⊢
      exact congrArg (Option.map fun x => (Json.object x.1, x.2)) hread

/-- The text of a value without numbers is read as the value, as long as its brackets are not nested too
deeply. -/
theorem parse?_compact {n : Nat} {j : Json} (h : IsText n j) (hdepth : n < maxDepth) :
    parse? (compact j) = some j := by
  have hfuel : (written j).length ≤ stepBound (written j) := by
    unfold stepBound
    omega
  have hread := h.readsAt hdepth _ [] hfuel
  rw [List.append_nil] at hread
  rw [parse?]
  show whole? (readValue (stepBound (written j)) maxDepth (written j)) = some j
  rw [hread]
  rfl

end MarketBars.Json
