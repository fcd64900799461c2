import MarketBars.Json.Label
import MarketBars.Proofs.Json.ReadBack
import Mathlib.Data.List.Forall2

/-!
# Labels of a request survive JSON

A single label and a list of labels have no tag in their JSON form, and neither have the two kinds of field
tokens. What is read back is still what was written: no list of labels is taken for a label, and a column
name is taken for a price field only when it is the name of one, so that the column stays the same.
-/

namespace MarketBars

open Json (IsText)

namespace OneOrMany

variable {α β : Type} {form : α → Json} {item : Json → Option α}

/-- Equally many labels, given in the same way, that are related one by one. -/
inductive Each (r : α → β → Prop) : OneOrMany α → OneOrMany β → Prop
  | one {a : α} {b : β} (h : r a b) : Each r (.one a) (.one b)
  | many {as : List α} {bs : List β} (h : List.Forall₂ r as bs) : Each r (.many as) (.many bs)

theorem each_map {r : α → β → Prop} {f : α → β} (h : ∀ a, r a (f a)) (labels : OneOrMany α) :
    labels.Each r (labels.map f) := by
  cases labels with
  | one a => exact .one (h a)
  | many as => exact .many (List.forall₂_map_right_iff.mpr (List.forall₂_same.mpr fun a _ => h a))

/-- Labels are read back as other labels from their JSON form, and from the text of that form. -/
structure Survives (form : α → Json) (item : Json → Option α) (labels read : OneOrMany α) : Prop where
  of_json : ofJson? item (labels.toJson form) = some read
  of_text : (Json.parse? (labels.toJson form).compact).bind (ofJson? item) = some read

theorem ofJson?_toJson {kept : α → α} (hitem : ∀ a, item (form a) = some (kept a))
    (harray : ∀ as : List α, item (.array (as.map form)) = none) (labels : OneOrMany α) :
    ofJson? item (labels.toJson form) = some (labels.map kept) := by
  cases labels with
  | one a =>
    rw [toJson, ofJson?, hitem]
    rfl
  | many as =>
    have hitems : (as.map form).mapM item = some (as.map kept) := by
      induction as with
      | nil => rfl
      | cons a rest ih =>
        rw [List.map_cons, List.mapM_cons, hitem, ih]
        rfl
    rw [toJson, ofJson?, harray]
    show (do pure (many (← (as.map form).mapM item))) = _
    rw [hitems]
    rfl

theorem isText_toJson {n : Nat} (h : ∀ a, IsText n (form a)) (labels : OneOrMany α) :
    ∃ m ≤ n + 1, IsText m (labels.toJson form) := by
  cases labels with
  | one a => exact ⟨n, Nat.le_succ n, h a⟩
  | many as =>
    refine ⟨n + 1, Nat.le_refl _, .array fun j hj => ?_⟩
    obtain ⟨a, -, rfl⟩ := List.mem_map.mp hj
    exact h a

theorem survives (kept : α → α) (hitem : ∀ a, item (form a) = some (kept a))
    (harray : ∀ as : List α, item (.array (as.map form)) = none) (htext : ∀ a, IsText 1 (form a))
    (labels : OneOrMany α) : labels.Survives form item (labels.map kept) := by
  obtain ⟨m, hm, hlabels⟩ := isText_toJson htext labels
  have hdepth : m < Json.maxDepth := Nat.lt_of_le_of_lt hm (by decide)
  refine ⟨ofJson?_toJson hitem harray labels, ?_⟩
  rw [Json.parse?_compact hlabels hdepth, Option.bind_some]
  exact ofJson?_toJson hitem harray labels

end OneOrMany

namespace Ticker

theorem ofJson?_toJson (t : Ticker) : ofJson? t.toJson = some t := by
  obtain ⟨symbol, kind⟩ := t
  cases kind <;> rfl

/-- A list of tickers is not a ticker: a list is read as one only when it begins with a symbol. -/
theorem ofJson?_array (tickers : List Ticker) : ofJson? (.array (tickers.map toJson)) = none := by
  match tickers with
  | [] | [_] | [_, _] | _ :: _ :: _ :: _ => rfl

theorem isText_toJson (t : Ticker) : IsText 1 t.toJson := by
  refine .object fun m hm => ?_
  obtain rfl | rfl := List.mem_pair.mp hm
  · exact .string 0 _
  · exact .string 0 _

end Ticker

namespace FieldToken

/-- The token that a token is read back as: a column that is spelled like a price field becomes that price
field, and any other token stays as it is. -/
inductive ReadAs : FieldToken → FieldToken → Prop
  | canonical (f : PriceField) : ReadAs (.canonical f) (.canonical f)
  | spelled (f : PriceField) : ReadAs (.native f.name) (.canonical f)
  | native (s : String) (h : ∀ f : PriceField, f.name ≠ s) : ReadAs (.native s) (.native s)

/-- The token that a column name is read as. -/
def ofColumn (s : String) : FieldToken :=
  ((PriceField.ofName? s).map canonical).getD (.native s)

theorem ofJson?_string (s : String) : ofJson? (.string s) = some (ofColumn s) := by
  have hfield : PriceField.ofJson? (.string s) = PriceField.ofName? s := rfl
  rw [ofJson?, hfield, ofColumn]
  cases PriceField.ofName? s <;> rfl

theorem toJson_eq (token : FieldToken) : token.toJson = .string token.column := by
  cases token <;> rfl

theorem ofJson?_toJson (token : FieldToken) : ofJson? token.toJson = some (ofColumn token.column) := by
  rw [toJson_eq, ofJson?_string]

theorem ofJson?_array (tokens : List FieldToken) : ofJson? (.array (tokens.map toJson)) = none := rfl

theorem readAs_ofColumn (token : FieldToken) : token.ReadAs (ofColumn token.column) := by
  cases token with
  | canonical f =>
    rw [ofColumn, column, PriceField.ofName?_name]
    exact .canonical f
  | native s =>
    rw [ofColumn, column]
    cases hname : PriceField.ofName? s with
    | none =>
      refine .native s fun f hf => ?_
      rw [← hf, PriceField.ofName?_name] at hname
      cases hname
    | some f =>
      rw [← PriceField.name_of_ofName? hname]
      exact .spelled f

theorem ReadAs.column_eq {token read : FieldToken} (h : token.ReadAs read) :
    read.column = token.column := by
  cases h <;> rfl

end FieldToken

namespace OneOrMany

theorem Each.isSingle_eq {α β : Type} {r : α → β → Prop} {a : OneOrMany α} {b : OneOrMany β}
    (h : a.Each r b) : b.isSingle = a.isSingle := by
  cases h <;> rfl

theorem Each.map_column {fields read : OneOrMany FieldToken} (h : fields.Each FieldToken.ReadAs read) :
    read.toList.map FieldToken.column = fields.toList.map FieldToken.column := by
  cases h with
  | one h => exact congrArg (fun column => [column]) h.column_eq
  | many h =>
    induction h with
    | nil => rfl
    | cons hfirst _ ih => exact congrArg₂ List.cons hfirst.column_eq ih

/-- The labels of a request are read back, and so is whether a single one was given. Tickers stay as they
are, and every field selects the column that it selected before. -/
theorem labels_survive :
    (∀ tickers : OneOrMany Ticker, tickers.Survives Ticker.toJson Ticker.ofJson? tickers) ∧
    ∀ fields : OneOrMany FieldToken, ∃ read,
      fields.Survives FieldToken.toJson FieldToken.ofJson? read ∧
      fields.Each FieldToken.ReadAs read ∧ read.isSingle = fields.isSingle ∧
      ∀ request : HistoryRequest,
        { request with fields := read }.columns = { request with fields := fields }.columns := by
  constructor
  · intro tickers
    have hkept : tickers.map id = tickers := by cases tickers <;> simp [map]
    have h := survives id Ticker.ofJson?_toJson Ticker.ofJson?_array Ticker.isText_toJson tickers
    rwa [hkept] at h
  · intro fields
    have heach := each_map FieldToken.readAs_ofColumn fields
    refine ⟨_, survives _ FieldToken.ofJson?_toJson FieldToken.ofJson?_array (fun token => ?_) fields,
      heach, heach.isSingle_eq, fun _ => heach.map_column⟩
    rw [FieldToken.toJson_eq]
    exact .string 1 _

end OneOrMany

end MarketBars
