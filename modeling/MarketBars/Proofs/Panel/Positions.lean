import MarketBars.Proofs.Panel.RowMajor
import MarketBars.Proofs.Panel.Shown

namespace MarketBars

namespace History

/-- A history shows a cube at some positions of dates: the axes without a flag carry the dates at these
positions and the requested labels, in order and with repetitions, and every cell holds the value of its
position and labels. A flagged axis of dates stands for the last of the positions, a flagged axis of tickers
or fields for its first label; where there is none, there is no value. -/
structure ShowsAt (h : History) (flags : SqueezeFlags) (c : Cube) (positions : List Nat)
    (tickers : List Ticker) (fields : List String) : Prop where
  rank_eq : h.rank = 3 - (flags.date.toNat + flags.ticker.toNat + flags.field.toNat)
  dates_eq : h.dates?.map (List.map some) =
    if flags.date then none else some (positions.map fun d => c.dates[d]?)
  tickers_eq : h.tickers? = if flags.ticker then none else some tickers
  fields_eq : h.fields? = if flags.field then none else some fields
  cell_eq : ∀ d t f : Nat, h.cell d t f =
    (if flags.date then positions.getLast? else positions[d]?).bind fun source =>
      (if flags.ticker then tickers.head? else tickers[t]?).bind fun ticker =>
        (if flags.field then fields.head? else fields[f]?).bind fun field =>
          c.valueOf source ticker field

end History

namespace Cube

variable {c : Cube} {tickers : List Ticker} {fields : List String}

theorem shownPositions_ascending (c : Cube) (tickers : List Ticker) (fields : List String) :
    (c.shownPositions tickers fields).Pairwise (· < ·) :=
  List.pairwise_lt_range.filter _

theorem mem_shownPositions {d : Nat} :
    d ∈ c.shownPositions tickers fields ↔
      d < c.dates.length ∧ ∃ ticker ∈ tickers, ∃ field ∈ fields, c.valueOf d ticker field ≠ none := by
  simp only [shownPositions, List.mem_filter, List.mem_range, showsOn, List.any_eq_true,
    Option.isSome_iff_ne_none]

theorem map_shownPositions_eq (c : Cube) (tickers : List Ticker) (fields : List String) :
    (c.shownPositions tickers fields).map (fun d => c.dates[d]?) =
      ((c.shownPositions tickers fields).filterMap fun d => c.dates[d]?).map some :=
  map_eq_map_some_filterMap fun _ hd =>
    ⟨_, List.getElem?_eq_getElem (mem_shownPositions.mp hd).1⟩

/-- The layout of a cube never fails, whatever its labels are and whichever axes are collapsed. -/
theorem normalize_shows_positions (c : Cube) (tickers : List Ticker) (fields : List String)
    (flags : SqueezeFlags) :
    c.normalize? tickers fields flags = some (c.normalize tickers fields flags) ∧
    ∃ positions : List Nat, positions.Pairwise (· < ·) ∧
      (∀ d, d ∈ positions ↔ d < c.dates.length ∧
        ∃ ticker ∈ tickers, ∃ field ∈ fields, c.valueOf d ticker field ≠ none) ∧
      (c.normalize tickers fields flags).ShowsAt flags c positions tickers fields := by
  refine ⟨c.normalize?_eq tickers fields flags, c.shownPositions tickers fields,
    c.shownPositions_ascending tickers fields, fun d => mem_shownPositions, ?_⟩
  have hdates := c.map_shownPositions_eq tickers fields
  have hlength : ((c.shownPositions tickers fields).filterMap fun d => c.dates[d]?).length =
      (c.shownPositions tickers fields).length := by
    simpa using (congrArg List.length hdates).symm
  rw [normalize_eq]
  refine ⟨rank_squeeze _ flags, ?_, tickers?_squeeze _ flags, fields?_squeeze _ flags,
    cell_squeeze_labelled hlength rfl c.valueOf flags⟩
  rw [dates?_squeeze, hdates]
  cases flags.date <;> rfl

end Cube

end MarketBars
