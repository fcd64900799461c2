import MarketBars.Proofs.Panel.Assembly

/-!
# What a history shows

A history is read position by position, whichever of its axes are left: a collapsed axis has one value
for all positions. What a history shows is thereby said once for its eight shapes.
-/

namespace MarketBars

namespace Series

variable {L : Type}

theorem get_tabulate_of_none {index : List L} {f : Nat → Value}
    (h : ∀ i, ¬ i < index.length → f i = none) (i : Nat) : (tabulate index f).get i = f i := by
  rw [get_tabulate_eq]
  split
  · rfl
  · rename_i hi
    exact (h i hi).symm

end Series

namespace Frame

variable {R C : Type}

theorem get_tabulate_of_none {index : List R} {columns : List C} {f : Nat → Nat → Value}
    (h : ∀ r c, ¬ (r < index.length ∧ c < columns.length) → f r c = none) (r c : Nat) :
    (tabulate index columns f).get r c = f r c := by
  rw [get_tabulate_eq]
  split
  · rfl
  · rename_i hrc
    exact (h r c hrc).symm

end Frame

namespace History

/-- The dates of a history, if it has an axis of dates. -/
def dates? : History → Option (List Instant)
  | byDate s => some s.index
  | dateTicker t => some t.index
  | dateField t => some t.index
  | cube c => some c.dates
  | _ => none

def tickers? : History → Option (List Ticker)
  | byTicker s => some s.index
  | dateTicker t => some t.columns
  | tickerField t => some t.index
  | cube c => some c.tickers
  | _ => none

def fields? : History → Option (List String)
  | byField s => some s.index
  | dateField t => some t.columns
  | tickerField t => some t.columns
  | cube c => some c.fields
  | _ => none

/-- The value at the positions of a date, a ticker and a field. The position on an axis that is not
there is disregarded. -/
def cell : History → Nat → Nat → Nat → Value
  | scalar v, _, _, _ => v
  | byDate s, d, _, _ => s.get d
  | byTicker s, _, t, _ => s.get t
  | byField s, _, _, f => s.get f
  | dateTicker m, d, t, _ => m.get d t
  | dateField m, d, _, f => m.get d f
  | tickerField m, _, t, f => m.get t f
  | cube c, d, t, f => c.get d t f

/-- A history shows values by label: the axes without a flag carry the labels, in order and with
repetitions, and every cell holds the value of its labels. A flagged axis of dates stands for its last
date, a flagged axis of tickers or fields for its first label; without such a label there is no value. -/
structure Shows (h : History) (flags : SqueezeFlags) (dates : List Instant) (tickers : List Ticker)
    (fields : List String) (value : Instant → Ticker → String → Value) : Prop where
  rank_eq : h.rank = 3 - (flags.date.toNat + flags.ticker.toNat + flags.field.toNat)
  dates_eq : h.dates? = if flags.date then none else some dates
  tickers_eq : h.tickers? = if flags.ticker then none else some tickers
  fields_eq : h.fields? = if flags.field then none else some fields
  cell_eq : ∀ d t f : Nat, h.cell d t f =
    (if flags.date then dates.getLast? else dates[d]?).bind fun date =>
      (if flags.ticker then tickers.head? else tickers[t]?).bind fun ticker =>
        (if flags.field then fields.head? else fields[f]?).bind fun field =>
          value date ticker field

/-- The label that a position stands for is one of the axis, whether the axis is collapsed or not. -/
theorem mem_of_label {L : Type} {flag : Bool} {labels : List L} {i : Nat} {label : L}
    (h : (if flag then labels.head? else labels[i]?) = some label) : label ∈ labels := by
  split at h
  · exact List.mem_of_head? h
  · exact List.mem_of_getElem? h

/-- A ticker of which nothing is said has no values, as long as the tickers are not collapsed. -/
theorem Shows.cell_eq_none {h : History} {flags : SqueezeFlags} {dates : List Instant}
    {tickers : List Ticker} {fields : List String} {value : Instant → Ticker → String → Value}
    (hshows : h.Shows flags dates tickers fields value) (hflag : flags.ticker = false) {ticker : Ticker}
    (hvalue : ∀ date, ∀ field ∈ fields, value date ticker field = none) {t : Nat}
    (ht : tickers[t]? = some ticker) (d f : Nat) : h.cell d t f = none := by
  rw [hshows.cell_eq, hflag]
  simp only [Bool.false_eq_true, if_false, ht, Option.bind_some]
  rw [Option.bind_eq_none_iff]
  intro date _
  rw [Option.bind_eq_none_iff]
  exact fun field hfield => hvalue date field (mem_of_label hfield)

/-- Only the values of the labels count. -/
theorem Shows.congr {h : History} {flags : SqueezeFlags} {dates : List Instant}
    {tickers : List Ticker} {fields : List String} {value value' : Instant → Ticker → String → Value}
    (hshows : h.Shows flags dates tickers fields value)
    (hvalue : ∀ date, ∀ ticker ∈ tickers, ∀ field ∈ fields,
      value date ticker field = value' date ticker field) :
    h.Shows flags dates tickers fields value' := by
  refine ⟨hshows.rank_eq, hshows.dates_eq, hshows.tickers_eq, hshows.fields_eq, fun d t f => ?_⟩
  rw [hshows.cell_eq]
  refine congrArg (Option.bind _) (funext fun date => ?_)
  refine Option.bind_congr fun ticker hticker => Option.bind_congr fun field hfield => ?_
  exact hvalue date ticker (mem_of_label hticker) field (mem_of_label hfield)

end History

namespace Cube

theorem getLast_eq_none {c : Cube} {t f : Nat}
    (h : ¬ (t < c.tickers.length ∧ f < c.fields.length)) : c.getLast t f = none := by
  unfold getLast
  split
  · rfl
  · exact get_eq_none fun hin => h hin.2

/-- A collapsed cube is read at its last date and at its first ticker and field. -/
theorem cell_squeeze (c : Cube) (flags : SqueezeFlags) (d t f : Nat) :
    (c.squeeze flags).cell d t f =
      if flags.date then c.getLast (if flags.ticker then 0 else t) (if flags.field then 0 else f)
      else c.get d (if flags.ticker then 0 else t) (if flags.field then 0 else f) := by
  obtain ⟨date, ticker, field⟩ := flags
  cases date <;> cases ticker <;> cases field
  · rfl
  · exact Frame.get_tabulate_of_none (fun _ _ h => get_eq_none fun hin => h ⟨hin.1, hin.2.1⟩) d t
  · exact Frame.get_tabulate_of_none (fun _ _ h => get_eq_none fun hin => h ⟨hin.1, hin.2.2⟩) d f
  · exact Series.get_tabulate_of_none (fun _ h => get_eq_none fun hin => h hin.1) d
  · exact Frame.get_tabulate_of_none (fun _ _ h => getLast_eq_none h) t f
  · exact Series.get_tabulate_of_none (fun _ h => getLast_eq_none fun hin => h hin.1) t
  · exact Series.get_tabulate_of_none (fun _ h => getLast_eq_none fun hin => h hin.2) f
  · rfl

theorem dates?_squeeze (c : Cube) (flags : SqueezeFlags) :
    (c.squeeze flags).dates? = if flags.date then none else some c.dates := by
  obtain ⟨date, ticker, field⟩ := flags
  cases date <;> cases ticker <;> cases field <;> rfl

theorem tickers?_squeeze (c : Cube) (flags : SqueezeFlags) :
    (c.squeeze flags).tickers? = if flags.ticker then none else some c.tickers := by
  obtain ⟨date, ticker, field⟩ := flags
  cases date <;> cases ticker <;> cases field <;> rfl

theorem fields?_squeeze (c : Cube) (flags : SqueezeFlags) :
    (c.squeeze flags).fields? = if flags.field then none else some c.fields := by
  obtain ⟨date, ticker, field⟩ := flags
  cases date <;> cases ticker <;> cases field <;> rfl

section Labelled

variable {ι κ : Type} {dates : List Instant} {xs : List ι} {tickers : List Ticker} {zs : List κ}
  {fields : List String}

/-- The last date of a labelled cube is that of its last label. -/
theorem getLast_labelled (hdates : dates.length = xs.length) (hfields : fields.length = zs.length)
    (value : ι → Ticker → κ → Value) (t f : Nat) :
    (labelled dates tickers fields xs tickers zs value).getLast t f =
      xs.getLast?.bind fun x => tickers[t]?.bind fun ticker => zs[f]?.bind fun z =>
        value x ticker z := by
  have hlength : (labelled dates tickers fields xs tickers zs value).dates.length = xs.length := hdates
  rw [getLast, hlength, List.getLast?_eq_getElem?]
  split
  · rename_i hempty
    rw [List.length_eq_zero_iff.mp hempty]
    rfl
  · exact get_labelled hdates rfl hfields value _ t f

/-- A collapsed axis is read at its last date, or at its first label. -/
theorem cell_squeeze_labelled (hdates : dates.length = xs.length) (hfields : fields.length = zs.length)
    (value : ι → Ticker → κ → Value) (flags : SqueezeFlags) (d t f : Nat) :
    ((labelled dates tickers fields xs tickers zs value).squeeze flags).cell d t f =
      (if flags.date then xs.getLast? else xs[d]?).bind fun x =>
        (if flags.ticker then tickers.head? else tickers[t]?).bind fun ticker =>
          (if flags.field then zs.head? else zs[f]?).bind fun z => value x ticker z := by
  rw [cell_squeeze, getLast_labelled hdates hfields, get_labelled hdates rfl hfields,
    List.head?_eq_getElem?, List.head?_eq_getElem?]
  cases flags.date <;> cases flags.ticker <;> cases flags.field <;> rfl

end Labelled

theorem get_panel {κ : Type} (dates : List Instant) (value : Instant → Ticker → κ → Value)
    (tickers : List Ticker) {labels : List κ} {names : List String}
    (hnames : names.length = labels.length) (d t f : Nat) :
    (panel dates value tickers labels names).get d t f =
      (shownDates dates value tickers labels)[d]?.bind fun date =>
        tickers[t]?.bind fun ticker => labels[f]?.bind fun label => value date ticker label :=
  get_labelled rfl rfl hnames value d t f

/-- The last date of a panel is the last one that is shown. -/
theorem getLast_panel {κ : Type} (dates : List Instant) (value : Instant → Ticker → κ → Value)
    (tickers : List Ticker) {labels : List κ} {names : List String}
    (hnames : names.length = labels.length) (t f : Nat) :
    (panel dates value tickers labels names).getLast t f =
      (shownDates dates value tickers labels).getLast?.bind fun date =>
        tickers[t]?.bind fun ticker => labels[f]?.bind fun label => value date ticker label :=
  getLast_labelled rfl hnames value t f

/-- A collapsed panel shows its values, on the dates that are shown. -/
theorem shows_panel (dates : List Instant) (value : Instant → Ticker → String → Value)
    (tickers : List Ticker) (fields : List String) (flags : SqueezeFlags) :
    ((panel dates value tickers fields fields).squeeze flags).Shows flags
      (shownDates dates value tickers fields) tickers fields value where
  rank_eq := rank_squeeze _ flags
  dates_eq := dates?_squeeze _ flags
  tickers_eq := tickers?_squeeze _ flags
  fields_eq := fields?_squeeze _ flags
  cell_eq := cell_squeeze_labelled rfl rfl value flags

end Cube

end MarketBars
