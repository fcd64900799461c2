import Mathlib.Data.Set.Pairwise.Basic
import MarketBars.Proofs.Disclosure.SingleBar
import MarketBars.Proofs.Pipeline.Growth

/-!
# Collapsing the dates

A plan collapses its dates when its window is marked as one of a single bar. The mark is exact, and where
timestamps belong to different bars there is one of them at most inside a marked window. The answer then
has one date at most before its dates are collapsed, and every value of it is there afterwards.
-/

namespace MarketBars

namespace Cube

/-- A cube with one date, or with none, shows the same without its axis of dates. -/
theorem cell_squeeze_date {c : Cube} (h : c.dates.length ≤ 1) (flags : SqueezeFlags) (d t f : Nat) :
    (c.squeeze { flags with date := true }).cell d t f =
      (c.squeeze { flags with date := false }).cell 0 t f := by
  rw [cell_squeeze, cell_squeeze, if_pos rfl, if_neg Bool.false_ne_true, getLast]
  split
  · rename_i hempty
    have hnone : ∀ t f, c.get 0 t f = none := fun t f => get_eq_none fun hin => by omega
    exact (hnone _ _).symm
  · have hfirst : c.dates.length - 1 = 0 := by omega
    rw [hfirst]

end Cube

theorem length_le_one_of_pairwise_lt {instants : List Instant} (h : instants.Pairwise (· < ·))
    (hsame : ∀ a ∈ instants, ∀ b ∈ instants, a = b) : instants.length ≤ 1 := by
  match instants, h, hsame with
  | [], _, _ => exact Nat.zero_le 1
  | [_], _, _ => exact Nat.le_refl 1
  | a :: b :: rest, h, hsame =>
    have hlt : a < b := List.rel_of_pairwise_cons h List.mem_cons_self
    rw [hsame a List.mem_cons_self b (List.mem_cons_of_mem a List.mem_cons_self), Instant.lt_iff] at hlt
    omega

namespace Window

variable {clock : MarketClock} {start : Instant} {stop? : Option Instant} {f : Frequency}
  {lookAhead : Bool} {w : Window}

/-- The rows that are inside a window by their milliseconds are inside it by their instants. -/
theorem CountsExactly.contains (h : w.CountsExactly) {r : Row} (hr : r.isWithin w.start w.stop = true)
    {u : Instant} (hu : r.instant? = some u) : w.Contains u := by
  obtain ⟨ms, hms, hcounts⟩ := Table.isWithin_iff.mp hr
  rw [Row.instant?, hms, Option.bind_some] at hu
  have hmillis : u.millis = ms := Instant.millis_of_ofMillis? hu
  obtain ⟨v, hv, hcontains⟩ := (countsExactly_iff.mp h u).mp (hmillis.symm ▸ hcounts)
  rw [hmillis, hu] at hv
  cases hv
  exact hcontains

/-- Of timestamps of different bars, one at most is inside a window that is marked and not empty. -/
theorem subsingleton_of_spaced (h : ofRequest? clock start stop? f lookAhead = some w)
    (hsome : w.isEmpty = false) (hone : w.singleDate = true) {stamps : Set Instant}
    (hspaced : f.Spaced stamps) : {u ∈ stamps | w.Contains u}.Subsingleton := by
  have hspans := (singleDate_iff_of_nonempty h hsome).mp hone
  rintro a ⟨ha, hin⟩ b ⟨hb, hin'⟩
  exact hspaced.eq_of_spansOneBar hspans (nano_bounds h).1 ha hb hin hin'

end Window

/-- Of a window the source gives rows inside it only, and each has one of some timestamps. -/
def Fetcher.StampedIn {σ : Type} (fetch : Fetcher σ) (w : Window) (stamps : Set Instant) : Prop :=
  ∀ call s t, call.window = w → (fetch call s).result = .ok t → ∀ r ∈ t.rows,
    r.isWithin w.start w.stop = true ∧ ∀ u, r.instant? = some u → u ∈ stamps

namespace Fetcher.StampedIn

variable {σ : Type} {fetch : Fetcher σ} {w : Window} {stamps : Set Instant} {plan : Plan} {s : σ}

/-- The timestamps of the tables that are gathered are those of the source, inside the window. -/
theorem mem_of_gather (h : fetch.StampedIn w stamps) (hexact : w.CountsExactly) (hplan : plan.window = w)
    (hsome : w.isEmpty = false) {tables : List (Ticker × Table)}
    (hgather : (plan.gather fetch s).result = .ok tables) {read : List (List Instant)}
    (hread : Cube.stampsOf tables = .ok read) {u : Instant} (hu : u ∈ read.flatten) :
    u ∈ {u ∈ stamps | w.Contains u} := by
  rw [Plan.gather_eq_settled (hplan ▸ hsome)] at hgather
  rw [Plan.settled_eq_ok hgather] at hread
  obtain ⟨entry, hentry, row, hrow, hinstant⟩ := (Cube.mem_flatten_of_stampsOf hread u).mp hu
  obtain ⟨⟨ticker, reply⟩, hreply, hkept⟩ := List.mem_filterMap.mp hentry
  cases reply with
  | error e => cases hkept
  | ok table =>
    cases hkept
    obtain ⟨s', hfetch⟩ := Plan.exists_of_mem_replies hreply
    -- Only the columns of a table are chosen, so its timestamps stay.
    obtain ⟨ts, hts⟩ := Cube.exists_stamps_of_mem hread hentry
    have hmem := (Table.mem_stamps_iff hts).mpr ⟨row, hrow, hinstant⟩
    rw [Table.stamps_project] at hts
    obtain ⟨r, hr, hr'⟩ := (Table.mem_stamps_iff hts).mp hmem
    obtain ⟨hin, hstamp⟩ := h (plan.call ticker) s' table hplan hfetch r hr
    exact ⟨hstamp u hr', hexact.contains hin hr'⟩

/-- A fixed source cuts its rows to the window. -/
theorem of_fixed {source : Ticker → List String → Frequency → Except DataError Table}
    (h : fetch.Fixed source)
    (hsource : ∀ ticker fields f t, source ticker fields f = .ok t → ∀ r ∈ t.rows, ∀ u,
      r.instant? = some u → u ∈ stamps) (w : Window) : fetch.StampedIn w stamps := by
  rintro call s t rfl hfetch r hr
  rw [h.result_eq] at hfetch
  cases hreply : source call.ticker call.fields call.frequency with
  | error e =>
    rw [hreply] at hfetch
    cases hfetch
  | ok whole =>
    rw [hreply] at hfetch
    cases hfetch
    obtain ⟨hmem, hin⟩ := List.mem_filter.mp hr
    have hwhole : r ∈ whole.rows := (distinctAfter_sublist _ _ _).subset (List.mem_mergeSort.mp hmem)
    exact ⟨hin, hsource _ _ _ _ hreply r hwhole⟩

/-- An answer whose timestamps inside the window are one at most keeps all values when its dates are
collapsed. -/
theorem run_collapses (h : fetch.StampedIn w stamps) (hexact : w.CountsExactly) (hplan : plan.window = w)
    (hsome : w.isEmpty = false) (hone : {u ∈ stamps | w.Contains u}.Subsingleton)
    (hdate : plan.flags.date = true) {history : History} (hrun : (plan.run fetch s).result = .ok history) :
    ∃ wide dates, ((plan.shaped { plan.flags with date := false }).run fetch s).result = .ok wide ∧
      wide.dates? = some dates ∧ dates.length ≤ 1 ∧
      ∀ d t k, history.cell d t k = wide.cell 0 t k := by
  obtain ⟨tables, read, hgather, hread, rfl, hshaped⟩ := Plan.exists_panel hrun
  have hdates : (Cube.shownDates (Cube.sortedInstants read.flatten) (Cube.lookup tables) plan.tickers
      plan.fields).length ≤ 1 := by
    have hpairwise := (Cube.sortedInstants_pairwise read.flatten).filter (fun date =>
      plan.tickers.any fun ticker => plan.fields.any fun field =>
        (Cube.lookup tables date ticker field).isSome)
    refine length_le_one_of_pairwise_lt hpairwise fun a ha b hb => ?_
    have ha' := Cube.mem_sortedInstants.mp (List.mem_filter.mp ha).1
    have hb' := Cube.mem_sortedInstants.mp (List.mem_filter.mp hb).1
    exact hone (h.mem_of_gather hexact hplan hsome hgather hread ha')
      (h.mem_of_gather hexact hplan hsome hgather hread hb')
  refine ⟨_, _, hshaped { plan.flags with date := false }, Cube.dates?_squeeze _ _, hdates, ?_⟩
  intro d t k
  have hflags : plan.flags = { plan.flags with date := true } := by rw [← hdate]
  rw [hflags]
  exact Cube.cell_squeeze_date hdates plan.flags d t k

end Fetcher.StampedIn

/-- The mark of a window tells exactly whether there is room for one bar in it, or, when it is empty,
whether there was in what was asked for. A request that is for one bar when it looks ahead is for one bar
when it does not. On a marked window that is not empty, of timestamps of different bars there is one at
most, and an answer that is made of such timestamps has no values but those it shows without its dates. -/
theorem Window.singleDate_exact {clock : MarketClock} {start : Instant} {stop? : Option Instant}
    {f : Frequency} {lookAhead : Bool} {w : Window}
    (h : ofRequest? clock start stop? f lookAhead = some w) :
    (w.isEmpty = false → (w.singleDate = true ↔ f.SpansOneBar w.start w.stop)) ∧
    (w.isEmpty = true → ∃ requested,
      Disclosure.normalizeEnd? (stop?.getD clock.now) f = some requested ∧
      (w.singleDate = true ↔ f.SpansOneBar w.start requested)) ∧
    (∃ wide, ofRequest? clock start stop? f true = some wide ∧
      (wide.singleDate = true → w.singleDate = true)) ∧
    (w.isEmpty = false → w.singleDate = true → ∀ stamps : Set Instant, f.Spaced stamps →
      {u ∈ stamps | w.Contains u}.Subsingleton ∧
      ∀ (σ : Type) (fetch : Fetcher σ) (plan : Plan) (s : σ) (history : History),
        fetch.StampedIn w stamps → plan.window = w → plan.flags.date = true →
        (plan.run fetch s).result = .ok history →
        ∃ wide dates, ((plan.shaped { plan.flags with date := false }).run fetch s).result = .ok wide ∧
          wide.dates? = some dates ∧ dates.length ≤ 1 ∧
          ∀ d t k, history.cell d t k = wide.cell 0 t k) := by
  refine ⟨singleDate_iff_of_nonempty h, singleDate_iff_of_empty h, ?_, ?_⟩
  · obtain ⟨wide, hwide⟩ : ∃ wide, ofRequest? clock start stop? f true = some wide := by
      cases lookAhead with
      | true => exact ⟨w, h⟩
      | false =>
        obtain ⟨wide, -, hwide, -⟩ := exists_lookAhead h
        exact ⟨wide, hwide⟩
    exact ⟨wide, hwide, singleDate_of_lookAhead h hwide⟩
  · intro hsome hone stamps hspaced
    have hsingle := subsingleton_of_spaced h hsome hone hspaced
    obtain ⟨hstart, hstop⟩ := nano_bounds h
    refine ⟨hsingle, ?_⟩
    intro σ fetch plan s history hstamped hplan hdate hrun
    exact hstamped.run_collapses (countsExactly_of_nano hstart hstop) hplan hsome hsingle hdate hrun

/-- The timestamps of the two bars. -/
def Fetcher.Fixed.barDays : Set Instant := {.startOf .newYear, .startOf .afterNewYear}

/-- At noon of the second day the window of the two bars has room for the first of them, and the answer,
which is one number, is all there is to show. -/
theorem Window.singleDate_exact_twoBars :
    ofRequest? ⟨Fetcher.Fixed.onSecondDay 43200 (by decide), .usual⟩ (.startOf .newYear) none .daily
        false = some Fetcher.Fixed.atNoon ∧
      Frequency.SpansOneBar .daily Fetcher.Fixed.atNoon.start Fetcher.Fixed.atNoon.stop ∧
      {u ∈ Fetcher.Fixed.barDays | Fetcher.Fixed.atNoon.Contains u}.Subsingleton ∧
      ∃ history wide dates,
        ((Fetcher.Fixed.closesSince.plan [.stock "A"] true Fetcher.Fixed.atNoon .daily).run
          Fetcher.Fixed.twoBarsTables.fetcher []).result = .ok history ∧
        (((Fetcher.Fixed.closesSince.plan [.stock "A"] true Fetcher.Fixed.atNoon .daily).shaped
          ⟨false, true, true⟩).run Fetcher.Fixed.twoBarsTables.fetcher []).result = .ok wide ∧
        wide.dates? = some dates ∧ dates.length ≤ 1 ∧
        ∀ d t k, history.cell d t k = wide.cell 0 t k := by
  have hwindow : ofRequest? ⟨Fetcher.Fixed.onSecondDay 43200 (by decide), .usual⟩ (.startOf .newYear) none
      .daily false = some Fetcher.Fixed.atNoon := by decide
  have hspaced : Frequency.Spaced .daily Fetcher.Fixed.barDays := by
    have hday : Date.newYear ≠ Date.afterNewYear := by decide
    exact Set.pairwise_pair.mpr fun _ => ⟨hday, hday.symm⟩
  have hstamped : Fetcher.Fixed.twoBarsTables.fetcher.StampedIn Fetcher.Fixed.atNoon
      Fetcher.Fixed.barDays := by
    refine .of_fixed Fetcher.Fixed.fixed_twoBars ?_ _
    intro ticker fields f t ht r hr u hu
    have hentry := List.mem_singleton.mp (RecordedTables.mem_of_source ht)
    obtain rfl : t = Fetcher.Fixed.twoBars := Except.ok.inj (Prod.mk.inj hentry).2
    simp only [Fetcher.Fixed.twoBars, List.mem_cons, List.not_mem_nil, or_false] at hr
    have hread : ∀ (d : Date) cells, Row.instant? ⟨.moment (Instant.startOf d).millis, cells⟩ =
        some (.startOf d) := fun d _ => Instant.ofMillis?_startOf d
    rcases hr with rfl | rfl
    · exact Or.inl (Option.some.inj (hu.symm.trans (hread _ _)))
    · exact Or.inr (Option.some.inj (hu.symm.trans (hread _ _)))
  obtain ⟨tables, read, -, -, -, hshaped⟩ := Plan.exists_panel Fetcher.Fixed.run_atNoon
  obtain ⟨hmark, -, -, hlossless⟩ := singleDate_exact hwindow
  obtain ⟨hsingle, hruns⟩ := hlossless (by decide) rfl Fetcher.Fixed.barDays hspaced
  obtain ⟨wide, dates, hwide, hdates, hlength, hcells⟩ := hruns _ _
    (Fetcher.Fixed.closesSince.plan [.stock "A"] true Fetcher.Fixed.atNoon .daily) [] _ hstamped rfl rfl
    (hshaped ⟨true, true, true⟩)
  exact ⟨hwindow, (hmark (by decide)).mp rfl, hsingle, _, wide, dates, hshaped ⟨true, true, true⟩, hwide,
    hdates, hlength, hcells⟩

end MarketBars
