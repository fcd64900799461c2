import MarketBars.Provider
import MarketBars.Proofs.Pipeline.Gathering
import MarketBars.Proofs.Table.Reading

/-!
# Answers, value by value

An answer passes through five stages: one table is fetched for each distinct ticker, cut to the
requested fields, assembled over common dates, laid out to the requested labels, and collapsed. In the
end every cell holds what was reported for its labels, and the dates are those with such a report.

A ticker that the source had nothing for is left out of the gathered tables, and a ticker whose table
lacks a column stays in. The two differ for the stages in between, but not for the answer: both say
nothing.
-/

namespace MarketBars

namespace Cube

theorem exists_stamps_of_mem {tables : List (Ticker × Table)} {stamps : List (List Instant)}
    (h : stampsOf tables = .ok stamps) {entry : Ticker × Table} (hentry : entry ∈ tables) :
    ∃ ts, entry.2.stamps = .ok ts := by
  rw [stampsOf_eq_mapM, mapM_eq_ok_iff] at h
  have hmem : entry.2.stamps ∈ stamps.map Except.ok := by
    rw [← h]
    exact List.mem_map_of_mem hentry
  obtain ⟨ts, -, hts⟩ := List.mem_map.mp hmem
  exact ⟨ts, hts.symm⟩

end Cube

namespace Plan

variable {σ : Type}

/-- The reply for a ticker. Tickers with one symbol share a reply. -/
def replyFor (replies : List (Ticker × Except DataError Table)) (ticker : Ticker) :
    Option (Ticker × Except DataError Table) :=
  replies.find? fun reply => reply.1.same ticker

/-- The value of a date, a ticker and a field, straight from what the source replies. An error says
nothing. -/
def reported (fetch : Fetcher σ) (plan : Plan) (s : σ) (date : Instant) (ticker : Ticker)
    (field : String) : Value :=
  (replyFor (plan.replies fetch (distinctTickers plan.tickers) s) ticker).bind fun reply =>
    match reply.2 with
    | .ok table => table.read date field
    | .error _ => none

theorem nodup_symbols_replies (fetch : Fetcher σ) (plan : Plan) (s : σ) :
    ((plan.replies fetch (distinctTickers plan.tickers) s).map fun reply => reply.1.symbol).Nodup := by
  have hsymbols := nodup_map_distinctBy Ticker.symbol plan.tickers
  rw [← distinctTickers, ← map_fst_replies fetch plan (distinctTickers plan.tickers) s,
    List.map_map] at hsymbols
  exact hsymbols

/-- The gathered tables say of a requested field what the replies say. A reply that is an error has no
table, and as symbols are distinct, no other table takes its place. -/
theorem lookup_filterMap_kept (plan : Plan) {replies : List (Ticker × Except DataError Table)}
    (hsymbols : (replies.map fun reply => reply.1.symbol).Nodup) {field : String}
    (hfield : field ∈ plan.fields) (date : Instant) (ticker : Ticker) :
    Cube.lookup (replies.filterMap plan.kept) date ticker field =
      (replyFor replies ticker).bind fun reply =>
        match reply.2 with
        | .ok table => Cube.valueAt table date field
        | .error _ => none := by
  induction replies with
  | nil => rfl
  | cons reply rest ih =>
    obtain ⟨t, result⟩ := reply
    rw [List.map_cons, List.nodup_cons] at hsymbols
    obtain ⟨hnew, hrest⟩ := hsymbols
    by_cases hsame : t.same ticker = true
    · have hfirst : replyFor ((t, result) :: rest) ticker = some (t, result) :=
        List.find?_cons_of_pos hsame
      rw [hfirst]
      cases result with
      | ok table => simp [Cube.lookup, kept, hsame, Table.valueAt_project table hfield]
      | error e =>
        have hnone : (rest.filterMap plan.kept).find? (fun entry => entry.1.same ticker) = none := by
          rw [List.find?_eq_none]
          intro entry hentry hsame'
          obtain ⟨other, hother, hkept⟩ := List.mem_filterMap.mp hentry
          have hticker : other.1 = entry.1 := by
            obtain ⟨u, _ | table⟩ := other
            · cases hkept
            · cases hkept
              rfl
          have hsymbol : other.1.symbol = t.symbol := by
            rw [hticker]
            exact (eq_of_beq hsame').trans (eq_of_beq hsame).symm
          exact hnew (hsymbol ▸ List.mem_map_of_mem hother)
        rw [List.filterMap_cons_none rfl, Cube.lookup, hnone]
        rfl
    · have hskip : replyFor ((t, result) :: rest) ticker = replyFor rest ticker :=
        List.find?_cons_of_neg hsame
      rw [hskip, ← ih hrest]
      cases result with
      | ok table => simp [Cube.lookup, kept, hsame]
      | error e => rfl

/-- Where timestamps are distinct, the gathered tables say what the table of the ticker reads. -/
theorem lookup_eq_reported {fetch : Fetcher σ} {plan : Plan} {s : σ} {stamps : List (List Instant)}
    (hdistinct : ∀ call s' table, (fetch call s').result = .ok table → table.HasDistinctStamps)
    (hstamps : Cube.stampsOf ((plan.replies fetch (distinctTickers plan.tickers) s).filterMap
      plan.kept) = .ok stamps)
    {field : String} (hfield : field ∈ plan.fields) (hname : field ≠ Table.stampName)
    (date : Instant) (ticker : Ticker) :
    Cube.lookup ((plan.replies fetch (distinctTickers plan.tickers) s).filterMap plan.kept) date
      ticker field = plan.reported fetch s date ticker field := by
  rw [lookup_filterMap_kept plan (nodup_symbols_replies fetch plan s) hfield, reported]
  cases hreply : replyFor (plan.replies fetch (distinctTickers plan.tickers) s) ticker with
  | none => rfl
  | some reply =>
    obtain ⟨t, result⟩ := reply
    have hmem := List.mem_of_find?_eq_some hreply
    obtain ⟨s', hresult⟩ := exists_of_mem_replies hmem
    cases result with
    | error e => rfl
    | ok table =>
      have hkept : (t, table.project plan.fields) ∈
          (plan.replies fetch (distinctTickers plan.tickers) s).filterMap plan.kept :=
        List.mem_filterMap.mpr ⟨_, hmem, rfl⟩
      obtain ⟨ts, hts⟩ := Cube.exists_stamps_of_mem hstamps hkept
      exact Table.valueAt_eq_read ((Table.stamps_project table plan.fields).symm.trans hts)
        (hdistinct _ s' table hresult) hname date

theorem mem_flatten_of_lookup {tables : List (Ticker × Table)} {stamps : List (List Instant)}
    (hstamps : Cube.stampsOf tables = .ok stamps) {date : Instant} {ticker : Ticker} {field : String}
    (h : Cube.lookup tables date ticker field ≠ none) : date ∈ stamps.flatten := by
  rw [Cube.mem_flatten_of_stampsOf hstamps]
  obtain ⟨v, hv⟩ := Option.ne_none_iff_exists'.mp h
  obtain ⟨entry, hentry, hvalue⟩ := Option.bind_eq_some_iff.mp hv
  rw [Cube.valueAt] at hvalue
  split at hvalue
  · obtain ⟨r, hr, -⟩ := Option.bind_eq_some_iff.mp hvalue
    have hrow := List.mem_of_find?_eq_some hr
    refine ⟨entry, List.mem_of_find?_eq_some hentry, r, List.mem_reverse.mp hrow, ?_⟩
    simpa using List.find?_some hr
  · cases hvalue

/-- An answer shows what the replies say of the requested labels, on the dates on which they say
something. -/
theorem run_shows {fetch : Fetcher σ} {plan : Plan} {s : σ} {history : History}
    (hwindow : plan.window.isEmpty = false) (hfields : Table.stampName ∉ plan.fields)
    (hdistinct : ∀ call s' table, (fetch call s').result = .ok table → table.HasDistinctStamps)
    (h : (plan.run fetch s).result = .ok history) :
    ∃ dates : List Instant, dates.Pairwise (· < ·) ∧
      (∀ date, date ∈ dates ↔ ∃ ticker ∈ plan.tickers, ∃ field ∈ plan.fields,
        plan.reported fetch s date ticker field ≠ none) ∧
      history.Shows plan.flags dates plan.tickers plan.fields (plan.reported fetch s) := by
  obtain ⟨tables, stamps, hgather, hstamps, rfl⟩ := run_eq_ok h
  obtain rfl := settled_eq_ok ((gather_eq_settled hwindow).symm.trans hgather)
  have hreported : ∀ date ticker, ∀ field ∈ plan.fields,
      Cube.lookup ((plan.replies fetch (distinctTickers plan.tickers) s).filterMap plan.kept) date
        ticker field = plan.reported fetch s date ticker field :=
    fun date ticker field hfield =>
      lookup_eq_reported hdistinct hstamps hfield (fun heq => hfields (heq ▸ hfield)) date ticker
  have hshows := Cube.shows_panel (Cube.sortedInstants stamps.flatten)
    (Cube.lookup ((plan.replies fetch (distinctTickers plan.tickers) s).filterMap plan.kept))
    plan.tickers plan.fields plan.flags
  refine ⟨_, (Cube.sortedInstants_pairwise _).filter _, ?_, hshows.rank_eq, hshows.dates_eq,
    hshows.tickers_eq, hshows.fields_eq, ?_⟩
  · intro date
    simp only [List.mem_filter, List.any_eq_true, Cube.mem_sortedInstants]
    constructor
    · rintro ⟨-, ticker, hticker, field, hfield, hv⟩
      rw [hreported date ticker field hfield] at hv
      exact ⟨ticker, hticker, field, hfield, Option.isSome_iff_ne_none.mp hv⟩
    · rintro ⟨ticker, hticker, field, hfield, hv⟩
      rw [← hreported date ticker field hfield] at hv
      exact ⟨mem_flatten_of_lookup hstamps hv, ticker, hticker, field, hfield,
        Option.isSome_iff_ne_none.mpr hv⟩
  · intro d t f
    rw [hshows.cell_eq]
    refine congrArg (Option.bind _) (funext fun date => congrArg (Option.bind _) (funext fun ticker => ?_))
    have hlabel : ∀ field, (if plan.flags.field then plan.fields.head? else plan.fields[f]?) =
        some field → field ∈ plan.fields := by
      intro field hfield
      split at hfield
      · exact List.mem_of_head? hfield
      · exact List.mem_of_getElem? hfield
    cases hfield : (if plan.flags.field then plan.fields.head? else plan.fields[f]?) with
    | none => rfl
    | some field => exact hreported date ticker field (hlabel field hfield)

/-- Two days of closing prices, of which the second is missing. -/
def twoDays : Table where
  names := ["close"]
  rows := [⟨.moment 0, [.number (.ofInt 1)]⟩, ⟨.moment 86400000, [.absent]⟩]
  names_nodup := by decide
  stampName_not_mem := by decide
  aligned := by decide

/-- The first of the two days. -/
def dayOne : Instant := .startOf ⟨0, by decide, by decide⟩

/-- The second of the two days. -/
def dayTwo : Instant := .startOf ⟨1, by decide, by decide⟩

/-- A source that knows one symbol. -/
def twoDaysFetch : Fetcher Unit := fun call s =>
  ⟨if call.ticker.symbol = "A" then .ok twoDays
    else .error (.sourceUnavailable call.ticker.symbol "unknown symbol"), [], s⟩

/-- A plan that names the known symbol twice, an unknown one, and an unknown field. -/
def twoDaysPlan : Plan where
  tickers := [.stock "A", .stock "B", .stock "A"]
  fields := ["close", "open"]
  window := ⟨dayOne, dayTwo, false⟩
  frequency := .daily
  flags := ⟨false, true, false⟩

/-- Of the two days, the answer has the one with a price. -/
theorem run_shows_twoDays :
    ∃ history dates, (twoDaysPlan.run twoDaysFetch ()).result = .ok history ∧ dayOne ∈ dates ∧
      dayTwo ∉ dates ∧ history.Shows ⟨false, true, false⟩ dates
        [.stock "A", .stock "B", .stock "A"] ["close", "open"]
        (twoDaysPlan.reported twoDaysFetch ()) := by
  have hstamps : twoDays.stamps = .ok [dayOne, dayTwo] := rfl
  have hdistinct : ∀ call s table, (twoDaysFetch call s).result = .ok table →
      table.HasDistinctStamps := by
    intro call s table h
    simp only [twoDaysFetch] at h
    split at h
    · cases h
      intro ts hts
      cases hstamps.symm.trans hts
      decide
    · cases h
  have hrun : ∃ history, (twoDaysPlan.run twoDaysFetch ()).result = .ok history := by
    have hgather : (twoDaysPlan.gather twoDaysFetch ()).result =
        .ok [(.stock "A", twoDays.project ["close", "open"])] := rfl
    have hread : Cube.stampsOf [(.stock "A", twoDays.project ["close", "open"])] =
        .ok [[dayOne, dayTwo]] := rfl
    simp only [run, hgather, answer_eq, hread]
    exact ⟨_, rfl⟩
  obtain ⟨history, h⟩ := hrun
  obtain ⟨dates, -, hdates, hshows⟩ := run_shows (by decide) (by decide) hdistinct h
  refine ⟨history, dates, h, ?_, ?_, hshows⟩
  · exact (hdates dayOne).mpr ⟨.stock "A", by decide, "close", by decide, by decide⟩
  · intro hmem
    obtain ⟨ticker, hticker, field, hfield, hv⟩ := (hdates dayTwo).mp hmem
    have hnone : ∀ ticker ∈ twoDaysPlan.tickers, ∀ field ∈ twoDaysPlan.fields,
        twoDaysPlan.reported twoDaysFetch () dayTwo ticker field = none := by decide
    exact hv (hnone ticker hticker field hfield)

end Plan

end MarketBars
