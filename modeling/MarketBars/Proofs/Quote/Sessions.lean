import MarketBars.Proofs.Quote.Paging
import MarketBars.Quote.Broker

/-!
# Sessions of the broker

Whatever becomes of a call, the broker does one of two things with its source: it leaves the source
alone, or it opens one connection, asks for pages on it and closes it. A broker that is called again and
again, at whatever times, has therefore closed every connection that it opened, each time that a call
returns.
-/

namespace MarketBars

variable {σ τ ι : Type}

/-- What happens during a call: nothing at all, or one session, in which a connection is opened, pages
are asked for on it, and it is closed. -/
inductive SessionTrace : List (SessionEvent ι) → Prop
  | untouched : SessionTrace []
  | session (conn : ι) (requests : List KlineRequest) :
    SessionTrace (.opened conn :: requests.map (.requested conn) ++ [.closed conn])

namespace SessionEvent

def isOpened : SessionEvent ι → Bool
  | .opened _ => true
  | _ => false

def isClosed : SessionEvent ι → Bool
  | .closed _ => true
  | _ => false

end SessionEvent

/-- What a call opens, it closes. -/
theorem SessionTrace.countP_eq {trace : List (SessionEvent ι)} (h : SessionTrace trace) :
    trace.countP SessionEvent.isOpened = trace.countP SessionEvent.isClosed := by
  cases h with
  | untouched => rfl
  | session conn requests =>
    have hopened : (requests.map (SessionEvent.requested conn)).countP SessionEvent.isOpened = 0 := by
      simp [List.countP_eq_zero, SessionEvent.isOpened]
    have hclosed : (requests.map (SessionEvent.requested conn)).countP SessionEvent.isClosed = 0 := by
      simp [List.countP_eq_zero, SessionEvent.isClosed]
    simp only [List.cons_append, List.countP_cons, List.countP_append, hopened, hclosed]
    rfl

namespace QuoteSource

/-- Nothing but requests on a connection is added to what happened. -/
def AddsRequests (conn : ι) (before after : σ × List (SessionEvent ι)) : Prop :=
  ∃ requests : List KlineRequest, after.2 = before.2 ++ requests.map (.requested conn)

theorem AddsRequests.refl (conn : ι) (before : σ × List (SessionEvent ι)) :
    AddsRequests conn before before :=
  ⟨[], (List.append_nil _).symm⟩

theorem AddsRequests.trans {conn : ι} {first second third : σ × List (SessionEvent ι)}
    (h : AddsRequests conn first second) (h' : AddsRequests conn second third) :
    AddsRequests conn first third := by
  obtain ⟨requests, hsecond⟩ := h
  obtain ⟨requests', hthird⟩ := h'
  refine ⟨requests ++ requests', ?_⟩
  rw [hthird, hsecond, List.append_assoc, List.map_append]

variable (source : QuoteSource σ ι)

theorem traced_mirrors : source.traced.Mirrors Prod.fst source where
  connect := by
    rintro ⟨s, events⟩
    simp only [traced]
    rcases source.connect s with ⟨e | conn, s'⟩ <;> rfl
  page _ _ _ := rfl
  close _ _ := rfl

theorem traced_page (conn : ι) (r : KlineRequest) {before after : σ × List (SessionEvent ι)}
    {answer : Except DataError KlinePage} (h : source.traced.page conn r before = (answer, after)) :
    AddsRequests conn before after := by
  cases h
  exact ⟨[r], rfl⟩

theorem traced_rowsFrom (conn : ι) (page : Nat) (r : KlineRequest) (before : σ × List (SessionEvent ι)) :
    AddsRequests conn before (source.traced.rowsFrom conn page r before).state := by
  induction page, r, before using rowsFrom.induct source.traced conn with
  | case1 page r before e after hpage =>
    rw [rowsFrom_of_error hpage]
    exact source.traced_page conn r hpage
  | case2 page r before p after hpage hnext =>
    rw [rowsFrom_of_last hpage hnext]
    exact source.traced_page conn r hpage
  | case3 page r before p after hpage key hnext ih =>
    rw [rowsFrom_of_next hpage hnext]
    exact (source.traced_page conn r hpage).trans ih

theorem traced_rows (conn : ι) (r : KlineRequest) (before : σ × List (SessionEvent ι)) :
    AddsRequests conn before (source.traced.rows conn r before).state := by
  rcases hpage : source.traced.page conn r before with ⟨e | p, after⟩
  · rw [rows_of_error hpage]
    exact source.traced_page conn r hpage
  · cases hnext : p.next? with
    | none =>
      rw [rows_of_last hpage hnext]
      exact source.traced_page conn r hpage
    | some key =>
      rw [rows_of_next hpage hnext]
      exact (source.traced_page conn r hpage).trans (source.traced_rowsFrom conn 1 _ after)

/-- All that a plan does on a connection is to ask for pages on it. -/
theorem traced_run (conn : ι) (limit : Nat) (name : String) (plan : Plan)
    (before : σ × List (SessionEvent ι)) :
    AddsRequests conn before (plan.run (source.traced.fetcher conn limit name) before).state := by
  refine Plan.rel_state (AddsRequests.refl conn) (fun _ _ _ => AddsRequests.trans) ?_ plan before
  intro call before
  rw [fetcher]
  cases Period.ofFrequency? call.frequency with
  | none => exact AddsRequests.refl conn before
  | some period => exact source.traced_rows conn (firstRequest limit call period) before

end QuoteSource

/-- A call for columns or for price fields. -/
inductive MarketCall where
  | history (r : HistoryRequest)
  | price (r : PriceRequest)

namespace Broker

/-- The request for columns that a call comes down to. -/
def request : MarketCall → HistoryRequest
  | .history r => r
  | .price r => r.toHistory (PriceMap.identity PriceField.all)

def answer (b : Broker) (source : QuoteSource σ ι) (call : MarketCall) (s : σ) :
    Run σ (Except Failure History) :=
  match call with
  | .history r => (b.provider source).history r s
  | .price r => (b.provider source).price r s

/-- A broker answers one call after the other, each of them by a clock of its own. -/
def serve (b : Broker) (source : QuoteSource σ ι) :
    List (MarketClock × MarketCall) → σ → List (Run σ (Except Failure History))
  | [], _ => []
  | (clock, call) :: rest, s =>
    let run := { b with clock }.answer source call s
    run :: b.serve source rest run.state

/-- A request that is answered without the source: its frequency has no period, a ticker is of a kind
that is not served, or nothing can fall inside its window. -/
def NeedsNoSession (b : Broker) (r : HistoryRequest) : Prop :=
  Period.ofFrequency? (r.frequency?.getD b.frequency) = none ∨
    (∃ ticker ∈ r.tickers.toList, ticker.kind ∉ kinds) ∨
    ∃ window, Window.ofRequest? b.clock r.start r.stop? (r.frequency?.getD b.frequency) r.lookAhead =
      some window ∧ window.isEmpty = true

/-- A request is either answered without the source, or by a plan that is run on a connection. -/
theorem history_cases (b : Broker) (r : HistoryRequest) :
    (∃ result, ∀ {σ ι : Type} (source : QuoteSource σ ι) (s : σ),
      b.history source r s = ⟨result, [], s⟩) ∨
    ∃ window, Window.ofRequest? b.clock r.start r.stop? (r.frequency?.getD b.frequency) r.lookAhead =
        some window ∧ window.isEmpty = false ∧
      ∀ {σ ι : Type} (source : QuoteSource σ ι) (s : σ),
        b.history source r s = (b.runConnected source (r.plan r.tickers.toList r.tickers.isSingle window
          (r.frequency?.getD b.frequency)) s).lift := by
  simp only [history]
  by_cases hperiod : (Period.ofFrequency? (r.frequency?.getD b.frequency)).isNone = true
  · simp only [if_pos hperiod]
    exact .inl ⟨_, fun _ _ => rfl⟩
  · simp only [if_neg hperiod]
    cases checkKinds name kinds r.tickers.toList with
    | error e => exact .inl ⟨_, fun _ _ => rfl⟩
    | ok _ =>
      cases hw : Window.ofRequest? b.clock r.start r.stop? (r.frequency?.getD b.frequency)
        r.lookAhead with
      | none => exact .inl ⟨_, fun _ _ => rfl⟩
      | some window =>
        cases hempty : window.isEmpty with
        | true =>
          have hplan : (r.plan r.tickers.toList r.tickers.isSingle window
              (r.frequency?.getD b.frequency)).window.isEmpty = true := hempty
          simp only [hempty, if_true, Plan.run_of_isEmpty hplan, Run.lift]
          exact .inl ⟨_, fun _ _ => rfl⟩
        | false =>
          refine .inr ⟨window, rfl, hempty, fun source s => ?_⟩
          simp only [hempty, Bool.false_eq_true, if_false]

section Mirrors

variable {view : τ → σ} {outer : QuoteSource τ ι} {inner : QuoteSource σ ι}

theorem runConnected_seen (b : Broker) (h : outer.Mirrors view inner) (plan : Plan) (t : τ) :
    b.runConnected inner plan (view t) = (b.runConnected outer plan t).seen view := by
  have hconnect := h.connect t
  rw [runConnected, runConnected, hconnect]
  rcases outer.connect t with ⟨e | conn, t'⟩
  · rfl
  · simp only [(h.fetcher conn (max 1 b.pageSize) name).run plan t', Run.seen, h.close]

theorem history_seen (b : Broker) (h : outer.Mirrors view inner) (r : HistoryRequest) (t : τ) :
    b.history inner r (view t) = (b.history outer r t).seen view := by
  rcases b.history_cases r with ⟨result, hresult⟩ | ⟨window, -, -, hrun⟩
  · rw [hresult, hresult]
    rfl
  · rw [hrun, hrun, b.runConnected_seen h]
    rfl

theorem answer_seen (b : Broker) (h : outer.Mirrors view inner) (call : MarketCall) (t : τ) :
    b.answer inner call (view t) = (b.answer outer call t).seen view := by
  cases call with
  | history r => exact b.history_seen h r t
  | price r =>
    have hhistory := b.history_seen h (r.toHistory (PriceMap.identity PriceField.all)) t
    simp only [answer, Provider.price, provider, hhistory, Run.seen]

/-- A broker answers the same with sources that behave alike. -/
theorem serve_seen (b : Broker) (h : outer.Mirrors view inner)
    (calls : List (MarketClock × MarketCall)) (t : τ) :
    (b.serve outer calls t).map (Run.seen view) = b.serve inner calls (view t) := by
  induction calls generalizing t with
  | nil => rfl
  | cons timed rest ih =>
    simp only [serve, List.map_cons, ih, answer_seen _ h]
    rfl

end Mirrors

variable (source : QuoteSource σ ι)

theorem checkKinds_of_mem {ticker : Ticker} {tickers : List Ticker} (hmem : ticker ∈ tickers)
    (hkind : ticker.kind ∉ kinds) : ∃ e, checkKinds name kinds tickers = .error e := by
  rw [checkKinds]
  cases hfind : tickers.find? fun t => !kinds.contains t.kind with
  | some t => exact ⟨_, rfl⟩
  | none =>
    have hserved := List.find?_eq_none.mp hfind ticker hmem
    simp [hkind] at hserved

/-- A plan that is run on a connection of its own makes a session, unless connecting fails. -/
theorem runConnected_trace (b : Broker) (plan : Plan) (s : σ) (events : List (SessionEvent ι)) :
    ∃ trace, SessionTrace trace ∧
      (b.runConnected source.traced plan (s, events)).state.2 = events ++ trace := by
  rw [runConnected]
  rcases hconnect : source.connect s with ⟨e | conn, s'⟩
  · refine ⟨[], .untouched, ?_⟩
    simp only [QuoteSource.traced, hconnect, List.append_nil]
  · obtain ⟨requests, hrequests⟩ :=
      source.traced_run conn (max 1 b.pageSize) name plan (s', events ++ [.opened conn])
    have hopened : source.traced.connect (s, events) = (.ok conn, s', events ++ [.opened conn]) := by
      simp only [QuoteSource.traced, hconnect]
    -- The connection is closed after the plan, whatever its result is.
    refine ⟨_, .session conn requests, ?_⟩
    rw [hopened]
    refine (congrArg (· ++ [SessionEvent.closed conn]) hrequests).trans ?_
    rw [List.append_assoc, List.append_assoc]
    rfl

/-- What happens during a request: at most one session, and none if the request needs none. -/
theorem history_trace (b : Broker) (r : HistoryRequest) (s : σ) (events : List (SessionEvent ι)) :
    ∃ trace, SessionTrace trace ∧ (b.NeedsNoSession r → trace = []) ∧
      (b.history source.traced r (s, events)).state.2 = events ++ trace := by
  -- Every way out before connecting leaves the source alone.
  have huntouched : ∀ result : Except Failure History, ∀ notes, ∃ trace, SessionTrace trace ∧
      (b.NeedsNoSession r → trace = []) ∧
      (Run.mk result notes (s, events)).state.2 = events ++ trace :=
    fun _ _ => ⟨[], .untouched, fun _ => rfl, (List.append_nil events).symm⟩
  rw [history]
  cases hperiod : Period.ofFrequency? (r.frequency?.getD b.frequency) with
  | none => exact huntouched _ _
  | some period =>
    cases hkinds : checkKinds name kinds r.tickers.toList with
    | error e => exact huntouched _ _
    | ok _ =>
      cases hwindow : Window.ofRequest? b.clock r.start r.stop? (r.frequency?.getD b.frequency)
        r.lookAhead with
      | none => exact huntouched _ _
      | some window =>
        simp only [Option.isNone_some, Bool.false_eq_true, if_false]
        cases hempty : window.isEmpty with
        | true =>
          have hplan : (r.plan r.tickers.toList r.tickers.isSingle window
              (r.frequency?.getD b.frequency)).window.isEmpty = true := hempty
          rw [if_pos rfl, Plan.run_of_isEmpty hplan]
          exact huntouched _ _
        | false =>
          rw [if_neg Bool.false_ne_true]
          obtain ⟨trace, htrace, hevents⟩ := b.runConnected_trace source
            (r.plan r.tickers.toList r.tickers.isSingle window (r.frequency?.getD b.frequency)) s events
          -- None of the three reasons to need no session gets this far.
          refine ⟨trace, htrace, ?_, hevents⟩
          rintro (hnone | ⟨ticker, hmem, hkind⟩ | ⟨window', hwindow', hempty'⟩)
          · cases hperiod.symm.trans hnone
          · obtain ⟨e, he⟩ := checkKinds_of_mem hmem hkind
            cases hkinds.symm.trans he
          · cases hwindow.symm.trans hwindow'
            cases hempty.symm.trans hempty'

theorem answer_trace (b : Broker) (call : MarketCall) (s : σ) (events : List (SessionEvent ι)) :
    ∃ trace, SessionTrace trace ∧ (b.NeedsNoSession (request call) → trace = []) ∧
      (b.answer source.traced call (s, events)).state.2 = events ++ trace := by
  cases call with
  | history r => exact b.history_trace source r s events
  | price r =>
    exact b.history_trace source (r.toHistory (PriceMap.identity PriceField.all)) s events

/-- Every call adds the events of at most one session to those of the calls before it. -/
theorem serve_traces (b : Broker) (calls : List (MarketClock × MarketCall)) (s : σ)
    (events : List (SessionEvent ι)) :
    ∃ log : List ((MarketClock × MarketCall) × List (SessionEvent ι)), log.map Prod.fst = calls ∧
      (∀ entry ∈ log, SessionTrace entry.2 ∧
        ({ b with clock := entry.1.1 }.NeedsNoSession (request entry.1.2) → entry.2 = [])) ∧
      events :: (b.serve source.traced calls (s, events)).map (fun run => run.state.2) =
        (log.map Prod.snd).scanl (· ++ ·) events := by
  induction calls generalizing s events with
  | nil => exact ⟨[], rfl, List.forall_mem_nil _, rfl⟩
  | cons timed rest ih =>
    obtain ⟨clock, call⟩ := timed
    obtain ⟨trace, htrace, hnone, hevents⟩ := { b with clock }.answer_trace source call s events
    obtain ⟨log, hcalls, hlog, hserve⟩ :=
      ih ({ b with clock }.answer source.traced call (s, events)).state.1 (events ++ trace)
    refine ⟨((clock, call), trace) :: log, ?_, ?_, ?_⟩
    · rw [List.map_cons, hcalls]
    · exact List.forall_mem_cons.mpr ⟨⟨htrace, hnone⟩, hlog⟩
    · rw [List.map_cons, List.scanl_cons, ← hserve, serve, List.map_cons, ← hevents]

/-- Between traces that close what they open, everything is closed. -/
theorem countP_eq_of_mem_scanl {traces : List (List (SessionEvent ι))}
    (h : ∀ trace ∈ traces, SessionTrace trace) {events : List (SessionEvent ι)}
    (hevents : events.countP SessionEvent.isOpened = events.countP SessionEvent.isClosed) :
    ∀ later ∈ traces.scanl (· ++ ·) events,
      later.countP SessionEvent.isOpened = later.countP SessionEvent.isClosed := by
  induction traces generalizing events with
  | nil =>
    intro later hlater
    rw [List.scanl_nil, List.mem_singleton] at hlater
    rw [hlater, hevents]
  | cons trace rest ih =>
    obtain ⟨htrace, hrest⟩ := List.forall_mem_cons.mp h
    intro later hlater
    rw [List.scanl_cons, List.mem_cons] at hlater
    rcases hlater with rfl | hlater
    · exact hevents
    · refine ih hrest ?_ later hlater
      rw [List.countP_append, List.countP_append, hevents, htrace.countP_eq]

/-- A broker answers calls one after the other, whatever the time of each of them and whatever the source
does. A call opens at most one connection, asks for pages on this connection only, and closes it before
it returns; a request that needs no session opens none. So all connections are closed whenever a call
has returned. -/
theorem serve_closes_sessions (b : Broker) (calls : List (MarketClock × MarketCall)) (s : σ) :
    (b.serve source.traced calls (s, [])).map (Run.seen Prod.fst) = b.serve source calls s ∧
    ∃ log : List ((MarketClock × MarketCall) × List (SessionEvent ι)), log.map Prod.fst = calls ∧
      (∀ entry ∈ log, SessionTrace entry.2 ∧
        ({ b with clock := entry.1.1 }.NeedsNoSession (request entry.1.2) → entry.2 = [])) ∧
      [] :: (b.serve source.traced calls (s, [])).map (fun run => run.state.2) =
        (log.map Prod.snd).scanl (· ++ ·) [] ∧
      ∀ run ∈ b.serve source.traced calls (s, []),
        run.state.2.countP SessionEvent.isOpened = run.state.2.countP SessionEvent.isClosed := by
  obtain ⟨log, hcalls, hlog, hserve⟩ := b.serve_traces source calls s []
  refine ⟨b.serve_seen source.traced_mirrors calls (s, []), log, hcalls, hlog, hserve, ?_⟩
  have hsession : ∀ trace ∈ log.map Prod.snd, SessionTrace trace := by
    intro trace htrace
    obtain ⟨entry, hentry, rfl⟩ := List.mem_map.mp htrace
    exact (hlog entry hentry).1
  intro run hrun
  have hmem : run.state.2 ∈ (log.map Prod.snd).scanl (· ++ ·) [] := by
    rw [← hserve]
    exact List.mem_cons_of_mem _ (List.mem_map_of_mem hrun)
  exact countP_eq_of_mem_scanl hsession rfl run.state.2 hmem

end Broker

end MarketBars
