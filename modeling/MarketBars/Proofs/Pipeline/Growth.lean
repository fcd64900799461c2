import MarketBars.Proofs.Disclosure.Growth
import MarketBars.Proofs.Pipeline.Observation
import MarketBars.Proofs.Pipeline.Pointwise
import MarketBars.Proofs.Table.Dedup
import MarketBars.Provider

/-!
# Answers grow with time

A source that always has the same rows shows more of them as the clock advances, and what it has shown it
shows again: the rows of a ticker in an earlier window begin those in a later one, and a value of an
earlier answer is a value of a later one, on the same date, for the same ticker and field. Dates may come
before it that had no values, so only the position of its date may change.
-/

namespace MarketBars

/-- A test that holds up to some place of a list keeps what comes before it, in front of the rest. -/
theorem filter_append_filter_not {α : Type} {test : α → Bool} {xs : List α}
    (h : xs.Pairwise fun a b => test b = true → test a = true) :
    xs = xs.filter test ++ xs.filter fun a => !test a := by
  induction xs with
  | nil => rfl
  | cons a rest ih =>
    obtain ⟨ha, hrest⟩ := List.pairwise_cons.mp h
    by_cases htest : test a = true
    · rw [List.filter_cons_of_pos htest, List.filter_cons_of_neg (by simpa using htest),
        List.cons_append, ← ih hrest]
    · have hnone : rest.filter test = [] := by
        rw [List.filter_eq_nil_iff]
        exact fun b hb hb' => htest (ha b hb hb')
      have hall : (rest.filter fun b => !test b) = rest := by
        have hsplit := ih hrest
        rw [hnone, List.nil_append] at hsplit
        exact hsplit.symm
      rw [List.filter_cons_of_neg htest, List.filter_cons_of_pos (by simpa using htest), hnone, hall,
        List.nil_append]

namespace Table

def IsAscending (t : Table) : Prop :=
  t.rows.Pairwise fun a b =>
    ∀ ms ms', a.stamp.millis? = some ms → b.stamp.millis? = some ms' → ms ≤ ms'

/-- Rows ascend once repeated timestamps are dropped. -/
theorem isAscending_dedupFirst {t : Table} (h : t.IsStamped) : t.dedupFirst.IsAscending := by
  obtain ⟨millis, hmillis, hascending⟩ := ascends_dedupFirst h
  have hstamps : (t.dedupFirst.rows.map Row.stamp).Pairwise fun a b =>
      ∀ ms ms', a.millis? = some ms → b.millis? = some ms' → ms ≤ ms' := by
    rw [hmillis]
    refine List.pairwise_map.mpr (hascending.imp fun hlt ms ms' hms hms' => ?_)
    cases hms
    cases hms'
    exact Int.le_of_lt hlt
  exact List.pairwise_map.mp hstamps

theorem isWithin_iff {start stop : Instant} {r : Row} :
    r.isWithin start stop = true ↔
      ∃ ms, r.stamp.millis? = some ms ∧ start.millis ≤ ms ∧ ms ≤ stop.millis := by
  rw [Row.isWithin]
  cases r.stamp.millis? with
  | none => simp
  | some ms => simp

/-- The rows of a longer window are those of a shorter one, and then rows after its end. -/
theorem within_append {t : Table} (h : t.IsAscending) (start : Instant) {stop stop' : Instant}
    (hstop : stop.millis ≤ stop'.millis) :
    ∃ later, (t.within start stop').rows = (t.within start stop).rows ++ later ∧
      ∀ r ∈ later, ∀ ms, r.stamp.millis? = some ms → stop.millis < ms := by
  have hshort : (t.within start stop).rows =
      (t.within start stop').rows.filter (Row.isWithin start stop) := by
    change t.rows.filter _ = (t.rows.filter _).filter _
    rw [List.filter_filter]
    refine List.filter_congr fun r _ => ?_
    rw [Bool.eq_iff_iff, Bool.and_eq_true, iff_self_and, isWithin_iff, isWithin_iff]
    rintro ⟨ms, hms, hfrom, hto⟩
    exact ⟨ms, hms, hfrom, Int.le_trans hto hstop⟩
  have hmem : ∀ r ∈ (t.within start stop').rows, ∃ ms, r.stamp.millis? = some ms ∧
      start.millis ≤ ms ∧ ms ≤ stop'.millis :=
    fun r hr => isWithin_iff.mp (List.mem_filter.mp hr).2
  have hsplit : (t.within start stop').rows.Pairwise fun a b =>
      a ∈ (t.within start stop').rows → b.isWithin start stop = true → a.isWithin start stop = true := by
    refine (h.filter _).imp fun {a b} hab ha hb => ?_
    obtain ⟨ms, hms, hfrom, -⟩ := hmem a ha
    obtain ⟨ms', hms', -, hto⟩ := isWithin_iff.mp hb
    exact isWithin_iff.mpr ⟨ms, hms, hfrom, Int.le_trans (hab ms ms' hms hms') hto⟩
  have hsplit' : (t.within start stop').rows.Pairwise fun a b =>
      b.isWithin start stop = true → a.isWithin start stop = true :=
    hsplit.imp_of_mem fun ha _ hab => hab ha
  refine ⟨(t.within start stop').rows.filter fun r => !r.isWithin start stop, ?_, ?_⟩
  · rw [hshort]
    exact filter_append_filter_not hsplit'
  · intro r hr ms hms
    obtain ⟨hin, hout⟩ := List.mem_filter.mp hr
    obtain ⟨ms', hms', hfrom, -⟩ := hmem r hin
    cases hms.symm.trans hms'
    by_cases hto : ms ≤ stop.millis
    · have hwithin : r.isWithin start stop = true := isWithin_iff.mpr ⟨ms, hms, hfrom, hto⟩
      rw [hwithin] at hout
      cases hout
    · omega

/-- A value of a shorter window is one of a longer window: what comes later is stamped with other
instants. -/
theorem valueAt_within_mono {t : Table} (h : t.IsAscending)
    {start stop stop' date : Instant} (hstop : stop.millis ≤ stop'.millis) {field : String}
    {v : Binary64} (hv : Cube.valueAt (t.within start stop) date field = some v) :
    Cube.valueAt (t.within start stop') date field = some v := by
  obtain ⟨later, hrows, hlater⟩ := within_append h start hstop
  have hlast : Cube.lastRowAt (t.within start stop') date =
      (later.reverse.find? fun r => r.instant? = some date).or
        (Cube.lastRowAt (t.within start stop) date) := by
    rw [Cube.lastRowAt, hrows, List.reverse_append, List.find?_append]
    rfl
  have hname : (t.within start stop').hasName field = (t.within start stop).hasName field := rfl
  have hcell : (t.within start stop').cellNamed = (t.within start stop).cellNamed := rfl
  rw [Cube.valueAt] at hv ⊢
  split at hv
  · rename_i hfield
    obtain ⟨r, hr, hvalue⟩ := Option.bind_eq_some_iff.mp hv
    have hinstant : r.instant? = some date := by simpa using List.find?_some hr
    have hin := (List.mem_filter.mp (List.mem_reverse.mp (List.mem_of_find?_eq_some hr))).2
    have hnone : (later.reverse.find? fun r => r.instant? = some date) = none := by
      rw [List.find?_eq_none]
      intro r' hr' hinstant'
      -- Rows of one date have the same milliseconds, but the later row comes after the window.
      obtain ⟨ms, hms, hdate⟩ := Option.bind_eq_some_iff.mp hinstant
      obtain ⟨ms', hms', hdate'⟩ := Option.bind_eq_some_iff.mp (of_decide_eq_true hinstant')
      obtain ⟨_, hms'', -, hto⟩ := isWithin_iff.mp hin
      have hlt := hlater r' (List.mem_reverse.mp hr') ms' hms'
      have hsame := (Instant.millis_of_ofMillis? hdate).symm.trans (Instant.millis_of_ofMillis? hdate')
      cases hms.symm.trans hms''
      omega
    rw [hname, if_pos hfield, hlast, hnone, Option.none_or, hcell]
    exact hv
  · cases hv

/-- The rows of a window that ends with a whole second have timestamps that can be read. -/
theorem exists_stamps_within (t : Table) {start stop : Instant} (h : stop.time.nano = 0) :
    ∃ ts, (t.within start stop).stamps = .ok ts := by
  refine exists_stamps_of_instants fun r hr => ?_
  obtain ⟨ms, hms, hfrom, hto⟩ := isWithin_iff.mp (List.mem_filter.mp hr).2
  obtain ⟨u, hu⟩ := Instant.exists_ofMillis? (Int.le_trans start.le_millis hfrom)
    (Int.lt_of_le_of_lt hto (Instant.millis_lt_endMillis (by omega)))
  refine ⟨u, ?_⟩
  rw [Row.instant?, hms]
  exact hu

end Table

/-- The source always has the same rows of a ticker: of every call it answers with the first row of every
timestamp, inside the window only, or with one and the same error. -/
structure Fetcher.Fixed {σ : Type} (fetch : Fetcher σ)
    (source : Ticker → List String → Frequency → Except DataError Table) : Prop where
  result_eq : ∀ call s, (fetch call s).result =
    (source call.ticker call.fields call.frequency).map fun t =>
      t.dedupFirst.within call.window.start call.window.stop
  stamped : ∀ ticker fields f t, source ticker fields f = .ok t → t.IsStamped

def Plan.over (plan : Plan) (window : Window) : Plan :=
  { plan with window }

/-- What recorded tables have of a ticker. -/
def RecordedTables.source (tables : RecordedTables) (ticker : Ticker) (_ : List String)
    (_ : Frequency) : Except DataError Table :=
  (tables.lookup ticker.symbol).getD
    (.error (.sourceUnavailable ticker.symbol "unknown symbol"))

theorem RecordedTables.mem_of_source {tables : RecordedTables} {ticker : Ticker} {fields : List String}
    {f : Frequency} {t : Table} (h : tables.source ticker fields f = .ok t) :
    (ticker.symbol, .ok t) ∈ tables := by
  rw [source] at h
  cases hlookup : tables.lookup ticker.symbol with
  | none =>
    rw [hlookup] at h
    cases h
  | some reply =>
    rw [hlookup] at h
    cases h
    obtain ⟨before, after, htables, -⟩ := List.lookup_eq_some_iff.mp hlookup
    rw [htables]
    exact List.mem_append_right _ List.mem_cons_self

/-- Recorded tables are a fixed source. -/
theorem RecordedTables.fixed {tables : RecordedTables}
    (h : ∀ e ∈ tables, ∀ t, e.2 = .ok t → t.IsStamped) :
    tables.fetcher.Fixed tables.source where
  result_eq := by
    intro call calls
    rw [fetcher, source]
    cases tables.lookup call.ticker.symbol with
    | none => rfl
    | some reply => cases reply <;> rfl
  stamped := by
    intro ticker fields f t ht
    exact h _ (mem_of_source ht) t rfl

namespace Fetcher.Fixed

variable {σ : Type} {fetch : Fetcher σ}
  {source : Ticker → List String → Frequency → Except DataError Table}

/-- What a fixed source has of a ticker inside a window. -/
def seen (source : Ticker → List String → Frequency → Except DataError Table) (plan : Plan)
    (ticker : Ticker) : Except DataError Table :=
  (source ticker plan.fields plan.frequency).map fun t =>
    t.dedupFirst.within plan.window.start plan.window.stop

/-- The replies of a fixed source do not depend on each other. -/
theorem replies_eq (h : fetch.Fixed source) (plan : Plan) (tickers : List Ticker) (s : σ) :
    plan.replies fetch tickers s = tickers.map fun ticker => (ticker, seen source plan ticker) := by
  induction tickers generalizing s with
  | nil => rfl
  | cons ticker rest ih =>
    rw [Plan.replies, ih, List.map_cons, h.result_eq]
    rfl

theorem mapReplies_const (plan : Plan) (tickers : List Ticker) :
    Plan.mapReplies (fun _ => ()) (tickers.map fun ticker => (ticker, seen source plan ticker)) =
      tickers.map fun ticker => (ticker, (source ticker plan.fields plan.frequency).map fun _ => ()) := by
  rw [Plan.mapReplies, List.map_map]
  refine List.map_congr_left fun ticker _ => ?_
  rw [Function.comp_apply, seen]
  cases source ticker plan.fields plan.frequency <;> rfl

/-- What a table reply says of a requested field, it says in a longer window too. -/
theorem lookup_mono (h : fetch.Fixed source) {plan : Plan} {w : Window} {s s' : σ}
    (hstart : w.start = plan.window.start) (hstop : plan.window.stop.millis ≤ w.stop.millis)
    {date : Instant} {ticker : Ticker} {field : String} (hfield : field ∈ plan.fields) {v : Binary64}
    (hv : Cube.lookup ((plan.replies fetch (distinctTickers plan.tickers) s).filterMap plan.kept) date
      ticker field = some v) :
    Cube.lookup (((plan.over w).replies fetch (distinctTickers (plan.over w).tickers) s').filterMap
      (plan.over w).kept) date ticker field = some v := by
  rw [Plan.lookup_filterMap_kept plan (Plan.nodup_symbols_replies fetch plan s) hfield] at hv
  have hfield' : field ∈ (plan.over w).fields := hfield
  have hsymbols := Plan.nodup_symbols_replies fetch (plan.over w) s'
  rw [Plan.lookup_filterMap_kept (plan.over w) hsymbols hfield']
  obtain ⟨reply, hreply, hvalue⟩ := Option.bind_eq_some_iff.mp hv
  rw [h.replies_eq] at hreply ⊢
  rw [Plan.replyFor, List.find?_map] at hreply ⊢
  obtain ⟨found, hfound, rfl⟩ := Option.map_eq_some_iff.mp hreply
  have hcomp : ∀ p : Plan, (fun reply : Ticker × Except DataError Table => reply.1.same ticker) ∘
      (fun ticker => (ticker, seen source p ticker)) = fun t => t.same ticker := fun _ => rfl
  have htickers : (plan.over w).tickers = plan.tickers := rfl
  rw [hcomp] at hfound
  rw [hcomp, htickers, hfound, Option.map_some, Option.bind_some]
  cases hsource : source found plan.fields plan.frequency with
  | error e =>
    simp only [seen, hsource, Except.map] at hvalue
    cases hvalue
  | ok t =>
    simp only [seen, Plan.over, hsource, Except.map, hstart] at hvalue ⊢
    exact Table.valueAt_within_mono (Table.isAscending_dedupFirst (h.stamped _ _ _ _ hsource)) hstop
      hvalue

/-- The tables that are gathered from a fixed source for a window have timestamps that can be read. -/
theorem exists_stampsOf (h : fetch.Fixed source) {plan : Plan} (hwindow : plan.window.isEmpty = false)
    (hnano : plan.window.stop.time.nano = 0) {s : σ} {tables : List (Ticker × Table)}
    (hgather : (plan.gather fetch s).result = .ok tables) :
    ∃ stamps, Cube.stampsOf tables = .ok stamps := by
  rw [Plan.gather_eq_settled hwindow] at hgather
  rw [Plan.settled_eq_ok hgather, Cube.stampsOf_eq_mapM, h.replies_eq]
  refine exists_mapM fun entry hentry => ?_
  obtain ⟨reply, hreply, hkept⟩ := List.mem_filterMap.mp hentry
  obtain ⟨ticker, -, rfl⟩ := List.mem_map.mp hreply
  cases hsource : source ticker plan.fields plan.frequency with
  | error e =>
    simp only [seen, hsource, Except.map] at hkept
    cases hkept
  | ok t =>
    simp only [seen, hsource, Except.map] at hkept
    cases hkept
    dsimp only
    rw [Table.stamps_project]
    exact Table.exists_stamps_within t.dedupFirst hnano

/-- When a fixed source has tables for one window, it has tables for any other. -/
theorem exists_gather (h : fetch.Fixed source) {plan : Plan} {w : Window}
    (hwindow : plan.window.isEmpty = false) (hwindow' : w.isEmpty = false) {s : σ}
    {tables : List (Ticker × Table)} (hgather : (plan.gather fetch s).result = .ok tables) (s' : σ) :
    ∃ tables', ((plan.over w).gather fetch s').result = .ok tables' := by
  have hover : (plan.over w).window.isEmpty = false := hwindow'
  -- Which tickers fail, and how, does not depend on the window.
  have hconst : (Plan.settled (plan.replies fetch (distinctTickers plan.tickers) s)).map
        (List.map fun entry => (entry.1, ())) =
      (Plan.settled ((plan.over w).replies fetch (distinctTickers (plan.over w).tickers) s')).map
        (List.map fun entry => (entry.1, ())) := by
    rw [← Plan.settled_mapReplies fun _ => (), ← Plan.settled_mapReplies fun _ => (), h.replies_eq,
      h.replies_eq, mapReplies_const, mapReplies_const]
    rfl
  rw [Plan.gather_eq_settled hwindow, Plan.settled_mapReplies] at hgather
  rw [Plan.gather_eq_settled hover, Plan.settled_mapReplies]
  rcases of_map_eq_map hconst with ⟨e, he, -⟩ | ⟨entries, entries', -, hentries', -⟩
  · rw [he] at hgather
    cases hgather
  · rw [hentries']
    exact ⟨_, rfl⟩

theorem lookup_empty (tickers : List Ticker) (date : Instant) (ticker : Ticker) (field : String) :
    Cube.lookup (tickers.map fun t => (t, Table.empty)) date ticker field = none := by
  rw [Cube.lookup, List.find?_map, Option.bind_map, Option.bind_eq_none_iff]
  intro t _
  rw [Function.comp_apply, Cube.valueAt]
  split <;> rfl

/-- A value of an answer with all its axes is a value of the answer for a window that ends later. -/
theorem run_grows (h : fetch.Fixed source) (plan : Plan) {w : Window}
    (hflags : plan.flags = ⟨false, false, false⟩) (hstart : w.start = plan.window.start)
    (hstop : plan.window.stop ≤ w.stop) (hnano : plan.window.stop.time.nano = 0)
    (hnano' : w.stop.time.nano = 0) {s s' : σ} {c : Cube}
    (hrun : (plan.run fetch s).result = .ok (.cube c)) {d t k : Nat} {v : Binary64}
    (hv : c.get d t k = some v) :
    ∃ c' d', ((plan.over w).run fetch s').result = .ok (.cube c') ∧ c'.tickers = c.tickers ∧
      c'.fields = c.fields ∧ c'.dates[d']? = c.dates[d]? ∧ c'.get d' t k = some v := by
  obtain ⟨tables, stamps, hgather, hstamps, hpanel⟩ := Plan.run_eq_ok hrun
  rw [hflags] at hpanel
  cases hpanel
  rw [Cube.get_panel _ _ _ rfl] at hv
  obtain ⟨date, hdate, hv⟩ := Option.bind_eq_some_iff.mp hv
  obtain ⟨ticker, hticker, hv⟩ := Option.bind_eq_some_iff.mp hv
  obtain ⟨field, hfield, hv⟩ := Option.bind_eq_some_iff.mp hv
  cases hwindow : plan.window.isEmpty with
  | true =>
    -- Nothing is asked of the source, so there are no values.
    simp only [Plan.gather, hwindow, if_true, Except.ok.injEq] at hgather
    rw [← hgather, lookup_empty] at hv
    cases hv
  | false =>
    have hwindow' : w.isEmpty = false := by
      simp only [Window.isEmpty, decide_eq_false_iff_not, Instant.lt_iff, hstart] at hwindow ⊢
      rw [Instant.le_iff] at hstop
      omega
    have hover : (plan.over w).window.isEmpty = false := hwindow'
    obtain ⟨tables', hgather'⟩ := h.exists_gather hwindow hwindow' hgather s'
    obtain ⟨stamps', hstamps'⟩ := h.exists_stampsOf hover hnano' hgather'
    have hlookup : Cube.lookup tables' date ticker field = some v := by
      rw [Plan.gather_eq_settled hwindow] at hgather
      rw [Plan.settled_eq_ok hgather] at hv
      have hover' := @Plan.gather_eq_settled _ fetch _ s' hover
      rw [Plan.settled_eq_ok (hover'.symm.trans hgather')]
      exact h.lookup_mono hstart (Instant.millis_le_of_le hnano hstop) (List.mem_of_getElem? hfield) hv
    have hanswer : ((plan.over w).run fetch s').result = .ok (.cube (Cube.panel
        (Cube.sortedInstants stamps'.flatten) (Cube.lookup tables') plan.tickers plan.fields
          plan.fields)) := by
      have hsome : tables'.isEmpty = false := by
        cases tables' with
        | nil => cases hlookup
        | cons entry rest => rfl
      have hflags' : (plan.over w).flags = ⟨false, false, false⟩ := hflags
      simp only [Plan.run, hgather', Plan.answer_eq, hsome, hstamps', hflags']
      rfl
    have hshown : date ∈ Cube.shownDates (Cube.sortedInstants stamps'.flatten) (Cube.lookup tables')
        plan.tickers plan.fields := by
      have hsome : Cube.lookup tables' date ticker field ≠ none := by simp [hlookup]
      refine List.mem_filter.mpr ⟨?_, List.any_eq_true.mpr ⟨ticker, List.mem_of_getElem? hticker, ?_⟩⟩
      · exact Cube.mem_sortedInstants.mpr (Plan.mem_flatten_of_lookup hstamps' hsome)
      · exact List.any_eq_true.mpr
          ⟨field, List.mem_of_getElem? hfield, Option.isSome_iff_ne_none.mpr hsome⟩
    obtain ⟨d', hd'⟩ := List.getElem?_of_mem hshown
    refine ⟨_, d', hanswer, rfl, rfl, ?_, ?_⟩
    · exact hd'.trans hdate.symm
    · rw [Cube.get_panel _ _ _ rfl, hd', hticker, hfield]
      exact hlookup

/-- What a request discloses that does not look ahead grows as the clock advances: its window keeps the
start, and the end moves forward, up to the end that is asked for; the rows of a ticker in the window
begin with those that were in it before; and every value of the answer is there again, on the same date
and for the same ticker and field. -/
theorem disclosed_grows (h : fetch.Fixed source) {sessions : SessionTimes} {now₁ now₂ : Instant}
    (hnow : now₁ ≤ now₂) {r : HistoryRequest} (hlook : r.lookAhead = false) {f : Frequency}
    {w₁ w₂ : Window}
    (h₁ : Window.ofRequest? ⟨now₁, sessions⟩ r.start r.stop? f r.lookAhead = some w₁)
    (h₂ : Window.ofRequest? ⟨now₂, sessions⟩ r.start r.stop? f r.lookAhead = some w₂) :
    (w₁.start = w₂.start ∧ w₁.stop ≤ w₂.stop ∧
      ∃ w₃, Window.ofRequest? ⟨now₂, sessions⟩ r.start r.stop? f true = some w₃ ∧
        w₂.stop ≤ w₃.stop) ∧
    (∀ ticker t, source ticker r.columns f = .ok t →
      (t.dedupFirst.within w₁.start w₁.stop).rows <+:
        (t.dedupFirst.within w₂.start w₂.stop).rows) ∧
    ∀ (tickers : List Ticker) (single : Bool) (s₁ s₂ : σ) (c₁ : Cube),
      ((r.plan tickers single w₁ f).unsqueezed.run fetch s₁).result = .ok (.cube c₁) →
      ∀ (d t k : Nat) (v : Binary64), c₁.get d t k = some v →
        ∃ c₂ d', ((r.plan tickers single w₂ f).unsqueezed.run fetch s₂).result = .ok (.cube c₂) ∧
          c₂.tickers = c₁.tickers ∧ c₂.fields = c₁.fields ∧ c₂.dates[d']? = c₁.dates[d]? ∧
            c₂.get d' t k = some v := by
  rw [hlook] at h₁ h₂
  have hgrows := Window.grows hnow h₁ h₂
  have hstart := hgrows.1
  have hstop := hgrows.2.1
  refine ⟨hgrows, ?_, ?_⟩
  · intro ticker t ht
    obtain ⟨later, hrows, -⟩ := Table.within_append
      (Table.isAscending_dedupFirst (h.stamped _ _ _ _ ht)) w₁.start
      (Instant.millis_le_of_le (Window.nano_bounds h₁).2 hstop)
    rw [← hstart, hrows]
    exact List.prefix_append _ _
  · intro tickers single s₁ s₂ c₁ hrun d t k v hv
    exact h.run_grows ((r.plan tickers single w₁ f).unsqueezed) rfl hstart.symm hstop
      (Window.nano_bounds h₁).2 (Window.nano_bounds h₂).2 hrun hv

/-- The closing prices of two days. -/
def twoBars : Table :=
  { Plan.twoDays with
    rows := [⟨.moment (Instant.startOf .newYear).millis, [.number (.ofInt 10)]⟩,
      ⟨.moment (Instant.startOf .afterNewYear).millis, [.number (.ofInt 11)]⟩]
    aligned := by decide }

/-- The closing price of the first of them. -/
def firstBar : Table :=
  { Plan.twoDays with
    rows := [⟨.moment (Instant.startOf .newYear).millis, [.number (.ofInt 10)]⟩]
    aligned := by decide }

/-- A request for the closing prices from the first day on. -/
def closesSince : HistoryRequest where
  tickers := .one (.stock "A")
  fields := .one (.native "close")
  start := .startOf .newYear

/-- The second day at a given second. -/
def onSecondDay (second : Nat) (h : second < 86400) : Instant := ⟨.afterNewYear, .ofSecond second h⟩

/-- The window of the request at noon of the second day. -/
def atNoon : Window := ⟨.startOf .newYear, ⟨.newYear, .lastSecond⟩, true⟩

/-- The window of the request in the evening of the second day. -/
def atNight : Window := ⟨.startOf .newYear, ⟨.afterNewYear, .lastSecond⟩, false⟩

def closesPlan (w : Window) : Plan := (closesSince.plan [.stock "A"] true w .daily).unsqueezed

def twoBarsTables : RecordedTables := [("A", .ok twoBars)]

theorem fixed_twoBars : twoBarsTables.fetcher.Fixed twoBarsTables.source := by
  refine RecordedTables.fixed fun e he t ht => ?_
  rw [List.mem_singleton.mp he] at ht
  cases ht
  intro r hr
  simp only [twoBars, List.mem_cons, List.not_mem_nil, or_false] at hr
  rcases hr with rfl | rfl
  · exact ⟨_, rfl⟩
  · exact ⟨_, rfl⟩

/-- At noon the answer has the first bar only. -/
theorem run_atNoon : ((closesPlan atNoon).run twoBarsTables.fetcher []).result =
    .ok (.cube (Cube.panel [.startOf .newYear] (Cube.lookup [(.stock "A", firstBar)]) [.stock "A"]
      ["close"] ["close"])) := by
  have hdedup : twoBars.dedupFirst = twoBars :=
    Table.eq_of_names_of_rows rfl (List.mergeSort_of_pairwise (by decide))
  have hseen : seen twoBarsTables.source (closesPlan atNoon) (.stock "A") =
      .ok (twoBars.within atNoon.start atNoon.stop) := by
    show Except.ok (twoBars.dedupFirst.within atNoon.start atNoon.stop) = _
    rw [hdedup]
  have hgather : ((closesPlan atNoon).gather twoBarsTables.fetcher []).result =
      .ok [(.stock "A", firstBar)] := by
    have hdistinct : distinctTickers (closesPlan atNoon).tickers = [.stock "A"] := rfl
    rw [Plan.gather_eq_settled rfl, fixed_twoBars.replies_eq, hdistinct, List.map_singleton, hseen]
    rfl
  have hread : Cube.stampsOf [(.stock "A", firstBar)] = .ok [[.startOf .newYear]] := rfl
  have hsorted : Cube.sortedInstants [[Instant.startOf .newYear]].flatten = [.startOf .newYear] := by
    simp only [Cube.sortedInstants, List.flatten_singleton, List.mergeSort_singleton]
    rfl
  simp only [Plan.run, hgather, Plan.answer_eq, hread, Except.map, hsorted]
  rfl

/-- The bar of the first day is shown at noon of the second day, and again at night, when that of the
second day is shown too. -/
theorem disclosed_grows_twoBars :
    Window.ofRequest? ⟨onSecondDay 43200 (by decide), .usual⟩ closesSince.start closesSince.stop? .daily
      false = some atNoon ∧
    Window.ofRequest? ⟨onSecondDay 72000 (by decide), .usual⟩ closesSince.start closesSince.stop? .daily
      false = some atNight ∧
    (twoBars.dedupFirst.within atNoon.start atNoon.stop).rows <+:
      (twoBars.dedupFirst.within atNight.start atNight.stop).rows ∧
    ∃ c₁ c₂ d', ((closesPlan atNoon).run twoBarsTables.fetcher []).result = .ok (.cube c₁) ∧
      ((closesPlan atNight).run twoBarsTables.fetcher []).result = .ok (.cube c₂) ∧
      c₁.dates[0]? = some (.startOf .newYear) ∧ c₂.dates[d']? = some (.startOf .newYear) ∧
      c₁.get 0 0 0 = some (.ofInt 10) ∧ c₂.get d' 0 0 = some (.ofInt 10) := by
  have hnoon : Window.ofRequest? ⟨onSecondDay 43200 (by decide), .usual⟩ closesSince.start
      closesSince.stop? .daily false = some atNoon := by decide
  have hnight : Window.ofRequest? ⟨onSecondDay 72000 (by decide), .usual⟩ closesSince.start
      closesSince.stop? .daily false = some atNight := by decide
  obtain ⟨-, hprefix, hvalues⟩ :=
    fixed_twoBars.disclosed_grows (r := closesSince) (by decide) rfl hnoon hnight
  have hvalue : (Cube.panel [.startOf .newYear] (Cube.lookup [(.stock "A", firstBar)]) [.stock "A"]
      ["close"] ["close"]).get 0 0 0 = some (.ofInt 10) := by
    rw [Cube.get_panel _ _ _ rfl]
    decide
  obtain ⟨c₂, d', hrun₂, -, -, hdate, hvalue₂⟩ :=
    hvalues [.stock "A"] true [] [] _ run_atNoon 0 0 0 _ hvalue
  have hfirst : (Cube.panel [.startOf .newYear] (Cube.lookup [(.stock "A", firstBar)]) [.stock "A"]
      ["close"] ["close"]).dates[0]? = some (.startOf .newYear) := by decide
  exact ⟨hnoon, hnight, hprefix (.stock "A") twoBars rfl, _, c₂, d', run_atNoon, hrun₂, hfirst,
    hdate.trans hfirst, hvalue, hvalue₂⟩

end Fetcher.Fixed

end MarketBars
