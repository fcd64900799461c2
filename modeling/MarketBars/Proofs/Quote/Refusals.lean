import MarketBars.Proofs.Pipeline.Contract
import MarketBars.Proofs.Quote.FirstArrivals

namespace MarketBars

namespace KlineRow

variable {fields : List String} {window : Window} {rows : List KlineRow} {e : DataError}

/-- Received rows make a table, unless the reserved name is requested and one of them carries it. -/
theorem tableWithin_eq_error_iff : tableWithin fields window rows = .error e ↔
    e = .columnNames ∧ Table.stampName ∈ columnNames rows fields := by
  by_cases hstamp : Table.stampName ∈ columnNames rows fields
  · have herror : tableWithin fields window rows = .error .columnNames := by
      rw [tableWithin, table_of_stampName hstamp]
      rfl
    rw [herror, Except.error.injEq, eq_comm]
    exact (and_iff_left hstamp).symm
  · obtain ⟨t, ht, -, -⟩ := exists_tableWithin window hstamp
    rw [ht]
    refine ⟨fun h => ?_, fun h => absurd h.2 hstamp⟩
    cases h

end KlineRow

namespace QuoteSource

section Calls

variable {σ ι : Type} (source : QuoteSource σ ι) (conn : ι) (limit : Nat) (name : String)

/-- The reserved name is a field of a call, and a row that is received in the call carries it. -/
def ReceivesReserved (call : FetchCall) (s : σ) : Prop :=
  Table.stampName ∈ call.fields ∧
    ∃ row ∈ receivedRows (source.recorded.fetcher conn limit name call (s, [])).state.2,
      row.carries Table.stampName = true

/-- A call is refused with an error: it is that of the first page, or the reserved name is met. -/
def Refuses (call : FetchCall) (period : Period) (s : σ) (e : DataError) : Prop :=
  (source.page conn (firstRequest limit call period) s).1 = .error e ∨
    (e = .columnNames ∧ source.ReceivesReserved conn limit name call s)

variable {source conn limit name} {call : FetchCall} {period : Period} {s : σ} {e : DataError}

/-- There are no rows exactly when the first page fails. -/
theorem rows_eq_error_iff {r : KlineRequest} :
    (source.rows conn r s).result = .error e ↔ (source.page conn r s).1 = .error e := by
  rcases hpage : source.page conn r s with ⟨e' | p, s'⟩
  · simp only [rows_of_error hpage, Except.error.injEq]
  · refine ⟨fun h => ?_, nofun⟩
    cases hnext : p.next? with
    | none =>
      rw [rows_of_last hpage hnext] at h
      cases h
    | some key =>
      rw [rows_of_next hpage hnext] at h
      cases h

theorem fetcher_eq_error_iff (hperiod : Period.ofFrequency? call.frequency = some period) :
    (source.fetcher conn limit name call s).result = .error e ↔
      source.Refuses conn limit name call period s e := by
  rw [Refuses, ← rows_eq_error_iff, ReceivesReserved, fetcher_of_period hperiod,
    fetcher_of_period hperiod]
  obtain ⟨pages, hpages, -, -, hrows | ⟨e', hrows, hnone⟩⟩ :=
    source.exists_received conn (firstRequest limit call period) s
  · -- The rows that the table is made of are the received ones.
    rw [hpages, hrows, ← KlineRow.mem_columnNames]
    exact KlineRow.tableWithin_eq_error_iff.trans ⟨.inr, fun h => h.resolve_left nofun⟩
  · rw [hpages, hrows, hnone]
    change Except.error e' = Except.error e ↔ _
    rw [Except.error.injEq, Except.error.injEq]
    refine ⟨.inl, fun h => h.resolve_right ?_⟩
    rintro ⟨-, -, row, hrow, -⟩
    cases hrow

/-- There is a table when a first page has come, as long as the reserved name is not met. -/
theorem exists_fetcher_eq_ok_iff (hperiod : Period.ofFrequency? call.frequency = some period) :
    (∃ t, (source.fetcher conn limit name call s).result = .ok t) ↔
      (∃ p, (source.page conn (firstRequest limit call period) s).1 = .ok p) ∧
        ¬ source.ReceivesReserved conn limit name call s := by
  rw [exists_eq_ok_iff, exists_eq_ok_iff]
  simp only [ne_eq, fetcher_eq_error_iff hperiod, Refuses, not_or, not_and, forall_and, forall_eq]

/-- A row that carries the reserved name, and a closing price. -/
def stampedRow : KlineRow :=
  ⟨.startOf .newYear, [("close", some (.ofInt 10)), (Table.stampName, some (.ofInt 1))]⟩

/-- A source that has only this row for a code. -/
def stampedScript (code : String) : PageScript := [(code, [.ok ⟨[stampedRow], none⟩])]

theorem page_stampedScript (r : KlineRequest) :
    (PageScript.source none).page () r (stampedScript r.code) =
      (.ok ⟨[stampedRow], none⟩, [(r.code, [])]) := by
  simp [PageScript.source, PageScript.take, stampedScript]

theorem receivesReserved_stampedScript
    (hperiod : Period.ofFrequency? call.frequency = some period)
    (hstamp : Table.stampName ∈ call.fields) (limit : Nat) (name : String) :
    (PageScript.source none).ReceivesReserved () limit name call
      (stampedScript call.ticker.symbol) := by
  have hpage := (PageScript.source none).recorded_page
    (page_stampedScript (firstRequest limit call period)) []
  refine ⟨hstamp, stampedRow, ?_, by decide⟩
  rw [fetcher_of_period hperiod]
  exact (rows_of_last hpage rfl) ▸ List.mem_singleton_self _

/-- Only first pages refuse a call, whatever the source is, exactly when the reserved name is not one of its
fields. -/
theorem forall_fetcher_eq_error_iff (hperiod : Period.ofFrequency? call.frequency = some period) :
    (∀ {σ ι : Type} (source : QuoteSource σ ι) (conn : ι) (limit : Nat) (name : String) (s : σ)
      (e : DataError), (source.fetcher conn limit name call s).result = .error e ↔
        (source.page conn (firstRequest limit call period) s).1 = .error e) ↔
      Table.stampName ∉ call.fields := by
  constructor
  · intro h hstamp
    have hmet := receivesReserved_stampedScript hperiod hstamp 1 ""
    have herror := (h _ () 1 "" _ _).mp ((fetcher_eq_error_iff hperiod).mpr (.inr ⟨rfl, hmet⟩))
    have hpage := page_stampedScript (firstRequest 1 call period)
    cases (congrArg Prod.fst hpage).symm.trans herror
  · intro hstamp σ ι source conn limit name s e
    rw [fetcher_eq_error_iff hperiod]
    exact ⟨fun h => h.resolve_right fun hmet => hstamp hmet.2.1, .inl⟩

end Calls

/-- A call is refused with the error of its first page, or because the reserved name is met; in all other
cases there is a table. A plan ends with an error when one of its tickers is refused with it, after the
calls for the tickers before, unless the error is that of an unavailable source. For whatever source, only
first pages refuse a call exactly when the reserved name is not among the fields. -/
theorem refused_iff_first_page_fails {plan : Plan} {period : Period}
    (hperiod : Period.ofFrequency? plan.frequency = some period) :
    (∀ {σ ι : Type} (source : QuoteSource σ ι) (conn : ι) (limit : Nat) (name : String) (s : σ),
      (∀ ticker,
        (∀ e, (source.fetcher conn limit name (plan.call ticker) s).result = .error e ↔
          source.Refuses conn limit name (plan.call ticker) period s e) ∧
        ((∃ t, (source.fetcher conn limit name (plan.call ticker) s).result = .ok t) ↔
          (∃ p, (source.page conn (firstRequest limit (plan.call ticker) period) s).1 = .ok p) ∧
            ¬ source.ReceivesReserved conn limit name (plan.call ticker) s)) ∧
      ∀ e, (plan.gather (source.fetcher conn limit name) s).result = .error e ↔
        plan.window.isEmpty = false ∧ e.isPerTicker = false ∧
          ∃ earlier ticker later, distinctTickers plan.tickers = earlier ++ ticker :: later ∧
            (∃ tables, (plan.gatherFrom (source.fetcher conn limit name) earlier s).result =
              .ok tables) ∧
            source.Refuses conn limit name (plan.call ticker) period
              (plan.gatherFrom (source.fetcher conn limit name) earlier s).state e) ∧
    ∀ ticker, (∀ {σ ι : Type} (source : QuoteSource σ ι) (conn : ι) (limit : Nat) (name : String)
      (s : σ) (e : DataError),
      (source.fetcher conn limit name (plan.call ticker) s).result = .error e ↔
        (source.page conn (firstRequest limit (plan.call ticker) period) s).1 = .error e) ↔
      Table.stampName ∉ plan.fields := by
  have hcall : ∀ ticker, Period.ofFrequency? (plan.call ticker).frequency = some period :=
    fun _ => hperiod
  refine ⟨fun source conn limit name s => ⟨fun ticker => ⟨fun e => ?_, ?_⟩, fun e => ?_⟩,
    fun ticker => forall_fetcher_eq_error_iff (hcall ticker)⟩
  · exact fetcher_eq_error_iff (hcall ticker)
  · exact exists_fetcher_eq_ok_iff (hcall ticker)
  · cases hwindow : plan.window.isEmpty with
    | true =>
      rw [Plan.gather, if_pos hwindow]
      refine ⟨fun h => ?_, fun h => ?_⟩
      · cases h
      · cases h.1
    | false =>
      have hgather : plan.gather (source.fetcher conn limit name) s =
          plan.gatherFrom (source.fetcher conn limit name) (distinctTickers plan.tickers) s :=
        if_neg (Bool.eq_false_iff.mp hwindow)
      simp only [hgather, Plan.gatherFrom_eq_error_iff, FetchRecord.fatal?_eq_some_iff, Plan.record,
        fetcher_eq_error_iff (hcall _), true_and]
      constructor
      · rintro ⟨earlier, ticker, later, hsplit, htables, hrefused, he⟩
        exact ⟨he, earlier, ticker, later, hsplit, htables, hrefused⟩
      · rintro ⟨he, earlier, ticker, later, hsplit, htables, hrefused⟩
        exact ⟨earlier, ticker, later, hsplit, htables, hrefused, he⟩

/-- A plan for two tickers, whose fields are given. -/
def pairPlan (fields : List String) : Plan where
  tickers := [.stock "A", .stock "B"]
  fields := fields
  window := ⟨.startOf .newYear, .startOf .afterNewYear, false⟩
  frequency := .daily
  flags := ⟨false, false, false⟩

/-- A row carries the reserved name, but only the closing price is requested: there is a table for the first
ticker, and the second one, whose source is unavailable, does not end the plan. -/
theorem refused_iff_first_page_fails_pairPlan :
    Period.ofFrequency? (pairPlan ["close"]).frequency = some .day ∧
      (∃ t, ((PageScript.source none).fetcher () 10 "broker" ((pairPlan ["close"]).call (.stock "A"))
        (stampedScript "A")).result = .ok t) ∧
      ((PageScript.source none).fetcher () 10 "broker" ((pairPlan ["close"]).call (.stock "B"))
        (stampedScript "A")).result = .error (.sourceUnavailable "B" "unknown stock") ∧
      ∃ tables, ((pairPlan ["close"]).gather ((PageScript.source none).fetcher () 10 "broker")
        (stampedScript "A")).result = .ok tables := by
  have hperiod : Period.ofFrequency? (pairPlan ["close"]).frequency = some .day := rfl
  obtain ⟨hruns, -⟩ := refused_iff_first_page_fails hperiod
  obtain ⟨hcalls, hgather⟩ := hruns (PageScript.source none) () 10 "broker" (stampedScript "A")
  have hstamp : ∀ ticker s, ¬ (PageScript.source none).ReceivesReserved () 10 "broker"
      ((pairPlan ["close"]).call ticker) s := by
    rintro ticker s ⟨hmem, -⟩
    exact absurd (List.mem_singleton.mp hmem) (by decide)
  refine ⟨hperiod, (hcalls (.stock "A")).2.mpr ⟨⟨_, rfl⟩, hstamp _ _⟩,
    ((hcalls (.stock "B")).1 _).mpr (.inl rfl), exists_eq_ok_iff.mpr fun e herror => ?_⟩
  obtain ⟨-, he, earlier, ticker, later, hsplit, -, hpage | ⟨-, hmet⟩⟩ := (hgather e).mp herror
  · rcases earlier with _ | ⟨first, _ | ⟨second, more⟩⟩
    · cases hsplit
      cases hpage
    · cases hsplit
      cases hpage
      cases he
    · have hlength : 2 = (first :: second :: more ++ ticker :: later).length :=
        congrArg List.length hsplit
      simp only [List.length_append, List.length_cons] at hlength
      omega
  · exact hstamp _ _ hmet

/-- With the reserved name among the fields the call is refused although its first page has come, and the
plan ends with it. -/
theorem reserved_name_aborts :
    ((PageScript.source none).page () (firstRequest 10 ((pairPlan ["close", "timestamp"]).call
        (.stock "A")) .day) (stampedScript "A")).1 = .ok ⟨[stampedRow], none⟩ ∧
      ((PageScript.source none).fetcher () 10 "broker" ((pairPlan ["close", "timestamp"]).call
        (.stock "A")) (stampedScript "A")).result = .error .columnNames ∧
      ((pairPlan ["close", "timestamp"]).gather ((PageScript.source none).fetcher () 10 "broker")
        (stampedScript "A")).result = .error .columnNames :=
  ⟨rfl, rfl, rfl⟩

end QuoteSource

end MarketBars
