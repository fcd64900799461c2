import MarketBars.Proofs.Disclosure.Cut
import MarketBars.Proofs.Pipeline.Pricing
import MarketBars.Proofs.Quote.Received
import MarketBars.Proofs.Quote.Sessions

/-!
# What is not observable makes no difference

A quote source may send rows of the future, in any page and in any number. Two sources that differ in
such rows only are told apart by nothing that a request can show, unless it looks ahead: the rows travel
through the pages, they may carry fields that no other row carries, they may be repeated, and still the
answers are one.
-/

namespace MarketBars

/-- What a page discloses by an instant: the rows stamped up to it, and the key of the next page. -/
def KlinePage.disclosedBy (last : Instant) (p : KlinePage) : KlinePage :=
  ⟨p.rows.filter (KlineRow.isDisclosedBy last), p.next?⟩

namespace QuoteSource

variable {σ ι : Type} {source₁ source₂ : QuoteSource σ ι} {states : σ → σ → Prop} {last : Instant}

/-- Two sources disclose the same by an instant: from related states they open the same connection or
fail with the same error, and pages either fail with the same error or have the same key and the same
rows up to the instant. What is left of them has related states again. -/
structure Alike (last : Instant) (states : σ → σ → Prop) (source₁ source₂ : QuoteSource σ ι) :
    Prop where
  connect : ∀ s₁ s₂, states s₁ s₂ → (source₁.connect s₁).1 = (source₂.connect s₂).1 ∧
    states (source₁.connect s₁).2 (source₂.connect s₂).2
  page : ∀ conn r s₁ s₂, states s₁ s₂ →
    (source₁.page conn r s₁).1.map (KlinePage.disclosedBy last) =
        (source₂.page conn r s₂).1.map (KlinePage.disclosedBy last) ∧
      states (source₁.page conn r s₁).2 (source₂.page conn r s₂).2

/-- In some states, two sources disclose the same by an instant from then on. -/
def DiscloseSame (last : Instant) (source₁ : QuoteSource σ ι) (s₁ : σ) (source₂ : QuoteSource σ ι)
    (s₂ : σ) : Prop :=
  ∃ states : σ → σ → Prop, source₁.Alike last states source₂ ∧ states s₁ s₂

namespace Alike

theorem page_of_error (h : Alike last states source₁ source₂) {conn : ι} {r : KlineRequest}
    {s₁ s₂ s₁' : σ} {e : DataError} (hs : states s₁ s₂)
    (hpage : source₁.page conn r s₁ = (.error e, s₁')) :
    ∃ s₂', source₂.page conn r s₂ = (.error e, s₂') ∧ states s₁' s₂' := by
  obtain ⟨hanswer, hstates⟩ := h.page conn r s₁ s₂ hs
  cases hpage' : source₂.page conn r s₂ with
  | mk answer s₂' =>
    rw [hpage, hpage'] at hanswer hstates
    cases answer with
    | error e' =>
      cases hanswer
      exact ⟨s₂', rfl, hstates⟩
    | ok p => cases hanswer

/-- Where there is one page, there is another that discloses the same. -/
theorem page_of_ok (h : Alike last states source₁ source₂) {conn : ι} {r : KlineRequest}
    {s₁ s₂ s₁' : σ} {p₁ : KlinePage} (hs : states s₁ s₂)
    (hpage : source₁.page conn r s₁ = (.ok p₁, s₁')) :
    ∃ p₂ s₂', source₂.page conn r s₂ = (.ok p₂, s₂') ∧
      p₁.rows.filter (KlineRow.isDisclosedBy last) = p₂.rows.filter (KlineRow.isDisclosedBy last) ∧
      p₁.next? = p₂.next? ∧ states s₁' s₂' := by
  obtain ⟨hanswer, hstates⟩ := h.page conn r s₁ s₂ hs
  cases hpage' : source₂.page conn r s₂ with
  | mk answer s₂' =>
    rw [hpage, hpage'] at hanswer hstates
    cases answer with
    | error e => cases hanswer
    | ok p₂ =>
      obtain ⟨hrows, hkey⟩ := KlinePage.mk.inj (Except.ok.inj hanswer)
      exact ⟨p₂, s₂', rfl, hrows, hkey, hstates⟩

/-- The later pages disclose the same, page by page. -/
theorem rowsFrom (h : Alike last states source₁ source₂) (conn : ι) (page : Nat) (r : KlineRequest)
    (s₁ s₂ : σ) (hs : states s₁ s₂) :
    (source₁.rowsFrom conn page r s₁).result.filter (KlineRow.isDisclosedBy last) =
        (source₂.rowsFrom conn page r s₂).result.filter (KlineRow.isDisclosedBy last) ∧
      states (source₁.rowsFrom conn page r s₁).state (source₂.rowsFrom conn page r s₂).state := by
  -- The pages of the first source come to an end; those of the second one follow them.
  induction page, r, s₁ using rowsFrom.induct source₁ conn generalizing s₂ with
  | case1 page r s₁ e s₁' hpage =>
    obtain ⟨s₂', hpage', hstates⟩ := h.page_of_error hs hpage
    rw [rowsFrom_of_error hpage, rowsFrom_of_error hpage']
    exact ⟨rfl, hstates⟩
  | case2 page r s₁ p₁ s₁' hpage hnext =>
    obtain ⟨p₂, s₂', hpage', hrows, hkey, hstates⟩ := h.page_of_ok hs hpage
    rw [rowsFrom_of_last hpage hnext, rowsFrom_of_last hpage' (hkey.symm.trans hnext)]
    exact ⟨hrows, hstates⟩
  | case3 page r s₁ p₁ s₁' hpage key hnext ih =>
    obtain ⟨p₂, s₂', hpage', hrows, hkey, hstates⟩ := h.page_of_ok hs hpage
    obtain ⟨hmore, hstates'⟩ := ih s₂' hstates
    rw [rowsFrom_of_next hpage hnext, rowsFrom_of_next hpage' (hkey.symm.trans hnext)]
    refine ⟨?_, hstates'⟩
    rw [List.filter_append, List.filter_append, hrows, hmore]

/-- The rows of a request disclose the same, or there are none for the same reason. -/
theorem rows (h : Alike last states source₁ source₂) (conn : ι) (r : KlineRequest) {s₁ s₂ : σ}
    (hs : states s₁ s₂) :
    (source₁.rows conn r s₁).result.map (List.filter (KlineRow.isDisclosedBy last)) =
        (source₂.rows conn r s₂).result.map (List.filter (KlineRow.isDisclosedBy last)) ∧
      states (source₁.rows conn r s₁).state (source₂.rows conn r s₂).state := by
  rw [QuoteSource.rows, QuoteSource.rows]
  cases hpage : source₁.page conn r s₁ with
  | mk answer s₁' =>
    cases answer with
    | error e =>
      obtain ⟨s₂', hpage', hstates⟩ := h.page_of_error hs hpage
      rw [hpage']
      exact ⟨rfl, hstates⟩
    | ok p₁ =>
      obtain ⟨p₂, s₂', hpage', hrows, hkey, hstates⟩ := h.page_of_ok hs hpage
      rw [hpage']
      simp only [← hkey]
      cases hnext : p₁.next? with
      | none => exact ⟨congrArg Except.ok hrows, hstates⟩
      | some key =>
        obtain ⟨hmore, hstates'⟩ := h.rowsFrom conn 1 (r.continued key) s₁' s₂' hstates
        refine ⟨congrArg Except.ok ?_, hstates'⟩
        rw [List.filter_append, List.filter_append, hrows, hmore]

/-- The tables of a call show the same of the requested fields when its window ends by the instant. -/
theorem fetcher (h : Alike last states source₁ source₂) (conn : ι) (limit : Nat) (name : String)
    (call : FetchCall) (hstamp : Table.stampName ∉ call.fields)
    (hstop : call.window.stop.millis ≤ last.millis) {s₁ s₂ : σ} (hs : states s₁ s₂) :
    (source₁.fetcher conn limit name call s₁).result.map (Table.view id call.fields) =
        (source₂.fetcher conn limit name call s₂).result.map (Table.view id call.fields) ∧
      states (source₁.fetcher conn limit name call s₁).state
        (source₂.fetcher conn limit name call s₂).state := by
  rw [QuoteSource.fetcher, QuoteSource.fetcher]
  cases Period.ofFrequency? call.frequency with
  | none => exact ⟨rfl, hs⟩
  | some period =>
    obtain ⟨hrows, hstates⟩ := h.rows conn (firstRequest limit call period) hs
    refine ⟨?_, hstates⟩
    -- Of the rows only the disclosed ones are seen, so the tables are compared by these.
    have hview : ∀ source : QuoteSource σ ι, ∀ s,
        Except.map (Table.view id call.fields) (do
          let table ← KlineRow.table
            (← (source.rows conn (firstRequest limit call period) s).result) call.fields
          pure (table.dedupFirst.within call.window.start call.window.stop)) =
        ((source.rows conn (firstRequest limit call period) s).result.map
          (List.filter (KlineRow.isDisclosedBy last))).map fun rows =>
            KlineRow.view call.fields (KlineRow.arranged call.window.start call.window.stop rows) := by
      intro source s
      cases (source.rows conn (firstRequest limit call period) s).result with
      | error e => rfl
      | ok rows =>
        obtain ⟨t, ht, hshown⟩ := KlineRow.exists_table hstamp rows call.window.start call.window.stop
        have hfilter := @KlineRow.arranged_filter call.window.start _ _ hstop rows
        simp only [Except.map, bind, Except.bind, ht, pure, Except.pure, hshown, hfilter]
    exact (hview source₁ s₁).trans ((congrArg _ hrows).trans (hview source₂ s₂).symm)

/-- A plan whose window ends by the instant has one answer from both sources. -/
theorem run (h : Alike last states source₁ source₂) (conn : ι) (limit : Nat) (name : String)
    {plan : Plan} (hwindow : plan.window.isEmpty = false) (hstamp : Table.stampName ∉ plan.fields)
    (hstop : plan.window.stop.millis ≤ last.millis) {s₁ s₂ : σ} (hs : states s₁ s₂) :
    (plan.run (source₁.fetcher conn limit name) s₁).result =
      (plan.run (source₂.fetcher conn limit name) s₂).result := by
  have hfields : plan.fields = plan.fields.map id := (List.map_id _).symm
  have hfetch : ∀ ticker s₁ s₂, states s₁ s₂ →
      (source₁.fetcher conn limit name (plan.call ticker) s₁).result.map (Table.view id plan.fields) =
          (source₂.fetcher conn limit name (plan.call ticker) s₂).result.map
            (Table.view id plan.fields) ∧
        states (source₁.fetcher conn limit name (plan.call ticker) s₁).state
          (source₂.fetcher conn limit name (plan.call ticker) s₂).state := by
    intro ticker s₁ s₂ hs
    exact h.fetcher conn limit name (plan.call ticker) hstamp hstop hs
  have hreplies := Plan.mapReplies_replies_congr hfetch (distinctTickers plan.tickers) hs
  rw [Plan.run_eq_answerTo hwindow hfields, Plan.run_eq_answerTo hwindow hfields, hreplies]

end Alike

end QuoteSource

namespace PageScript

variable {last : Instant}

/-- The same script, of which every page is cut to what it discloses by an instant. -/
def disclosedBy (last : Instant) (script : PageScript) : PageScript :=
  script.map fun entry => (entry.1, entry.2.map (Except.map (KlinePage.disclosedBy last)))

theorem take_disclosedBy (code : String) (script : PageScript) :
    take code (script.disclosedBy last) =
      ((take code script).1.map (KlinePage.disclosedBy last), (take code script).2.disclosedBy last) := by
  induction script with
  | nil => rfl
  | cons entry rest ih =>
    obtain ⟨c, pages⟩ := entry
    have hcons : disclosedBy last ((c, pages) :: rest) =
        (c, pages.map (Except.map (KlinePage.disclosedBy last))) :: disclosedBy last rest := rfl
    rw [hcons, take, take]
    by_cases hcode : c = code
    · rw [if_pos hcode, if_pos hcode]
      cases pages <;> rfl
    · rw [if_neg hcode, if_neg hcode, ih]
      rfl

theorem alike (connectError? : Option DataError) :
    (source connectError?).Alike last (fun s₁ s₂ => s₁.disclosedBy last = s₂.disclosedBy last)
      (source connectError?) where
  connect s₁ s₂ hs := by
    cases connectError? <;> exact ⟨rfl, hs⟩
  page _ r s₁ s₂ hs := by
    have htake := congrArg (take r.code) hs
    rw [take_disclosedBy, take_disclosedBy] at htake
    exact Prod.mk.inj htake

/-- Scripts that are equal once their pages are cut disclose the same. -/
theorem discloseSame (connectError? : Option DataError) {script₁ script₂ : PageScript}
    (h : script₁.disclosedBy last = script₂.disclosedBy last) :
    (source connectError?).DiscloseSame last script₁ (source connectError?) script₂ :=
  ⟨_, alike connectError?, h⟩

end PageScript

namespace Broker

variable {σ ι : Type} {source₁ source₂ : QuoteSource σ ι} {states : σ → σ → Prop} {last : Instant}

theorem runConnected_eq (b : Broker) (h : source₁.Alike last states source₂) (plan : Plan)
    (hwindow : plan.window.isEmpty = false) (hstamp : Table.stampName ∉ plan.fields)
    (hstop : plan.window.stop.millis ≤ last.millis) {s₁ s₂ : σ} (hs : states s₁ s₂) :
    (b.runConnected source₁ plan s₁).result = (b.runConnected source₂ plan s₂).result := by
  obtain ⟨hanswer, hstates⟩ := h.connect s₁ s₂ hs
  rw [runConnected, runConnected]
  cases hconnect₁ : source₁.connect s₁ with
  | mk answer₁ s₁' =>
    cases hconnect₂ : source₂.connect s₂ with
    | mk answer₂ s₂' =>
      rw [hconnect₁, hconnect₂] at hanswer hstates
      cases hanswer
      cases answer₁ with
      | error e => rfl
      | ok conn => exact h.run conn (max 1 b.pageSize) name hwindow hstamp hstop hstates

/-- A request that does not look ahead has one answer from sources that disclose the same. -/
theorem history_eq (b : Broker) {r : HistoryRequest} (hlook : r.lookAhead = false)
    (hstamp : Table.stampName ∉ r.columns)
    {s₁ s₂ : σ}
    (h : ∀ last, Disclosure.lastObservable? b.clock (r.frequency?.getD b.frequency) = some last →
      source₁.DiscloseSame last s₁ source₂ s₂) :
    (b.history source₁ r s₁).result = (b.history source₂ r s₂).result := by
  rcases b.history_cases r with ⟨result, hresult⟩ | ⟨window, hwindow, hempty, hrun⟩
  · rw [hresult, hresult]
  · rw [hlook] at hwindow
    obtain ⟨last, hlast, hstop⟩ := Window.millis_stop_le hwindow
    obtain ⟨states, halike, hs⟩ := h last hlast
    rw [hrun, hrun]
    refine congrArg liftError (b.runConnected_eq halike _ ?_ ?_ ?_ hs)
    · exact hempty
    · exact hstamp
    · exact hstop

theorem stampName_not_mem_columns (r : PriceRequest) :
    Table.stampName ∉ (r.toHistory (PriceMap.identity PriceField.all)).columns := by
  intro hmem
  rw [r.columns_toHistory] at hmem
  obtain ⟨field, -, hfield⟩ := List.mem_map.mp hmem
  rw [PriceMap.column_identity] at hfield
  exact field.name_ne_stampName hfield

/-- A source may send any rows after the last observable instant, in any page: no request that does not
look ahead is answered differently, be it for columns or for price fields. -/
theorem answers_eq_of_discloseSame (b : Broker) (frequency? : Option Frequency) {s₁ s₂ : σ}
    (h : ∀ last, Disclosure.lastObservable? b.clock (frequency?.getD b.frequency) = some last →
      source₁.DiscloseSame last s₁ source₂ s₂) :
    (∀ r : HistoryRequest, r.frequency? = frequency? → r.lookAhead = false →
      Table.stampName ∉ r.columns →
        (b.history source₁ r s₁).result = (b.history source₂ r s₂).result) ∧
    ∀ r : PriceRequest, r.frequency? = frequency? → r.lookAhead = false →
      ((b.provider source₁).price r s₁).result = ((b.provider source₂).price r s₂).result := by
  constructor
  · rintro r rfl hlook hstamp
    exact b.history_eq hlook hstamp h
  · rintro r rfl hlook
    have hhistory := b.history_eq (r := r.toHistory (PriceMap.identity PriceField.all)) hlook
      (stampName_not_mem_columns r) h
    rw [Provider.price_eq_labelled rfl, Provider.price_eq_labelled rfl]
    exact congrArg r.labelled hhistory

/-- A broker at noon of the second of January 2025, when the bar of the first is the last one. -/
def noonBroker : Broker where
  clock := ⟨⟨.afterNewYear, .ofSecond 43200 (by decide)⟩, .usual⟩

/-- The bar of the first of January. -/
def newYearRow : KlineRow :=
  ⟨.startOf .newYear, [("close", some (.ofInt 10))]⟩

/-- The bar of the second of January, with a field of its own. -/
def futureRow : KlineRow :=
  ⟨.startOf .afterNewYear, [("close", some (.ofInt 99)), ("rumour", some (.ofInt 1))]⟩

/-- A source that sends what may be known, in two pages. -/
def discreetScript : PageScript :=
  [("A", [.ok ⟨[newYearRow], some "next"⟩, .ok ⟨[], none⟩])]

/-- A source that sends the future before and after what may be known. -/
def indiscreetScript : PageScript :=
  [("A", [.ok ⟨[futureRow, newYearRow], some "next"⟩, .ok ⟨[futureRow], none⟩])]

/-- A request for two columns up to the present. -/
def rumourRequest : HistoryRequest where
  tickers := .one (.stock "A")
  fields := .many [.native "rumour", .native "close"]
  start := .startOf ⟨20085, by decide, by decide⟩

/-- The two sources differ, but they are not told apart. -/
theorem answers_eq_noonBroker :
    discreetScript ≠ indiscreetScript ∧
      (noonBroker.history (PageScript.source none) rumourRequest discreetScript).result =
        (noonBroker.history (PageScript.source none) rumourRequest indiscreetScript).result := by
  refine ⟨by simp [discreetScript, indiscreetScript], ?_⟩
  refine (answers_eq_of_discloseSame noonBroker none ?_).1 rumourRequest rfl rfl (by decide)
  intro last hlast
  have heve : Disclosure.lastObservable? noonBroker.clock .daily =
      some ⟨.newYear, .lastSecond⟩ := by decide
  cases heve.symm.trans hlast
  exact PageScript.discloseSame none rfl

end Broker

end MarketBars
