import MarketBars.Proofs.Calendar.Order
import MarketBars.Proofs.Pipeline.Observation
import MarketBars.Quote.Paging

/-!
# Following the keys of pages

The pages of a request are asked for one after the other: the first without a key, every other one with
the key of the page before it, and otherwise with the same request. The page that has no key is the
last one, and so is one that fails. A source that keeps a list of its pages shows that nothing else is
asked for.
-/

namespace MarketBars

namespace QuoteSource

variable {σ τ ι : Type} {source : QuoteSource σ ι}

theorem rowsFrom_of_error {conn : ι} {r : KlineRequest} {s s' : σ} {e : DataError}
    (h : source.page conn r s = (.error e, s')) (page : Nat) :
    source.rowsFrom conn page r s = ⟨[], [.pageFailed r.code page e.message], s'⟩ := by
  rw [QuoteSource.rowsFrom]
  split
  · rename_i h'
    cases h.symm.trans h'
    rfl
  · rename_i h'
    cases h.symm.trans h'

theorem rowsFrom_of_last {conn : ι} {r : KlineRequest} {s s' : σ} {p : KlinePage}
    (h : source.page conn r s = (.ok p, s')) (hnext : p.next? = none) (page : Nat) :
    source.rowsFrom conn page r s = ⟨p.rows, [], s'⟩ := by
  rw [QuoteSource.rowsFrom]
  split
  · rename_i h'
    cases h.symm.trans h'
  · rename_i h'
    cases h.symm.trans h'
    split
    · rfl
    · rename_i hkey
      cases hnext.symm.trans hkey

theorem rowsFrom_of_next {conn : ι} {r : KlineRequest} {s s' : σ} {p : KlinePage} {key : String}
    (h : source.page conn r s = (.ok p, s')) (hnext : p.next? = some key) (page : Nat) :
    source.rowsFrom conn page r s =
      { source.rowsFrom conn (page + 1) (r.continued key) s' with
        result := p.rows ++ (source.rowsFrom conn (page + 1) (r.continued key) s').result } := by
  rw [QuoteSource.rowsFrom]
  split
  · rename_i h'
    cases h.symm.trans h'
  · rename_i h'
    cases h.symm.trans h'
    split
    · rename_i hkey
      cases hnext.symm.trans hkey
    · rename_i key' hkey
      cases hnext.symm.trans hkey
      rfl

theorem rows_of_error {conn : ι} {r : KlineRequest} {s s' : σ} {e : DataError}
    (h : source.page conn r s = (.error e, s')) : source.rows conn r s = ⟨.error e, [], s'⟩ := by
  rw [QuoteSource.rows, h]

theorem rows_of_last {conn : ι} {r : KlineRequest} {s s' : σ} {p : KlinePage}
    (h : source.page conn r s = (.ok p, s')) (hnext : p.next? = none) :
    source.rows conn r s = ⟨.ok p.rows, [], s'⟩ := by
  simp only [QuoteSource.rows, h, hnext]

theorem rows_of_next {conn : ι} {r : KlineRequest} {s s' : σ} {p : KlinePage} {key : String}
    (h : source.page conn r s = (.ok p, s')) (hnext : p.next? = some key) :
    source.rows conn r s =
      { source.rowsFrom conn 1 (r.continued key) s' with
        result := .ok (p.rows ++ (source.rowsFrom conn 1 (r.continued key) s').result) } := by
  simp only [QuoteSource.rows, h, hnext]

/-- A quote source behaves like another one, as far as a view of its states tells. -/
structure Mirrors (view : τ → σ) (outer : QuoteSource τ ι) (inner : QuoteSource σ ι) : Prop where
  connect : ∀ t, inner.connect (view t) = ((outer.connect t).1, view (outer.connect t).2)
  page : ∀ conn r t,
    inner.page conn r (view t) = ((outer.page conn r t).1, view (outer.page conn r t).2)
  close : ∀ conn t, inner.close conn (view t) = view (outer.close conn t)

namespace Mirrors

variable {view : τ → σ} {outer : QuoteSource τ ι} {inner : QuoteSource σ ι}

theorem page_of_eq (h : outer.Mirrors view inner) {conn : ι} {r : KlineRequest} {t t' : τ}
    {answer : Except DataError KlinePage} (hpage : outer.page conn r t = (answer, t')) :
    inner.page conn r (view t) = (answer, view t') := by
  rw [h.page, hpage]

theorem rowsFrom (h : outer.Mirrors view inner) (conn : ι) (page : Nat) (r : KlineRequest) (t : τ) :
    inner.rowsFrom conn page r (view t) = (outer.rowsFrom conn page r t).seen view := by
  -- Both sources use up the pages of the outer one, whose budget carries the induction.
  induction page, r, t using rowsFrom.induct outer conn with
  | case1 page r t e t' hpage =>
    rw [rowsFrom_of_error hpage, rowsFrom_of_error (h.page_of_eq hpage)]
    rfl
  | case2 page r t p t' hpage hnext =>
    rw [rowsFrom_of_last hpage hnext, rowsFrom_of_last (h.page_of_eq hpage) hnext]
    rfl
  | case3 page r t p t' hpage key hnext ih =>
    rw [rowsFrom_of_next hpage hnext, rowsFrom_of_next (h.page_of_eq hpage) hnext, ih]
    rfl

theorem rows (h : outer.Mirrors view inner) (conn : ι) (r : KlineRequest) (t : τ) :
    inner.rows conn r (view t) = (outer.rows conn r t).seen view := by
  rcases hpage : outer.page conn r t with ⟨e | p, t'⟩
  · rw [rows_of_error hpage, rows_of_error (h.page_of_eq hpage)]
    rfl
  · cases hnext : p.next? with
    | none =>
      rw [rows_of_last hpage hnext, rows_of_last (h.page_of_eq hpage) hnext]
      rfl
    | some key =>
      rw [rows_of_next hpage hnext, rows_of_next (h.page_of_eq hpage) hnext, h.rowsFrom]
      rfl

/-- Sources that behave alike give the same tables. -/
theorem fetcher (h : outer.Mirrors view inner) (conn : ι) (limit : Nat) (name : String) :
    (outer.fetcher conn limit name).Mirrors view (inner.fetcher conn limit name) := by
  intro call t
  rw [QuoteSource.fetcher, QuoteSource.fetcher]
  cases Period.ofFrequency? call.frequency with
  | none => rfl
  | some period => simp only [h.rows, Run.seen]

end Mirrors

end QuoteSource

/-- A page that was asked for, and the answer. -/
structure PageExchange where
  request : KlineRequest
  answer : Except DataError KlinePage

/-- The rows of an answer; there are none in a failure. -/
def KlinePage.rowsOf : Except DataError KlinePage → List KlineRow
  | .ok page => page.rows
  | .error _ => []

/-- The rows that were received, in order of arrival. -/
def receivedRows (log : List PageExchange) : List KlineRow :=
  (log.map PageExchange.answer).flatMap KlinePage.rowsOf

/-- The table of received rows: one row for each timestamp, inside a window. -/
def KlineRow.tableWithin (fields : List String) (window : Window) (rows : List KlineRow) :
    Except DataError Table := do
  let table ← KlineRow.table rows fields
  pure (table.dedupFirst.within window.start window.stop)

namespace QuoteSource

variable {σ ι : Type}

/-- The same source, which keeps a list of the pages that it was asked for. -/
def recorded (source : QuoteSource σ ι) : QuoteSource (σ × List PageExchange) ι where
  connect := fun (s, log) => ((source.connect s).1, (source.connect s).2, log)
  page := fun conn r (s, log) =>
    let (answer, s') := source.page conn r s
    (answer, s', log ++ [⟨r, answer⟩])
  close := fun conn (s, log) => (source.close conn s, log)
  budget := fun conn r (s, _) => source.budget conn r s
  budget_lt := by
    intro conn r s p s' key h hk
    simp only [Prod.mk.injEq] at h
    exact source.budget_lt conn r s.1 p s'.1 key (Prod.ext h.1 (congrArg Prod.fst h.2)) hk

variable (source : QuoteSource σ ι)

theorem recorded_mirrors : source.recorded.Mirrors Prod.fst source :=
  ⟨fun _ => rfl, fun _ _ _ => rfl, fun _ _ => rfl⟩

theorem recorded_page {conn : ι} {r : KlineRequest} {s s' : σ} {answer : Except DataError KlinePage}
    (h : source.page conn r s = (answer, s')) (log : List PageExchange) :
    source.recorded.page conn r (s, log) = (answer, s', log ++ [⟨r, answer⟩]) := by
  simp only [recorded, h]

theorem fetcher_of_none {source : QuoteSource σ ι} {call : FetchCall}
    (hperiod : Period.ofFrequency? call.frequency = none) {conn : ι} {limit : Nat} {name : String}
    {s : σ} : source.fetcher conn limit name call s =
      ⟨.error (.unsupportedFrequency name call.frequency), [], s⟩ := by
  rw [fetcher, hperiod]

/-- The rows of a call make its table. -/
theorem fetcher_of_period {source : QuoteSource σ ι} {call : FetchCall} {period : Period}
    (hperiod : Period.ofFrequency? call.frequency = some period) {conn : ι} {limit : Nat}
    {name : String} {s : σ} : source.fetcher conn limit name call s =
      { source.rows conn (firstRequest limit call period) s with
        result := (source.rows conn (firstRequest limit call period) s).result.bind
          (KlineRow.tableWithin call.fields call.window) } := by
  rw [fetcher, hperiod]
  rfl

/-- Exchanges follow the keys of pages from a request on: every page that has a key is followed by the
one that the key leads to, and the last answer is an error or a page without a key. -/
structure FollowsKeys (first : KlineRequest) (log : List PageExchange) (pages : List KlinePage)
    (final : Except DataError KlinePage) : Prop where
  requests : log.map PageExchange.request =
    first :: pages.map fun page => { first with pageKey? := page.next? }
  answers : log.map PageExchange.answer = pages.map .ok ++ [final]
  continued : ∀ page ∈ pages, page.next? ≠ none
  ends : ∀ page, final = .ok page → page.next? = none

namespace FollowsKeys

theorem single {first : KlineRequest} {final : Except DataError KlinePage}
    (h : ∀ page, final = .ok page → page.next? = none) :
    FollowsKeys first [⟨first, final⟩] [] final :=
  ⟨rfl, rfl, by simp, h⟩

theorem cons {first : KlineRequest} {log : List PageExchange} {pages : List KlinePage}
    {final : Except DataError KlinePage} {page : KlinePage} {key : String}
    (hnext : page.next? = some key) (h : FollowsKeys (first.continued key) log pages final) :
    FollowsKeys first (⟨first, .ok page⟩ :: log) (page :: pages) final := by
  refine ⟨?_, ?_, ?_, h.ends⟩
  · rw [List.map_cons, h.requests, List.map_cons, hnext]
    rfl
  · rw [List.map_cons, h.answers]
    rfl
  · intro p hp
    rcases List.mem_cons.mp hp with rfl | hp
    · rw [hnext]
      exact Option.some_ne_none key
    · exact h.continued p hp

/-- The rows received in the exchanges are those of the pages. -/
theorem receivedRows_eq {first : KlineRequest} {log : List PageExchange} {pages : List KlinePage}
    {final : Except DataError KlinePage} (h : FollowsKeys first log pages final) :
    receivedRows log = pages.flatMap KlinePage.rows ++ KlinePage.rowsOf final := by
  rw [receivedRows, h.answers, List.flatMap_append, List.flatMap_map, List.flatMap_singleton]
  rfl

end FollowsKeys

/-- The pages after the first one, counted from a number on. -/
theorem exists_pages_from (conn : ι) (page : Nat) (r : KlineRequest) (s : σ)
    (earlier : List PageExchange) :
    ∃ log pages final, FollowsKeys r log pages final ∧
      (source.recorded.rowsFrom conn page r (s, earlier)).state.2 = earlier ++ log ∧
      (source.rowsFrom conn page r s).result = receivedRows log ∧
      (∀ last, final = .ok last → (source.rowsFrom conn page r s).diagnostics = []) ∧
      ∀ e, final = .error e → (source.rowsFrom conn page r s).diagnostics =
        [.pageFailed r.code (page + pages.length) e.message] := by
  -- The list grows at its end, so what is said of the later pages is said for every earlier list.
  induction page, r, s using rowsFrom.induct source conn generalizing earlier with
  | case1 page r s e s' hpage =>
    refine ⟨[⟨r, .error e⟩], [], .error e, .single nofun, ?_, ?_, nofun, ?_⟩
    · rw [rowsFrom_of_error (source.recorded_page hpage earlier)]
    · rw [rowsFrom_of_error hpage]
      rfl
    · rintro e' ⟨⟩
      rw [rowsFrom_of_error hpage]
      rfl
  | case2 page r s p s' hpage hnext =>
    refine ⟨[⟨r, .ok p⟩], [], .ok p, .single ?_, ?_, ?_, ?_, nofun⟩
    · rintro p' ⟨⟩
      exact hnext
    · rw [rowsFrom_of_last (source.recorded_page hpage earlier) hnext]
    · rw [rowsFrom_of_last hpage hnext]
      exact (List.append_nil _).symm
    · intro _ _
      rw [rowsFrom_of_last hpage hnext]
  | case3 page r s p s' hpage key hnext ih =>
    obtain ⟨log, pages, final, hfollows, hlog, hrows, hok, herror⟩ := ih (earlier ++ [⟨r, .ok p⟩])
    refine ⟨⟨r, .ok p⟩ :: log, p :: pages, final, hfollows.cons hnext, ?_, ?_, ?_, ?_⟩
    · rw [rowsFrom_of_next (source.recorded_page hpage earlier) hnext]
      exact hlog.trans (List.append_assoc _ _ _)
    · rw [rowsFrom_of_next hpage hnext, hrows]
      rfl
    · intro last hlast
      rw [rowsFrom_of_next hpage hnext]
      exact hok last hlast
    · intro e he
      rw [rowsFrom_of_next hpage hnext]
      have hcount : page + 1 + pages.length = page + (p :: pages).length := by
        rw [List.length_cons]
        omega
      exact (herror e he).trans (by rw [hcount]; rfl)

/-- The pages of a request, from the first one on. -/
theorem exists_pages (conn : ι) (r : KlineRequest) (s : σ) (earlier : List PageExchange) :
    ∃ log pages final, FollowsKeys r log pages final ∧
      (source.recorded.rows conn r (s, earlier)).state.2 = earlier ++ log ∧
      (∀ last, final = .ok last → (source.rows conn r s).diagnostics = [] ∧
        (source.rows conn r s).result = .ok (receivedRows log)) ∧
      ∀ e, final = .error e →
        (pages = [] → (source.rows conn r s).diagnostics = [] ∧
          (source.rows conn r s).result = .error e) ∧
        (pages ≠ [] → (source.rows conn r s).diagnostics =
            [.pageFailed r.code pages.length e.message] ∧
          (source.rows conn r s).result = .ok (receivedRows log)) := by
  rcases hpage : source.page conn r s with ⟨e | p, s'⟩
  · refine ⟨[⟨r, .error e⟩], [], .error e, .single nofun, ?_, nofun, ?_⟩
    · rw [rows_of_error (source.recorded_page hpage earlier)]
    · rintro e' ⟨⟩
      rw [rows_of_error hpage]
      exact ⟨fun _ => ⟨rfl, rfl⟩, fun h => absurd rfl h⟩
  · cases hnext : p.next? with
    | none =>
      refine ⟨[⟨r, .ok p⟩], [], .ok p, .single ?_, ?_, ?_, nofun⟩
      · rintro p' ⟨⟩
        exact hnext
      · rw [rows_of_last (source.recorded_page hpage earlier) hnext]
      · intro _ _
        rw [rows_of_last hpage hnext]
        exact ⟨rfl, congrArg Except.ok (List.append_nil _).symm⟩
    | some key =>
      obtain ⟨log, pages, final, hfollows, hlog, hrows, hok, herror⟩ :=
        source.exists_pages_from conn 1 (r.continued key) s' (earlier ++ [⟨r, .ok p⟩])
      have hkept := congrArg (fun rows => Except.ok (ε := DataError) (p.rows ++ rows)) hrows
      refine ⟨⟨r, .ok p⟩ :: log, p :: pages, final, hfollows.cons hnext, ?_, ?_, ?_⟩
      · rw [rows_of_next (source.recorded_page hpage earlier) hnext]
        exact hlog.trans (List.append_assoc _ _ _)
      · intro last hlast
        rw [rows_of_next hpage hnext]
        exact ⟨hok last hlast, hkept⟩
      · intro e he
        rw [rows_of_next hpage hnext]
        refine ⟨nofun, fun _ => ⟨?_, hkept⟩⟩
        have hcount : 1 + pages.length = (p :: pages).length := by
          rw [List.length_cons]
          omega
        exact (herror e he).trans (by rw [hcount]; rfl)

/-- What is received for a request is for its code, and so is what is noted. -/
theorem exists_received (conn : ι) (r : KlineRequest) (s : σ) :
    ∃ pages, (source.recorded.rows conn r (s, [])).state.2 = pages ∧
      (∀ x ∈ pages, x.request.code = r.code) ∧
      (∀ note ∈ (source.rows conn r s).diagnostics, note.ticker = r.code) ∧
      ((source.rows conn r s).result = .ok (receivedRows pages) ∨
        ∃ e, (source.rows conn r s).result = .error e ∧ receivedRows pages = []) := by
  obtain ⟨log, pages, final, hfollows, hlog, hok, herror⟩ := source.exists_pages conn r s []
  refine ⟨log, hlog, ?_, ?_⟩
  · intro x hx
    have hmem := List.mem_map_of_mem (f := PageExchange.request) hx
    rw [hfollows.requests, List.mem_cons, List.mem_map] at hmem
    rcases hmem with hfirst | ⟨page, -, hnext⟩
    · rw [hfirst]
    · rw [← hnext]
  · cases final with
    | ok page =>
      obtain ⟨hnotes, hresult⟩ := hok page rfl
      rw [hnotes, hresult]
      exact ⟨List.forall_mem_nil _, .inl rfl⟩
    | error e =>
      by_cases hpages : pages = []
      · obtain ⟨hnotes, hresult⟩ := (herror e rfl).1 hpages
        have hrows := hfollows.receivedRows_eq
        rw [hpages] at hrows
        rw [hnotes, hresult]
        exact ⟨List.forall_mem_nil _, .inr ⟨e, rfl, hrows⟩⟩
      · obtain ⟨hnotes, hresult⟩ := (herror e rfl).2 hpages
        rw [hnotes, hresult]
        exact ⟨List.forall_mem_singleton.mpr rfl, .inl rfl⟩

/-- The pages of a call are asked for one after the other until one fails or has no key. The rows of
the pages make the table. A first page that fails is the failure of the call; a later one that fails is
recorded under its number. -/
theorem fetcher_follows_keys {call : FetchCall} {period : Period}
    (hperiod : Period.ofFrequency? call.frequency = some period) (conn : ι) (limit : Nat)
    (name : String) (s : σ) (earlier : List PageExchange) :
    ∃ log pages final,
      FollowsKeys ⟨call.ticker.symbol, call.window.start.date, call.window.stop.date, period,
        call.fields, limit, true, none⟩ log pages final ∧
      source.recorded.fetcher conn limit name call (s, earlier) =
        ⟨(source.fetcher conn limit name call s).result,
          (source.fetcher conn limit name call s).diagnostics,
          ((source.fetcher conn limit name call s).state, earlier ++ log)⟩ ∧
      (∀ last, final = .ok last →
        (source.fetcher conn limit name call s).diagnostics = [] ∧
        (source.fetcher conn limit name call s).result =
          KlineRow.tableWithin call.fields call.window
            (pages.flatMap KlinePage.rows ++ last.rows)) ∧
      ∀ e, final = .error e →
        (pages = [] → (source.fetcher conn limit name call s).diagnostics = [] ∧
          (source.fetcher conn limit name call s).result = .error e) ∧
        (pages ≠ [] → (source.fetcher conn limit name call s).diagnostics =
            [.pageFailed call.ticker.symbol pages.length e.message] ∧
          (source.fetcher conn limit name call s).result =
            KlineRow.tableWithin call.fields call.window (pages.flatMap KlinePage.rows)) := by
  obtain ⟨log, pages, final, hfollows, hlog, hok, herror⟩ :=
    source.exists_pages conn (firstRequest limit call period) s earlier
  have hmirrors := source.recorded_mirrors.rows conn (firstRequest limit call period) (s, earlier)
  have hrows := hfollows.receivedRows_eq
  refine ⟨log, pages, final, hfollows, ?_, ?_, ?_⟩
  · simp only [fetcher, hperiod, hmirrors, Run.seen, ← hlog]
  · rintro last rfl
    obtain ⟨hnotes, hresult⟩ := hok last rfl
    simp only [fetcher, hperiod, hnotes, hresult, hrows, KlinePage.rowsOf]
    exact ⟨trivial, rfl⟩
  · rintro e rfl
    obtain ⟨hfirst, hlater⟩ := herror e rfl
    constructor
    · intro hpages
      obtain ⟨hnotes, hresult⟩ := hfirst hpages
      simp only [fetcher, hperiod, hnotes, hresult]
      exact ⟨trivial, rfl⟩
    · intro hpages
      obtain ⟨hnotes, hresult⟩ := hlater hpages
      simp only [fetcher, hperiod, hnotes, hresult, hrows, KlinePage.rowsOf, List.append_nil]
      exact ⟨rfl, rfl⟩

/-- Two pages with keys, of which the second one leads to a failure. -/
def brokenScript : PageScript :=
  [("A", [.ok ⟨[⟨.startOf .newYear, [("close", some (.ofInt 10))]⟩], some "second"⟩,
    .ok ⟨[], some "third"⟩, .error (.environmentUnavailable "timeout"), .ok ⟨[], none⟩])]

/-- A call for the closing prices of a day. -/
def closeCall : FetchCall :=
  ⟨.stock "A", ["close"], ⟨.startOf .newYear, .startOf .afterNewYear, false⟩, .daily⟩

/-- Three pages are asked for, the third one fails under the number two, and the page after it is not
asked for. -/
theorem fetcher_follows_keys_brokenScript :
    Period.ofFrequency? closeCall.frequency = some .day ∧
      ∃ log : List PageExchange,
        ((PageScript.source none).recorded.fetcher () 100 "broker" closeCall
          (brokenScript, [])).state.2 = log ∧
        log.map (fun x => x.request.pageKey?) = [none, some "second", some "third"] ∧
        ((PageScript.source none).fetcher () 100 "broker" closeCall brokenScript).diagnostics =
          [.pageFailed "A" 2 "environment unavailable: timeout"] := by
  have hperiod : Period.ofFrequency? closeCall.frequency = some .day := rfl
  obtain ⟨log, pages, final, hfollows, hrun, -, herror⟩ :=
    fetcher_follows_keys (PageScript.source none) hperiod () 100 "broker" brokenScript []
  have hstate : ((PageScript.source none).recorded.fetcher () 100 "broker" closeCall
      (brokenScript, [])).state.2 = log := by rw [hrun, List.nil_append]
  have hlog : log.map PageExchange.answer = [.ok ⟨[⟨.startOf .newYear, [("close", some (.ofInt 10))]⟩],
      some "second"⟩, .ok ⟨[], some "third"⟩, .error (.environmentUnavailable "timeout")] := by
    rw [← hstate, fetcher, hperiod]
    dsimp only
    rw [rows_of_next rfl rfl, rowsFrom_of_next rfl rfl, rowsFrom_of_error rfl]
    rfl
  rw [hfollows.answers] at hlog
  have hpages : pages = [⟨[⟨.startOf .newYear, [("close", some (.ofInt 10))]⟩], some "second"⟩,
      ⟨[], some "third"⟩] := by
    have hmap := congrArg List.dropLast hlog
    rw [List.dropLast_concat] at hmap
    exact (List.map_inj_right fun _ _ => Except.ok.inj).mp hmap
  have hfinal : final = .error (.environmentUnavailable "timeout") := by
    have hlast := congrArg List.getLast? hlog
    rw [List.getLast?_concat] at hlast
    exact Option.some.inj hlast
  refine ⟨hperiod, log, hstate, ?_, ?_⟩
  · have hkeys := congrArg (List.map KlineRequest.pageKey?) hfollows.requests
    rw [List.map_map, hpages] at hkeys
    exact hkeys
  · have hnotes := ((herror _ hfinal).2 (by rw [hpages]; exact List.cons_ne_nil _ _)).1
    rw [hnotes, hpages]
    rfl

end QuoteSource

end MarketBars
