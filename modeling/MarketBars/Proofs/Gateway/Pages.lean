import Mathlib.Data.List.Forall2
import MarketBars.Proofs.Gateway.Attempts
import MarketBars.Proofs.Json.Members
import MarketBars.Proofs.Pipeline.Contract
import MarketBars.Proofs.Quote.Paging

/-!
# The pages of a gateway

An envelope is a page as a whole or not at all. An accepted one gives all its rows; one that is not
accepted, or of which a single row has no time, gives none. As the first answer for a ticker it makes
its source unavailable; as a later one it ends the pages, and the rows of those before it are kept.
-/

namespace MarketBars

/-- The value that a member of a row stands for: a number, or null for no value. -/
inductive Json.StandsFor : Json → Option Binary64 → Prop where
  | null : StandsFor .null none
  | integer (i : Int) : StandsFor (.integer i) (some (.ofInt i))
  | real (x : Binary64) : StandsFor (.real x) (some x)

namespace KlineRow

/-- The time of a row is a text that can be read. -/
def HasTime (members : List (String × Json)) : Prop :=
  ∃ text time, Json.lastMember? members timeKey = some (.string text) ∧
    Instant.readStamp text = .ok time

/-- A row holds the time of its members, and each number and null beside it as a value. -/
structure Reads (members : List (String × Json)) (row : KlineRow) : Prop where
  time : ∃ text, Json.lastMember? members timeKey = some (.string text) ∧
    Instant.readStamp text = .ok row.time
  mem_values : ∀ name value, (name, value) ∈ row.values ↔
    name ≠ timeKey ∧ ∃ j, Json.lastMember? members name = some j ∧ j.StandsFor value
  nodup : (row.values.map Prod.fst).Nodup

theorem memberValue?_eq_some_iff {j : Json} {value : Option Binary64} :
    memberValue? j = some value ↔ j.StandsFor value := by
  constructor
  · intro h
    cases j with
    | null => cases h; exact .null
    | integer i => cases h; exact .integer i
    | real x => cases h; exact .real x
    | bool b => cases h
    | string s => cases h
    | array items => cases h
    | object members => cases h
  · rintro (_ | i | x) <;> rfl

/-- Leaving members out keeps the order of the names. -/
theorem map_fst_filterMap_sublist {α β : Type} (read : α → Option β) (members : List (String × α)) :
    ((members.filterMap fun m => (read m.2).map fun v => (m.1, v)).map Prod.fst).Sublist
      (members.map Prod.fst) := by
  induction members with
  | nil => exact List.Sublist.refl _
  | cons m rest ih =>
    rw [List.filterMap_cons, List.map_cons]
    cases read m.2 with
    | none => exact ih.cons m.1
    | some v => exact ih.cons_cons m.1

theorem ofMembers_of_time {members : List (String × Json)} {text : String} {time : Instant}
    (htext : Json.lastMember? members timeKey = some (.string text))
    (htime : Instant.readStamp text = .ok time) :
    ofMembers members = .ok ⟨time, ((Json.sortedMembers members).filter fun m =>
      m.1 != timeKey).filterMap fun m => (memberValue? m.2).map fun v => (m.1, v)⟩ := by
  rw [ofMembers, htext]
  simp only [htime]

/-- The values beside the time, read from the map of the members. -/
theorem exists_reads {members : List (String × Json)} (h : HasTime members) :
    ∃ row, ofMembers members = .ok row ∧ Reads members row := by
  obtain ⟨text, time, htext, htime⟩ := h
  refine ⟨_, ofMembers_of_time htext htime, ⟨text, htext, htime⟩, ?_, ?_⟩
  · intro name value
    simp only [List.mem_filterMap, List.mem_filter, Json.mem_sortedMembers, bne_iff_ne,
      Option.map_eq_some_iff, Prod.mk.injEq, memberValue?_eq_some_iff]
    constructor
    · rintro ⟨⟨_, j⟩, ⟨hlast, hname⟩, _, hstands, rfl, rfl⟩
      exact ⟨hname, j, hlast, hstands⟩
    · rintro ⟨hname, j, hlast, hstands⟩
      exact ⟨(name, j), ⟨hlast, hname⟩, value, hstands, rfl, rfl⟩
  · have hdistinct := Json.nodup_sortedMembers members
    have hothers := List.filter_sublist (p := fun m : String × Json => m.1 != timeKey)
      (l := Json.sortedMembers members)
    exact hdistinct.sublist ((map_fst_filterMap_sublist memberValue? _).trans (hothers.map Prod.fst))

theorem hasTime_of_ofMembers {members : List (String × Json)} {row : KlineRow}
    (h : ofMembers members = .ok row) : HasTime members := by
  unfold ofMembers at h
  split at h
  · rename_i text htext
    split at h
    · cases h
    · rename_i time htime
      exact ⟨text, time, htext, htime⟩
  · cases h

theorem not_hasTime_of_ofMembers {members : List (String × Json)} {fault : PageFault}
    (h : ofMembers members = .error fault) : ¬HasTime members := by
  intro htime
  obtain ⟨row, hrow, -⟩ := exists_reads htime
  cases h.symm.trans hrow

/-- Rows that all have a time are read in order. -/
theorem exists_mapM_reads {rows : List (List (String × Json))}
    (h : ∀ members ∈ rows, HasTime members) :
    ∃ read, rows.mapM ofMembers = .ok read ∧ List.Forall₂ Reads rows read := by
  induction rows with
  | nil => exact ⟨[], rfl, .nil⟩
  | cons members rest ih =>
    obtain ⟨htime, hrest⟩ := List.forall_mem_cons.mp h
    obtain ⟨row, hrow, hreads⟩ := exists_reads htime
    obtain ⟨more, hmore, hall⟩ := ih hrest
    exact ⟨row :: more, by rw [List.mapM_cons, hrow, hmore]; rfl, .cons hreads hall⟩

end KlineRow

namespace Envelope

/-- The envelope holds a page: its request was accepted, and each row has a time. -/
structure IsAccepted (e : Envelope) : Prop where
  code : e.code = 0
  times : ∀ members ∈ e.rows, KlineRow.HasTime members

/-- The page of an envelope comes with a key to another one. An empty key leads nowhere. -/
structure LeadsTo (e : Envelope) (key : String) : Prop where
  accepted : e.IsAccepted
  nextKey : e.nextKey? = some key
  nonempty : key ≠ ""

theorem filter_nextKey?_eq_some_iff {next? : Option String} {key : String} :
    (next?.filter fun key => !key.isEmpty) = some key ↔ next? = some key ∧ key ≠ "" := by
  rw [Option.filter_eq_some_iff]
  simp

/-- An accepted envelope gives all its rows in order. -/
theorem IsAccepted.exists_page {e : Envelope} (h : e.IsAccepted) :
    ∃ page, e.page = .ok page ∧ List.Forall₂ KlineRow.Reads e.rows page.rows ∧
      ∀ key, page.next? = some key ↔ e.LeadsTo key := by
  obtain ⟨read, hread, hall⟩ := KlineRow.exists_mapM_reads h.times
  refine ⟨⟨read, e.nextKey?.filter fun key => !key.isEmpty⟩, ?_, hall, fun key => ?_⟩
  · rw [page, if_pos h.code, hread]
    rfl
  · rw [filter_nextKey?_eq_some_iff]
    exact ⟨fun hkey => ⟨h, hkey.1, hkey.2⟩, fun hkey => ⟨hkey.nextKey, hkey.nonempty⟩⟩

end Envelope

namespace Gateway

/-- What the last answer to the requests for some pages holds: the rows of an accepted envelope, or the
reason why there are none. One row without a time spoils an envelope. -/
inductive Holds : Except CallFailure Envelope → Except String (List KlineRow) → Prop where
  | failed (failure : CallFailure) : Holds (.error failure) (.error failure.reason)
  | rejected {e : Envelope} (hcode : e.code ≠ 0) : Holds (.ok e) (.error e.message)
  | spoiled {e : Envelope} {before after : List (List (String × Json))}
      {members : List (String × Json)} {fault : PageFault} (hcode : e.code = 0)
      (hrows : e.rows = before ++ members :: after)
      (hbefore : ∀ earlier ∈ before, KlineRow.HasTime earlier)
      (htime : ¬KlineRow.HasTime members) (hfault : KlineRow.ofMembers members = .error fault) :
      Holds (.ok e) (.error fault.reason)
  | accepted {e : Envelope} {rows : List KlineRow} (h : e.IsAccepted)
      (hrows : List.Forall₂ KlineRow.Reads e.rows rows) : Holds (.ok e) (.ok rows)

variable {τ : Type} (g : Gateway) (t : Transport τ) (session : GatewaySession)

/-- Asks for a page, and keeps the envelope in which the answer comes. -/
def ask (r : KlineRequest) (s : GatewayState τ) : Except CallFailure Envelope × GatewayState τ :=
  g.call t "/v1/history_kline" (pageBody session r) Envelope.ofText? s

/-- The requests for the pages of a call are answered by some envelopes that lead to one another, and
by a last answer that leads nowhere. -/
inductive Answered : KlineRequest → GatewayState τ → List Envelope → Except CallFailure Envelope →
    GatewayState τ → Prop where
  | last {r : KlineRequest} {s s' : GatewayState τ} {answer : Except CallFailure Envelope}
      (hask : g.ask t session r s = (answer, s'))
      (hend : ∀ e key, answer = .ok e → ¬e.LeadsTo key) : Answered r s [] answer s'
  | next {r : KlineRequest} {s s' s'' : GatewayState τ} {e : Envelope} {key : String}
      {later : List Envelope} {answer : Except CallFailure Envelope}
      (hask : g.ask t session r s = (.ok e, s')) (hkey : e.LeadsTo key)
      (hmore : Answered (r.continued key) s' later answer s'') : Answered r s (e :: later) answer s''

variable {g t session} {r : KlineRequest} {s s' : GatewayState τ}

theorem source_page (g : Gateway) (t : Transport τ) : (g.source t).page = g.page t := by
  rw [source]

theorem page_of_failure {failure : CallFailure} (h : g.ask t session r s = (.error failure, s')) :
    g.page t session r s = (.error (.sourceUnavailable r.code failure.reason), s') := by
  rw [ask] at h
  rw [page, h]

/-- The page of an answer is that of its envelope. -/
theorem page_of_envelope {e : Envelope} (h : g.ask t session r s = (.ok e, s')) :
    g.page t session r s =
      (e.page.mapError fun fault => .sourceUnavailable r.code fault.reason, s') := by
  rw [ask] at h
  rw [page, h]

theorem page_of_accepted {e : Envelope} (hask : g.ask t session r s = (.ok e, s'))
    (h : e.IsAccepted) : ∃ page, (g.source t).page session r s = (.ok page, s') ∧
      List.Forall₂ KlineRow.Reads e.rows page.rows ∧ ∀ key, page.next? = some key ↔ e.LeadsTo key := by
  obtain ⟨page, hpage, hrows, hnext⟩ := h.exists_page
  refine ⟨page, ?_, hrows, hnext⟩
  rw [source_page, page_of_envelope hask, hpage]
  rfl

/-- An answer that is no accepted envelope holds a reason, with which its page fails. -/
theorem exists_reason {answer : Except CallFailure Envelope} (hask : g.ask t session r s = (answer, s'))
    (h : ∀ e, answer = .ok e → ¬e.IsAccepted) : ∃ reason, Holds answer (.error reason) ∧
      (g.source t).page session r s = (.error (.sourceUnavailable r.code reason), s') := by
  rw [source_page]
  cases answer with
  | error failure => exact ⟨failure.reason, .failed failure, page_of_failure hask⟩
  | ok e =>
    rw [page_of_envelope hask]
    by_cases hcode : e.code = 0
    · -- The first row without a time is the one whose fault is told.
      rw [Envelope.page, if_pos hcode]
      cases hrows : e.rows.mapM KlineRow.ofMembers with
      | ok rows =>
        refine absurd ⟨hcode, fun members hmembers => ?_⟩ (h e rfl)
        obtain ⟨row, hrow⟩ := exists_of_mapM_ok hrows members hmembers
        exact KlineRow.hasTime_of_ofMembers hrow
      | error fault =>
        obtain ⟨before, members, after, hsplit, hbefore, hfault⟩ := exists_split_of_mapM_error hrows
        refine ⟨fault.reason, .spoiled hcode hsplit (fun earlier hearlier => ?_)
          (KlineRow.not_hasTime_of_ofMembers hfault) hfault, rfl⟩
        obtain ⟨row, hrow⟩ := hbefore earlier hearlier
        exact KlineRow.hasTime_of_ofMembers hrow
    · refine ⟨e.message, .rejected hcode, ?_⟩
      rw [Envelope.page, if_neg hcode]
      rfl

/-- The page of an answer that leads nowhere has no key, or fails. -/
theorem exists_held {answer : Except CallFailure Envelope} (hask : g.ask t session r s = (answer, s'))
    (hend : ∀ e key, answer = .ok e → ¬e.LeadsTo key) : ∃ held, Holds answer held ∧
      (∀ more, held = .ok more →
        (g.source t).page session r s = (.ok ⟨more, none⟩, s')) ∧
      ∀ reason, held = .error reason →
        (g.source t).page session r s = (.error (.sourceUnavailable r.code reason), s') := by
  by_cases h : ∃ e, answer = .ok e ∧ e.IsAccepted
  · obtain ⟨e, rfl, haccepted⟩ := h
    obtain ⟨⟨rows, next?⟩, hpage, hrows, hnext⟩ := page_of_accepted hask haccepted
    obtain rfl : next? = none :=
      Option.eq_none_iff_forall_ne_some.mpr fun key hkey => hend e key rfl ((hnext key).mp hkey)
    refine ⟨.ok rows, .accepted haccepted hrows, ?_, nofun⟩
    rintro more ⟨⟩
    exact hpage
  · obtain ⟨reason, hholds, hpage⟩ := exists_reason hask fun e he haccepted => h ⟨e, he, haccepted⟩
    refine ⟨.error reason, hholds, nofun, ?_⟩
    rintro reason ⟨⟩
    exact hpage

/-- The requests for the pages of a call have answers, of which only the last one leads nowhere. -/
theorem exists_answered (g : Gateway) (t : Transport τ) (session : GatewaySession) (r : KlineRequest)
    (s : GatewayState τ) : ∃ earlier answer s', g.Answered t session r s earlier answer s' := by
  -- An answer that leads to another one uses up a part of the budget of the transport.
  induction hbudget : t.budget s.wire using Nat.strongRecOn generalizing r s with
  | _ budget ih =>
    subst hbudget
    rcases hask : g.ask t session r s with ⟨answer, s'⟩
    by_cases hlead : ∃ e key, answer = .ok e ∧ e.LeadsTo key
    · obtain ⟨e, key, rfl, hkey⟩ := hlead
      have hlt := g.budget_call_lt t _ _ _ s (congrArg Prod.fst hask)
      rw [← ask, hask] at hlt
      obtain ⟨later, answer, s'', hmore⟩ := ih _ hlt (r.continued key) s' rfl
      exact ⟨e :: later, answer, s'', .next hask hkey hmore⟩
    · exact ⟨[], answer, s', .last hask fun e key h hkey => hlead ⟨e, key, h, hkey⟩⟩

section Rows

variable {earlier : List Envelope} {answer : Except CallFailure Envelope}

/-- The rows of later pages: all rows of the answers that lead on, and those of the last answer if it
holds any. -/
theorem Answered.exists_rowsFrom (h : g.Answered t session r s earlier answer s') :
    ∃ rows held, List.Forall₂ KlineRow.Reads (earlier.flatMap Envelope.rows) rows ∧
      Holds answer held ∧
      (∀ more, held = .ok more → ∀ page,
        (g.source t).rowsFrom session page r s = ⟨rows ++ more, [], s'⟩) ∧
      ∀ reason, held = .error reason → ∀ page, (g.source t).rowsFrom session page r s =
        ⟨rows, [.pageFailed r.code (page + earlier.length)
          (DataError.sourceUnavailable r.code reason).message], s'⟩ := by
  induction h with
  | last hask hend =>
    obtain ⟨held, hholds, hok, herror⟩ := exists_held hask hend
    exact ⟨[], held, .nil, hholds,
      fun more hmore => QuoteSource.rowsFrom_of_last (hok more hmore) rfl,
      fun reason hreason => QuoteSource.rowsFrom_of_error (herror reason hreason)⟩
  | @next r s s' s'' e key later answer hask hkey hmore ih =>
    obtain ⟨first, hpage, hfirst, hnext⟩ := page_of_accepted hask hkey.accepted
    obtain ⟨rows, held, hrows, hholds, hok, herror⟩ := ih
    refine ⟨first.rows ++ rows, held, List.rel_append hfirst hrows, hholds, ?_, ?_⟩
    · intro more hheld page
      rw [QuoteSource.rowsFrom_of_next hpage ((hnext key).mpr hkey), hok more hheld,
        List.append_assoc]
    · intro reason hheld page
      rw [QuoteSource.rowsFrom_of_next hpage ((hnext key).mpr hkey), herror reason hheld,
        List.length_cons, Nat.add_right_comm, Nat.add_assoc]
      rfl

/-- The rows of a request. A first answer without a page leaves no rows at all. -/
theorem Answered.exists_rows (h : g.Answered t session r s earlier answer s') :
    ∃ rows held, List.Forall₂ KlineRow.Reads (earlier.flatMap Envelope.rows) rows ∧
      Holds answer held ∧
      (∀ more, held = .ok more →
        (g.source t).rows session r s = ⟨.ok (rows ++ more), [], s'⟩) ∧
      ∀ reason, held = .error reason →
        (earlier = [] → (g.source t).rows session r s =
          ⟨.error (.sourceUnavailable r.code reason), [], s'⟩) ∧
        (earlier ≠ [] → (g.source t).rows session r s =
          ⟨.ok rows, [.pageFailed r.code earlier.length
            (DataError.sourceUnavailable r.code reason).message], s'⟩) := by
  cases h with
  | last hask hend =>
    obtain ⟨held, hholds, hok, herror⟩ := exists_held hask hend
    refine ⟨[], held, .nil, hholds,
      fun more hmore => QuoteSource.rows_of_last (hok more hmore) rfl, fun reason hreason =>
        ⟨fun _ => QuoteSource.rows_of_error (herror reason hreason), fun hne => absurd rfl hne⟩⟩
  | @next _ _ s'' _ e key later _ hask hkey hmore =>
    obtain ⟨first, hpage, hfirst, hnext⟩ := page_of_accepted hask hkey.accepted
    obtain ⟨rows, held, hrows, hholds, hok, herror⟩ := hmore.exists_rowsFrom
    refine ⟨first.rows ++ rows, held, List.rel_append hfirst hrows, hholds, ?_,
      fun reason hheld => ⟨nofun, fun _ => ?_⟩⟩
    · intro more hheld
      rw [QuoteSource.rows_of_next hpage ((hnext key).mpr hkey), hok more hheld, List.append_assoc]
    · rw [QuoteSource.rows_of_next hpage ((hnext key).mpr hkey), herror reason hheld,
        List.length_cons, Nat.add_comm]
      rfl

end Rows

/-- An envelope is all or nothing. The rows for a ticker are those of the accepted envelopes, each with
its time and the numbers and nulls beside it, as far as non-empty keys lead. A last answer without a page
adds no rows: after others it is the one page that failed, and as the first one it makes the source of
the ticker unavailable, so that a plan goes on without the ticker. -/
theorem pages_are_atomic {plan : Plan} {period : Period}
    (hperiod : Period.ofFrequency? plan.frequency = some period) (g : Gateway) (t : Transport τ)
    (session : GatewaySession) (limit : Nat) (name : String) (ticker : Ticker) (s : GatewayState τ) :
    ∃ earlier answer s' rows held,
      g.Answered t session (QuoteSource.firstRequest limit (plan.call ticker) period) s earlier
        answer s' ∧
      List.Forall₂ KlineRow.Reads (earlier.flatMap Envelope.rows) rows ∧ Holds answer held ∧
      (∀ more, held = .ok more →
        (g.source t).fetcher session limit name (plan.call ticker) s =
          ⟨KlineRow.tableWithin plan.fields plan.window (rows ++ more), [], s'⟩) ∧
      ∀ reason, held = .error reason →
        (earlier = [] →
          (g.source t).fetcher session limit name (plan.call ticker) s =
            ⟨.error (.sourceUnavailable ticker.symbol reason), [], s'⟩ ∧
          ∀ later, plan.gatherFrom ((g.source t).fetcher session limit name) (ticker :: later) s =
            { plan.gatherFrom ((g.source t).fetcher session limit name) later s' with
              diagnostics := .sourceUnavailable ticker.symbol
                  (DataError.sourceUnavailable ticker.symbol reason).message ::
                (plan.gatherFrom ((g.source t).fetcher session limit name) later s').diagnostics }) ∧
        (earlier ≠ [] →
          (g.source t).fetcher session limit name (plan.call ticker) s =
            ⟨KlineRow.tableWithin plan.fields plan.window rows,
              [.pageFailed ticker.symbol earlier.length
                (DataError.sourceUnavailable ticker.symbol reason).message], s'⟩) := by
  have hcall : Period.ofFrequency? (plan.call ticker).frequency = some period := hperiod
  obtain ⟨earlier, answer, s', hanswered⟩ := g.exists_answered t session
    (QuoteSource.firstRequest limit (plan.call ticker) period) s
  obtain ⟨rows, held, hrows, hholds, hok, herror⟩ := hanswered.exists_rows
  refine ⟨earlier, answer, s', rows, held, hanswered, hrows, hholds, ?_, fun reason hheld =>
    ⟨fun hfirst => ?_, fun hlater => ?_⟩⟩
  · intro more hheld
    rw [QuoteSource.fetcher_of_period hcall, hok more hheld]
    rfl
  · have hfetch : (g.source t).fetcher session limit name (plan.call ticker) s =
        ⟨.error (.sourceUnavailable ticker.symbol reason), [], s'⟩ := by
      rw [QuoteSource.fetcher_of_period hcall, (herror reason hheld).1 hfirst]
      rfl
    refine ⟨hfetch, fun later => ?_⟩
    simp only [Plan.gatherFrom, hfetch]
    rfl
  · rw [QuoteSource.fetcher_of_period hcall, (herror reason hheld).2 hlater]
    rfl

/-- The answer with a page of one row, which leads to another page. -/
def pageText : String := "[0, \"\", null, [\x7b\"time_key\": \"2024-01-02\", \"close\": 1\x7d], \"k\"]"

/-- The answer to a request that is not accepted. -/
def refusalText : String := "[1, \"quota\"]"

/-- A server that answers with a page and then refuses. -/
def cutServer : GatewayState Playback :=
  ⟨⟨[.answered ⟨200⟩ pageText, .answered ⟨200⟩ refusalText], []⟩, []⟩

/-- A plan for the closing prices of one ticker. -/
def closePlan : Plan where
  tickers := [.stock "A"]
  fields := ["close"]
  window := ⟨.startOf .newYear, .startOf .afterNewYear, false⟩
  frequency := .daily
  flags := ⟨false, false, false⟩

/-- An answer that a server plays back holds the envelope of its text. -/
theorem ask_playback (session : GatewaySession) (r : KlineRequest) (body : String)
    (rest : List HttpOutcome) (received : List HttpRequest) :
    ∃ received', (localGateway 0).ask (Playback.transport "http://[::1]") session r
      ⟨⟨.answered ⟨200⟩ body :: rest, received⟩, []⟩ =
        ((Envelope.ofText? body).elim (.error (.failed .malformed)) .ok, ⟨⟨rest, received'⟩, []⟩) := by
  obtain ⟨address, haddress, horigin⟩ : ∃ address, WebAddress.ofText?
      ((localGateway 0).url "/v1/history_kline") = some address ∧ address.origin = "http://[::1]" :=
    Option.map_eq_some_iff.mp (by decide +kernel)
  have hask := (localGateway 0).call_of_address (Playback.transport "http://[::1]")
    "/v1/history_kline" (pageBody session r) Envelope.ofText?
    ⟨⟨.answered ⟨200⟩ body :: rest, received⟩, []⟩ haddress
  refine ⟨received ++ [⟨address, pageBody session r⟩], hask.trans ?_⟩
  have hsend : (Playback.transport "http://[::1]").send ⟨address, pageBody session r⟩
      ⟨.answered ⟨200⟩ body :: rest, received⟩ = (.answered ⟨200⟩ body, ⟨rest, received ++
        [⟨address, pageBody session r⟩]⟩) := by
    rw [Playback.transport]
    exact if_pos horigin
  rw [show (localGateway 0).retries = 0 from rfl, Transport.call, hsend]
  cases hbody : Envelope.ofText? body <;> simp [HttpOutcome.verdict, HttpStatus.isSuccess, hbody]

/-- The row of the first page is kept, and the second page is the one that failed. -/
theorem pages_are_atomic_cutServer :
    Period.ofFrequency? closePlan.frequency = some .day ∧
      ∃ row s', ((localGateway 0).source (Playback.transport "http://[::1]")).fetcher ⟨"s", true⟩ 10
          "broker" (closePlan.call (.stock "A")) cutServer =
        ⟨KlineRow.tableWithin ["close"] closePlan.window [row],
          [.pageFailed "A" 1 "source unavailable for 'A': quota"], s'⟩ := by
  have hperiod : Period.ofFrequency? closePlan.frequency = some .day := rfl
  obtain ⟨first, hfirst, hfacts⟩ : ∃ e, Envelope.ofText? pageText = some e ∧
      (e.code, e.rows.length, e.rows.all fun members => (KlineRow.ofMembers members).toBool,
        e.nextKey?) = (0, 1, true, some "k") := Option.map_eq_some_iff.mp (by decide +kernel)
  obtain ⟨second, hsecond, hrefusal⟩ : ∃ e, Envelope.ofText? refusalText = some e ∧
      (e.code, e.message) = (1, "quota") := Option.map_eq_some_iff.mp (by decide +kernel)
  simp only [Prod.mk.injEq] at hfacts hrefusal
  obtain ⟨hcode, hlength, htimes, hnext⟩ := hfacts
  have hkey : first.LeadsTo "k" := by
    refine ⟨⟨hcode, fun members hmembers => ?_⟩, hnext, by decide⟩
    have hrow := List.all_eq_true.mp htimes members hmembers
    cases hread : KlineRow.ofMembers members with
    | ok row => exact KlineRow.hasTime_of_ofMembers hread
    | error fault =>
      rw [hread] at hrow
      cases hrow
  have hrefused : ¬second.IsAccepted := fun h => by cases h.code.symm.trans hrefusal.1
  obtain ⟨earlier, answer, s', rows, held, hanswered, hrows, hholds, -, herror⟩ :=
    pages_are_atomic hperiod (localGateway 0) (Playback.transport "http://[::1]") ⟨"s", true⟩ 10
      "broker" (.stock "A") cutServer
  have hask := fun r => ask_playback ⟨"s", true⟩ r pageText [.answered ⟨200⟩ refusalText] []
  have hask' := fun r => ask_playback ⟨"s", true⟩ r refusalText []
  simp only [hfirst, hsecond, Option.elim_some] at hask hask'
  cases hanswered with
  | last hlast hend =>
    obtain ⟨_, h⟩ := hask _
    cases h.symm.trans hlast
    exact absurd hkey (hend first "k" rfl)
  | next hnext _ hmore =>
    obtain ⟨_, h⟩ := hask _
    cases h.symm.trans hnext
    cases hmore with
    | next hlast hlead _ =>
      obtain ⟨_, h⟩ := hask' _ _
      cases h.symm.trans hlast
      exact absurd hlead.accepted hrefused
    | last hlast _ =>
      obtain ⟨_, h⟩ := hask' _ _
      cases h.symm.trans hlast
      obtain ⟨row, rfl⟩ : ∃ row, rows = [row] := by
        rw [← List.length_eq_one_iff, ← hrows.length_eq, List.flatMap_singleton, hlength]
      cases hholds with
      | rejected _ =>
        rw [(herror _ rfl).2 (List.cons_ne_nil _ _), hrefusal.2]
        exact ⟨hperiod, row, _, rfl⟩
      | spoiled hcode => cases hcode.symm.trans hrefusal.1
      | accepted h => exact absurd h hrefused

end Gateway

end MarketBars
