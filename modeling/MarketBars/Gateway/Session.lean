import MarketBars.Gateway.Call
import MarketBars.Gateway.Envelope
import MarketBars.Quote.Source
import MarketBars.Settings

namespace MarketBars

/-- Where a gateway is, and how many more times a call is tried. -/
structure Gateway where
  baseUrl : String
  retries : Nat
  deriving DecidableEq, Repr

structure GatewaySession where
  id : String
  isOpen : Bool := true
  deriving DecidableEq, Repr

/-- The state of the transport, with the warnings logged so far. -/
structure GatewayState (τ : Type) where
  wire : τ
  warnings : List String := []

namespace Gateway

variable {τ α : Type}

def ofSettings (s : BrokerSettings) : Gateway := ⟨s.baseUrl, s.maxRetries⟩

def url (g : Gateway) (path : String) : String :=
  String.ofList (g.baseUrl.toList.reverse.dropWhile (· == '/')).reverse ++ path

def call (g : Gateway) (t : Transport τ) (path : String) (body : Json)
    (decode : String → Option α) (s : GatewayState τ) : Except CallFailure α × GatewayState τ :=
  match WebAddress.ofText? (g.url path) with
  | none => (.error (.failed .noAddress), s)
  | some address =>
    let (answer, wire) := t.call decode ⟨address, body⟩ g.retries s.wire
    (answer, { s with wire })

/-- The session that an envelope opens, or why it opens none. -/
def opened (e : Envelope) : Except String GatewaySession :=
  if e.code = 0 then
    match e.session? with
    | some id => .ok ⟨id, true⟩
    | none => .error "no session id in response"
  else .error e.message

def unavailable (reason : String) : DataError :=
  .environmentUnavailable ("quote gateway: " ++ reason)

def connect (g : Gateway) (t : Transport τ) (s : GatewayState τ) :
    Except DataError GatewaySession × GatewayState τ :=
  let (answer, s) := g.call t "/v1/session" (.object []) Envelope.ofText? s
  match answer with
  | .error failure => (.error (unavailable failure.reason), s)
  | .ok envelope => ((opened envelope).mapError unavailable, s)

def pageBody (session : GatewaySession) (r : KlineRequest) : Json :=
  .object [
    ("session_id", .string session.id),
    ("code", .string r.code),
    ("start", .string r.start.text),
    ("end", .string r.stop.text),
    ("ktype", .string r.period.name),
    ("fields", .ofTexts r.fields),
    ("max_count", .integer r.limit),
    ("autype", .string (if r.adjusted then "qfq" else "none")),
    ("page_req_key", .ofOption .string r.pageKey?)]

def page (g : Gateway) (t : Transport τ) (session : GatewaySession) (r : KlineRequest)
    (s : GatewayState τ) : Except DataError KlinePage × GatewayState τ :=
  let (answer, s) := g.call t "/v1/history_kline" (pageBody session r) Envelope.ofText? s
  match answer with
  | .error failure => (.error (.sourceUnavailable r.code failure.reason), s)
  | .ok envelope => (envelope.page.mapError fun f => .sourceUnavailable r.code f.reason, s)

/-- Closes a session that is still open. One that cannot be closed is given up with a warning. -/
def close (g : Gateway) (t : Transport τ) (session : GatewaySession) (s : GatewayState τ) :
    GatewayState τ :=
  if session.isOpen then
    let body := Json.object [("session_id", .string session.id)]
    let (answer, s) := g.call t "/v1/session/close" body Json.parse? s
    match answer with
    | .ok _ => s
    | .error failure =>
      let warning := "closing quote session " ++ session.id ++ " failed: " ++ failure.reason
      { s with warnings := s.warnings ++ [warning] }
  else s

theorem budget_call_lt (g : Gateway) (t : Transport τ) (path : String) (body : Json)
    (decode : String → Option α) (s : GatewayState τ) {a : α}
    (h : (g.call t path body decode s).1 = .ok a) :
    t.budget (g.call t path body decode s).2.wire < t.budget s.wire := by
  unfold call at h ⊢
  split at h
  · simp at h
  · exact t.budget_call_lt decode _ g.retries s.wire h

theorem budget_page_lt (g : Gateway) (t : Transport τ) (session : GatewaySession)
    (r : KlineRequest) (s : GatewayState τ) {p : KlinePage}
    (h : (g.page t session r s).1 = .ok p) :
    t.budget (g.page t session r s).2.wire < t.budget s.wire := by
  unfold page at h ⊢
  cases hc : (g.call t "/v1/history_kline" (pageBody session r) Envelope.ofText? s).1 with
  | error failure => simp [hc] at h
  | ok envelope =>
    have hlt := g.budget_call_lt t _ _ _ s hc
    simpa [hc] using hlt

def source (g : Gateway) (t : Transport τ) : QuoteSource (GatewayState τ) GatewaySession where
  connect := g.connect t
  page := g.page t
  close := g.close t
  budget := fun _ _ s => t.budget s.wire
  budget_lt := fun session r s p s' _ h _ => by
    have h1 : (g.page t session r s).1 = .ok p := by rw [h]
    have h2 := g.budget_page_lt t session r s h1
    rwa [h] at h2

end Gateway

end MarketBars
