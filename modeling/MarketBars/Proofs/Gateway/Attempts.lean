import MarketBars.Gateway.Session

/-!
# The attempts of a call

A call posts its request until an attempt comes out in a way that lasts, and at most once more than the
number of further attempts. Which outcome comes next is up to the transport, and may depend on all that
it carried before, so the outcomes of a request are those of its states one after the other.
-/

namespace MarketBars

namespace HttpStatus

variable {code : Nat}

theorem isSuccess_iff : (⟨code⟩ : HttpStatus).isSuccess = true ↔ 200 ≤ code ∧ code < 300 :=
  decide_eq_true_iff

theorem isServerError_iff : (⟨code⟩ : HttpStatus).isServerError = true ↔ 500 ≤ code ∧ code < 600 :=
  decide_eq_true_iff

theorem isDenial_iff : (⟨code⟩ : HttpStatus).isDenial = true ↔ code = 401 ∨ code = 403 := by
  rw [isDenial, Bool.or_eq_true, beq_iff_eq, beq_iff_eq]

end HttpStatus

namespace HttpOutcome

variable {α : Type} {decode : String → Option α} {url : String}

/-- The outcome may be a different one at the next attempt. -/
inductive MayPass : HttpOutcome → Prop where
  | noConnection : MayPass (.failed .noConnection)
  | timeout : MayPass (.failed .timeout)
  | tooManyRequests (body : String) : MayPass (.answered ⟨429⟩ body)
  | serverError {code : Nat} (body : String) (hlow : 500 ≤ code) (hhigh : code < 600) :
      MayPass (.answered ⟨code⟩ body)

/-- An outcome that does not pass decides the call. -/
inductive Decides (decode : String → Option α) (url : String) :
    HttpOutcome → Except CallFailure α → Prop where
  | denied {code : Nat} (body : String) (h : code = 401 ∨ code = 403) :
      Decides decode url (.answered ⟨code⟩ body) (.error (.denied ⟨code⟩))
  | refused {code : Nat} (body : String) (hsuccess : ¬(200 ≤ code ∧ code < 300))
      (hdenied : ¬(code = 401 ∨ code = 403)) :
      Decides decode url (.answered ⟨code⟩ body) (.error (.failed (.status ⟨code⟩)))
  | served {code : Nat} {body : String} {a : α} (hlow : 200 ≤ code) (hhigh : code < 300)
      (hbody : decode body = some a) : Decides decode url (.answered ⟨code⟩ body) (.ok a)
  | malformed {code : Nat} {body : String} (hlow : 200 ≤ code) (hhigh : code < 300)
      (hbody : decode body = none) :
      Decides decode url (.answered ⟨code⟩ body) (.error (.failed .malformed))
  | notSent (why : SendFailure) : Decides decode url (.failed why) (.error (.failed (.notSent url)))

def complaint (url : String) : HttpOutcome → String
  | answered status _ => "HTTP " ++ status.text ++ " from gateway"
  | failed _ => "error sending request for url (" ++ url ++ ")"

theorem isTransient_iff {o : HttpOutcome} : o.isTransient = true ↔ o.MayPass := by
  constructor
  · intro h
    match o, h with
    | .failed .noConnection, _ => exact .noConnection
    | .failed .timeout, _ => exact .timeout
    | .answered ⟨code⟩ body, h =>
      rw [isTransient, Bool.or_eq_true, beq_iff_eq] at h
      rcases h with h | h
      · obtain rfl := congrArg HttpStatus.code h
        exact .tooManyRequests body
      · obtain ⟨hlow, hhigh⟩ := HttpStatus.isServerError_iff.mp h
        exact .serverError body hlow hhigh
  · rintro (_ | _ | body | ⟨body, hlow, hhigh⟩)
    · rfl
    · rfl
    · rfl
    · rw [isTransient, Bool.or_eq_true]
      exact .inr (HttpStatus.isServerError_iff.mpr ⟨hlow, hhigh⟩)

theorem decides_verdict (decode : String → Option α) (url : String) (o : HttpOutcome) :
    o.Decides decode url (o.verdict decode url) := by
  match o with
  | .failed why => exact .notSent why
  | .answered ⟨code⟩ body =>
    by_cases hsuccess : 200 ≤ code ∧ code < 300
    · rw [verdict, if_pos (HttpStatus.isSuccess_iff.mpr hsuccess)]
      cases hbody : decode body with
      | some a => exact .served hsuccess.1 hsuccess.2 hbody
      | none => exact .malformed hsuccess.1 hsuccess.2 hbody
    · rw [verdict, if_neg (mt HttpStatus.isSuccess_iff.mp hsuccess)]
      by_cases hdenied : code = 401 ∨ code = 403
      · rw [if_pos (HttpStatus.isDenial_iff.mpr hdenied)]
        exact .denied body hdenied
      · rw [if_neg (mt HttpStatus.isDenial_iff.mp hdenied)]
        exact .refused body hsuccess hdenied

/-- An outcome decides one result only. -/
theorem Decides.eq_verdict {o : HttpOutcome} {result : Except CallFailure α}
    (h : o.Decides decode url result) : result = o.verdict decode url := by
  rcases h with ⟨body, h⟩ | ⟨body, hsuccess, hdenied⟩ | ⟨hlow, hhigh, hbody⟩ |
    ⟨hlow, hhigh, hbody⟩ | why
  · rename_i code
    have hsuccess : ¬(200 ≤ code ∧ code < 300) := by omega
    rw [verdict, if_neg (mt HttpStatus.isSuccess_iff.mp hsuccess),
      if_pos (HttpStatus.isDenial_iff.mpr h)]
  · rw [verdict, if_neg (mt HttpStatus.isSuccess_iff.mp hsuccess),
      if_neg (mt HttpStatus.isDenial_iff.mp hdenied)]
  · rw [verdict, if_pos (HttpStatus.isSuccess_iff.mpr ⟨hlow, hhigh⟩), hbody]
  · rw [verdict, if_pos (HttpStatus.isSuccess_iff.mpr ⟨hlow, hhigh⟩), hbody]
  · rfl

/-- An outcome that may pass is a failure in its own words when no attempt is left. -/
theorem MayPass.verdict_eq {o : HttpOutcome} (h : o.MayPass) (decode : String → Option α)
    (url : String) : ∃ fault, o.verdict decode url = .error (.failed fault) ∧
      fault.reason = o.complaint url := by
  rcases h with _ | _ | body | ⟨body, hlow, hhigh⟩
  · exact ⟨.notSent url, rfl, rfl⟩
  · exact ⟨.notSent url, rfl, rfl⟩
  · exact ⟨.status ⟨429⟩, rfl, rfl⟩
  · rename_i code
    have hsuccess : ¬(⟨code⟩ : HttpStatus).isSuccess = true := by
      rw [HttpStatus.isSuccess_iff]
      omega
    have hdenied : ¬(⟨code⟩ : HttpStatus).isDenial = true := by
      rw [HttpStatus.isDenial_iff]
      omega
    exact ⟨.status ⟨code⟩, by rw [verdict, if_neg hsuccess, if_neg hdenied], rfl⟩

end HttpOutcome

namespace Transport

variable {τ α : Type} (t : Transport τ) (r : HttpRequest)

/-- The state after a request was posted a number of times. -/
def stateAfter (s : τ) : Nat → τ
  | 0 => s
  | n + 1 => (t.send r (stateAfter s n)).2

/-- What comes of a request when it was posted a number of times before. -/
def outcomeAt (s : τ) (n : Nat) : HttpOutcome := (t.send r (t.stateAfter r s n)).1

/-- The first outcome of a request that lasts comes after a number of outcomes that may pass. -/
structure FirstLasting (s : τ) (n : Nat) : Prop where
  lasts : ¬(t.outcomeAt r s n).MayPass
  before : ∀ i < n, (t.outcomeAt r s i).MayPass

theorem stateAfter_send (s : τ) (n : Nat) :
    t.stateAfter r (t.send r s).2 n = t.stateAfter r s (n + 1) := by
  induction n with
  | zero => rfl
  | succ n ih => exact congrArg (fun s => (t.send r s).2) ih

theorem outcomeAt_send (s : τ) (n : Nat) :
    t.outcomeAt r (t.send r s).2 n = t.outcomeAt r s (n + 1) :=
  congrArg (fun s => (t.send r s).1) (t.stateAfter_send r s n)

/-- The last attempt of a call is the first one whose outcome lasts, or the last one allowed. The call
ends with the verdict on it, in the state that it leaves. -/
theorem call_of_attempts (decode : String → Option α) {retries n : Nat} {s : τ} (hn : n ≤ retries)
    (hbefore : ∀ i < n, (t.outcomeAt r s i).MayPass)
    (hlast : n = retries ∨ ¬(t.outcomeAt r s n).MayPass) :
    t.call decode r retries s =
      ((t.outcomeAt r s n).verdict decode r.address.text, t.stateAfter r s (n + 1)) := by
  -- Each attempt before the last one takes the call to the next state with one attempt less.
  induction n generalizing retries s with
  | zero =>
    cases retries with
    | zero => rfl
    | succ retries =>
      have hlasts : ¬(t.send r s).1.isTransient = true := by
        rw [HttpOutcome.isTransient_iff]
        exact hlast.resolve_left nofun
      rw [call, if_neg hlasts]
      rfl
  | succ n ih =>
    cases retries with
    | zero => omega
    | succ retries =>
      have hpasses : (t.send r s).1.isTransient = true :=
        HttpOutcome.isTransient_iff.mpr (hbefore 0 (Nat.succ_pos n))
      rw [call, if_pos hpasses, ih (Nat.le_of_succ_le_succ hn), outcomeAt_send, stateAfter_send]
      · intro i hi
        rw [outcomeAt_send]
        exact hbefore (i + 1) (Nat.succ_lt_succ hi)
      · rw [outcomeAt_send]
        exact hlast.imp_left Nat.succ.inj

/-- The same transport, which keeps a list of the requests that it was given. -/
def logged (t : Transport τ) : Transport (τ × List HttpRequest) where
  send := fun r (s, log) => ((t.send r s).1, (t.send r s).2, log ++ [r])
  budget := fun (s, _) => t.budget s
  budget_le := fun r (s, _) => t.budget_le r s
  budget_lt := fun r (s, _) => t.budget_lt r s

theorem stateAfter_logged (s : τ) (log : List HttpRequest) (n : Nat) :
    t.logged.stateAfter r (s, log) n = (t.stateAfter r s n, log ++ List.replicate n r) := by
  induction n with
  | zero => exact congrArg (Prod.mk s) (List.append_nil log).symm
  | succ n ih =>
    rw [stateAfter, ih, List.replicate_succ', ← List.append_assoc]
    rfl

theorem outcomeAt_logged (s : τ) (log : List HttpRequest) (n : Nat) :
    t.logged.outcomeAt r (s, log) n = t.outcomeAt r s n := by
  rw [outcomeAt, stateAfter_logged]
  rfl

end Transport

namespace Playback

variable {origin : String} {r : HttpRequest} (server : Playback)

/-- A server that is reached uses up one outcome for each request. -/
theorem stateAfter_eq (h : r.address.origin = origin) (n : Nat) :
    (transport origin).stateAfter r server n =
      ⟨server.pending.drop n, server.received ++ List.replicate n r⟩ := by
  induction n with
  | zero => exact congrArg (Playback.mk server.pending) (List.append_nil _).symm
  | succ n ih =>
    rw [Transport.stateAfter, ih, List.replicate_succ', ← List.append_assoc, ← List.tail_drop]
    show (if r.address.origin = origin then _ else _ : HttpOutcome × Playback).2 = _
    rw [if_pos h]
    rfl

/-- The outcomes of a request to a server that is reached are those that are pending. -/
theorem outcomeAt_eq (h : r.address.origin = origin) (n : Nat) :
    (transport origin).outcomeAt r server n =
      server.pending.getD n (.answered .notFound "") := by
  rw [Transport.outcomeAt, stateAfter_eq server h]
  show (if r.address.origin = origin then _ else _ : HttpOutcome × Playback).1 = _
  rw [if_pos h]
  show (server.pending.drop n).headD _ = _
  rw [List.headD_eq_head?_getD, List.head?_drop, List.getD_eq_getElem?_getD]

end Playback

namespace Gateway

variable {τ α : Type}

/-- The requests that a call sends. -/
def requestsOf (g : Gateway) (t : Transport τ) (path : String) (body : Json)
    (decode : String → Option α) (s : GatewayState τ) : List HttpRequest :=
  (g.call t.logged path body decode ⟨(s.wire, []), s.warnings⟩).2.wire.2

variable (g : Gateway) (t : Transport τ) (path : String) (body : Json) (decode : String → Option α)
  (s : GatewayState τ)

theorem call_of_address {address : WebAddress} (h : WebAddress.ofText? (g.url path) = some address) :
    g.call t path body decode s =
      ((t.call decode ⟨address, body⟩ g.retries s.wire).1,
        { s with wire := (t.call decode ⟨address, body⟩ g.retries s.wire).2 }) := by
  rw [call, h]

/-- A call to an address ends with the verdict on its last attempt. -/
theorem call_of_attempts {address : WebAddress} {n : Nat}
    (h : WebAddress.ofText? (g.url path) = some address) (hn : n ≤ g.retries)
    (hbefore : ∀ i < n, (t.outcomeAt ⟨address, body⟩ s.wire i).MayPass)
    (hlast : n = g.retries ∨ ¬(t.outcomeAt ⟨address, body⟩ s.wire n).MayPass) :
    g.requestsOf t path body decode s = List.replicate (n + 1) ⟨address, body⟩ ∧
      g.call t path body decode s =
        ((t.outcomeAt ⟨address, body⟩ s.wire n).verdict decode address.text,
          { s with wire := t.stateAfter ⟨address, body⟩ s.wire (n + 1) }) := by
  constructor
  · have hcall := t.logged.call_of_attempts ⟨address, body⟩ decode (s := (s.wire, [])) hn
      (by simpa only [Transport.outcomeAt_logged] using hbefore)
      (by simpa only [Transport.outcomeAt_logged] using hlast)
    rw [requestsOf, g.call_of_address t.logged path body decode _ h, hcall,
      Transport.stateAfter_logged]
    exact List.nil_append _
  · rw [g.call_of_address t path body decode s h,
      t.call_of_attempts ⟨address, body⟩ decode hn hbefore hlast]

/-- A call is tried again as long as its outcome may pass and attempts are left. The first outcome that
lasts decides it, and no request is sent after that; if every attempt is used up before, the call fails
with the wording of the last one. Without an address nothing is sent. -/
theorem call_tries_again :
    (WebAddress.ofText? (g.url path) = none →
      g.requestsOf t path body decode s = [] ∧
      g.call t path body decode s = (.error (.failed .noAddress), s)) ∧
    ∀ address, WebAddress.ofText? (g.url path) = some address →
      (∀ j, t.FirstLasting ⟨address, body⟩ s.wire j →
        g.requestsOf t path body decode s =
          List.replicate (min j g.retries + 1) ⟨address, body⟩ ∧
        (g.call t path body decode s).2 =
          { s with wire := t.stateAfter ⟨address, body⟩ s.wire (min j g.retries + 1) } ∧
        (j ≤ g.retries → (t.outcomeAt ⟨address, body⟩ s.wire j).Decides decode address.text
          (g.call t path body decode s).1)) ∧
      ((∀ i ≤ g.retries, (t.outcomeAt ⟨address, body⟩ s.wire i).MayPass) →
        g.requestsOf t path body decode s = List.replicate (g.retries + 1) ⟨address, body⟩ ∧
        (g.call t path body decode s).2 =
          { s with wire := t.stateAfter ⟨address, body⟩ s.wire (g.retries + 1) } ∧
        ∃ fault, (g.call t path body decode s).1 = .error (.failed fault) ∧
          fault.reason =
            (t.outcomeAt ⟨address, body⟩ s.wire g.retries).complaint address.text) := by
  constructor
  · intro h
    exact ⟨by rw [requestsOf, call, h], by rw [call, h]⟩
  intro address h
  constructor
  · intro j hj
    have hlast : min j g.retries = g.retries ∨
        ¬(t.outcomeAt ⟨address, body⟩ s.wire (min j g.retries)).MayPass := by
      rcases Nat.le_total j g.retries with hle | hle
      · rw [Nat.min_eq_left hle]
        exact .inr hj.lasts
      · exact .inl (Nat.min_eq_right hle)
    obtain ⟨hsent, hcall⟩ := g.call_of_attempts t path body decode s h (Nat.min_le_right j _)
      (fun i hi => hj.before i (Nat.lt_of_lt_of_le hi (Nat.min_le_left j _))) hlast
    refine ⟨hsent, congrArg Prod.snd hcall, fun hle => ?_⟩
    rw [hcall, Nat.min_eq_left hle]
    exact HttpOutcome.decides_verdict decode address.text _
  · intro hall
    obtain ⟨hsent, hcall⟩ := g.call_of_attempts t path body decode s h (Nat.le_refl g.retries)
      (fun i hi => hall i (Nat.le_of_lt hi)) (.inl rfl)
    refine ⟨hsent, congrArg Prod.snd hcall, ?_⟩
    rw [hcall]
    exact (hall g.retries (Nat.le_refl _)).verdict_eq decode address.text

/-- A gateway on the same machine, with a number of further attempts. -/
def localGateway (retries : Nat) : Gateway := ⟨"http://[::1]", retries⟩

/-- The address of a path below that of the gateway. -/
def localAddress : WebAddress := ⟨.http, .worded [0, 0, 0, 0, 0, 0, 0, 1], none, "/v1", none, none⟩

/-- A server that is busy, then silent, and then answers. -/
def busyServer : GatewayState Playback :=
  ⟨⟨[.answered ⟨503⟩ "", .failed .timeout, .answered ⟨200⟩ "first", .answered ⟨200⟩ "second"], []⟩, []⟩

/-- Two further attempts reach the first answer and leave the second one; a single one ends with the
silence of the server. -/
theorem call_tries_again_busyServer :
    ((localGateway 2).call (Playback.transport "http://[::1]") "/v1" .null some busyServer).1 =
        .ok "first" ∧
      ((localGateway 2).call (Playback.transport "http://[::1]") "/v1" .null some
        busyServer).2.wire.pending = [.answered ⟨200⟩ "second"] ∧
      ∃ fault, ((localGateway 1).call (Playback.transport "http://[::1]") "/v1" .null some
          busyServer).1 = .error (.failed fault) ∧
        fault.reason = "error sending request for url (http://[::1]/v1)" := by
  have haddress : ∀ retries, WebAddress.ofText? ((localGateway retries).url "/v1") =
      some localAddress := by
    intro retries
    show WebAddress.ofText? ((localGateway 0).url "/v1") = some localAddress
    decide +kernel
  have houtcome : ∀ n, (Playback.transport "http://[::1]").outcomeAt ⟨localAddress, .null⟩
      busyServer.wire n = busyServer.wire.pending.getD n (.answered .notFound "") :=
    Playback.outcomeAt_eq busyServer.wire (by decide)
  have hpasses : ∀ i < 2, ((Playback.transport "http://[::1]").outcomeAt ⟨localAddress, .null⟩
      busyServer.wire i).MayPass := by
    intro i hi
    rw [houtcome]
    match i, hi with
    | 0, _ => exact .serverError "" (by decide) (by decide)
    | 1, _ => exact .timeout
  have hlasts : ¬((Playback.transport "http://[::1]").outcomeAt ⟨localAddress, .null⟩
      busyServer.wire 2).MayPass := by
    rw [houtcome, ← HttpOutcome.isTransient_iff]
    decide
  obtain ⟨-, hstate, hdecides⟩ := (((localGateway 2).call_tries_again
    (Playback.transport "http://[::1]") "/v1" .null some busyServer).2 localAddress
      (haddress 2)).1 2 ⟨hlasts, hpasses⟩
  obtain ⟨-, -, fault, hfailed, hreason⟩ := (((localGateway 1).call_tries_again
    (Playback.transport "http://[::1]") "/v1" .null some busyServer).2 localAddress
      (haddress 1)).2 fun i hi => hpasses i (Nat.lt_succ_of_le hi)
  refine ⟨?_, ?_, fault, hfailed, ?_⟩
  · have h := hdecides (Nat.le_refl 2)
    rw [houtcome] at h
    exact h.eq_verdict
  · rw [hstate]
    show ((Playback.transport "http://[::1]").stateAfter _ busyServer.wire 3).pending = _
    rw [Playback.stateAfter_eq busyServer.wire (by decide)]
    rfl
  · rw [hreason]
    show ((Playback.transport "http://[::1]").outcomeAt _ busyServer.wire 1).complaint _ = _
    rw [houtcome]
    rfl

end Gateway

end MarketBars
