import MarketBars.Http.Transport

/-!
# Calls

A call posts a value and expects an answer of a certain form. What may pass is tried again: a
connection that cannot be made, an answer that takes too long, a server that is busy or fails. All
else decides the call at once, and so does the last attempt.
-/

namespace MarketBars

/-- Why a call is not answered as expected. -/
inductive CallFault where
  | status (status : HttpStatus)
  /-- The request could not be sent, or its answer did not arrive. -/
  | notSent (url : String)
  /-- There is no address to send a request to. -/
  | noAddress
  | malformed
  deriving DecidableEq, Repr

inductive CallFailure where
  /-- The credentials were rejected. -/
  | denied (status : HttpStatus)
  | failed (fault : CallFault)
  deriving DecidableEq, Repr

def HttpStatus.complaint (status : HttpStatus) : String :=
  "HTTP " ++ status.text ++ " from gateway"

def CallFault.reason : CallFault → String
  | status s => s.complaint
  | notSent url => "error sending request for url (" ++ url ++ ")"
  | noAddress => "builder error"
  | malformed => "malformed gateway response: error decoding response body"

def CallFailure.reason : CallFailure → String
  | denied s => s.complaint
  | failed fault => fault.reason

namespace HttpOutcome

/-- The outcome may be a different one at the next attempt. -/
def isTransient : HttpOutcome → Bool
  | answered status _ => status == .tooManyRequests || status.isServerError
  | failed .noConnection => true
  | failed .timeout => true
  | failed .other => false

/-- What an outcome means for the call that it decides. -/
def verdict {α : Type} (decode : String → Option α) (url : String) :
    HttpOutcome → Except CallFailure α
  | answered status body =>
    if status.isSuccess then
      match decode body with
      | some a => .ok a
      | none => .error (.failed .malformed)
    else if status.isDenial then .error (.denied status)
    else .error (.failed (.status status))
  | failed _ => .error (.failed (.notSent url))

theorem isSuccess_of_verdict {α : Type} {decode : String → Option α} {url : String}
    {o : HttpOutcome} {a : α} (h : o.verdict decode url = .ok a) : o.isSuccess = true := by
  cases o with
  | failed why => simp [verdict] at h
  | answered status body =>
    by_cases hs : status.isSuccess = true
    · exact hs
    · by_cases hd : status.isDenial = true <;> simp [verdict, hs, hd] at h

end HttpOutcome

namespace Transport

variable {τ α : Type}

/-- Posts a request, and posts it again up to a number of times while what came of it may pass. -/
def call (t : Transport τ) (decode : String → Option α) (r : HttpRequest) :
    Nat → τ → Except CallFailure α × τ
  | 0, s => ((t.send r s).1.verdict decode r.address.text, (t.send r s).2)
  | retries + 1, s =>
    if (t.send r s).1.isTransient then call t decode r retries (t.send r s).2
    else ((t.send r s).1.verdict decode r.address.text, (t.send r s).2)

theorem budget_call_lt (t : Transport τ) (decode : String → Option α) (r : HttpRequest)
    (retries : Nat) (s : τ) {a : α} (h : (t.call decode r retries s).1 = .ok a) :
    t.budget (t.call decode r retries s).2 < t.budget s := by
  induction retries generalizing s with
  | zero => exact t.budget_lt r s (HttpOutcome.isSuccess_of_verdict h)
  | succ n ih =>
    rw [call] at h ⊢
    split at h
    · rename_i ht
      rw [if_pos ht]
      exact Nat.lt_of_lt_of_le (ih _ h) (t.budget_le r s)
    · rename_i ht
      rw [if_neg ht]
      exact t.budget_lt r s (HttpOutcome.isSuccess_of_verdict h)

end Transport

end MarketBars
