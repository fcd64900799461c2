import MarketBars.Http.Address
import MarketBars.Http.Status
import MarketBars.Json.Value

/-!
# Transports

A transport carries a request to a server and brings back what came of it: an answer, or a failure to
get one. What comes of a request may depend on all that happened before; this is the transport's state.

A transport promises that the answers which serve their requests come to an end: each of them uses up
a part of a budget, and no request adds to it.
-/

namespace MarketBars

/-- A request that posts a value to an address. -/
structure HttpRequest where
  address : WebAddress
  body : Json

/-- Why there is no answer. -/
inductive SendFailure where
  | noConnection
  | timeout
  | other
  deriving DecidableEq, Repr

inductive HttpOutcome where
  | answered (status : HttpStatus) (body : String)
  | failed (why : SendFailure)
  deriving DecidableEq, Repr

def HttpOutcome.isSuccess : HttpOutcome → Bool
  | answered status _ => status.isSuccess
  | failed _ => false

/-- How requests are carried. The states of the transport are in `τ`. -/
structure Transport (τ : Type) where
  send : HttpRequest → τ → HttpOutcome × τ
  /-- A bound on the number of requests that are still served. -/
  budget : τ → Nat
  budget_le : ∀ r s, budget (send r s).2 ≤ budget s
  budget_lt : ∀ r s, (send r s).1.isSuccess = true → budget (send r s).2 < budget s

def Transport.unreachable : Transport Unit where
  send := fun _ s => (.failed .noConnection, s)
  budget := fun _ => 0
  budget_le := fun _ _ => Nat.le_refl 0
  budget_lt := fun _ _ h => by simp [HttpOutcome.isSuccess] at h

/-- A server that plays back outcomes and keeps the requests that reached it. -/
structure Playback where
  pending : List HttpOutcome
  received : List HttpRequest := []

namespace Playback

/-- What comes of a request that reaches the server: the next outcome, or, when all are used up, the
answer that there is nothing at the address. -/
def serve (r : HttpRequest) (server : Playback) : HttpOutcome × Playback :=
  (server.pending.headD (.answered .notFound ""),
    { pending := server.pending.tail, received := server.received ++ [r] })

/-- The way to a server at an origin. No other origin can be reached. -/
def transport (origin : String) : Transport Playback where
  send := fun r server =>
    if r.address.origin = origin then server.serve r else (.failed .noConnection, server)
  budget := fun server => server.pending.length
  budget_le := by
    intro r server
    split
    · simp [serve]
    · exact Nat.le_refl _
  budget_lt := by
    intro r server h
    split at h
    · rename_i ho
      rw [if_pos ho]
      cases hp : server.pending with
      | nil => simp [serve, hp, HttpOutcome.isSuccess, HttpStatus.isSuccess, HttpStatus.notFound] at h
      | cons o rest => simp [serve, hp]
    · simp [HttpOutcome.isSuccess] at h

end Playback

end MarketBars
