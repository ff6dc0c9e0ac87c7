import Copilotd.Source.DiscordHttpLimiter

/-!
# The requests of a traced session

Source: `discord_http_limiter.py`, the trace callbacks `on_request_start`,
`on_request_end`, `on_request_exception` and `on_request_redirect`, and `close`.

A request waits in `on_request_start` until a pass of its loop admits it, raises or is
cancelled; from then on any of the other callbacks may run for its context, in any
order and more than once.  A 429 is handled in two locked blocks with the read of its
body between them.  Each label is one locked block of one request.
-/
namespace Copilotd.Source.DiscordHttpTrace

open Source.DiscordHttpLimiter

/-- A 429 whose body is being read: the request and what the second block will use. -/
structure BodyRead where
  request : Nat
  headers : Headers
  responseAt : ℚ
  readyForBody : Bool

structure Session where
  limiter : Limiter := {}
  /-- The requests in the loop of `on_request_start`. -/
  starting : List Context := []
  /-- The requests that have left it. -/
  sent : List Context := []
  bodies : List BodyRead := []
  /-- The contexts as they were admitted, in that order. -/
  admitted : List Context := []
  /-- The latest clock read. -/
  clock : ℚ := 0

inductive Label where
  | start (route : Route)
  | tryAdmit (index : Nat) (now admittedAt : ℚ)
  | cancelStart (index : Nat)
  | respond (request : Nat) (status : Nat) (headers : Headers) (responseAt : ℚ) (wallNow : ℚ × ℚ)
  | readBody (index : Nat) (body : Option Body) (now wallNow : ℚ)
  | fail (request : Nat)
  | close

/-- The locked blocks. -/
def step (settings : Settings) (s : Session) : Label → Option Session
  | .start route => some { s with starting := s.starting ++ [{ route }] }
  | .tryAdmit index now admittedAt => do
    let context ← s.starting[index]?
    if s.clock ≤ now ∧ now ≤ admittedAt then
      match s.limiter.tryAdmit settings context now admittedAt with
      | (limiter, .admitted context) => some { s with
          limiter
          starting := s.starting.eraseIdx index
          sent := s.sent ++ [context]
          admitted := s.admitted ++ [context]
          clock := admittedAt }
      | (limiter, .waits) => some { s with limiter, clock := now }
      | (limiter, _) => some { s with
          limiter
          starting := s.starting.eraseIdx index
          sent := s.sent ++ [context]
          clock := now }
    else none
  | .cancelStart index => do
    let context ← s.starting[index]?
    some { s with starting := s.starting.eraseIdx index, sent := s.sent ++ [context] }
  | .respond request status headers responseAt wallNow => do
    let context ← s.sent[request]?
    let (limiter, context, readyForBody) :=
      s.limiter.onResponse settings context status headers responseAt wallNow
    let answered := { s with
      limiter
      sent := s.sent.set request context
      -- The clock was read before the lock was taken.
      clock := max s.clock responseAt }
    some (if status = 429 then
      { answered with bodies := s.bodies ++ [{ request, headers, responseAt, readyForBody }] }
      else answered)
  | .readBody index body now wallNow => do
    let read ← s.bodies[index]?
    let context ← s.sent[read.request]?
    if s.clock ≤ now then
      let (limiter, context, _) := s.limiter.onBody settings context read.headers
        read.responseAt read.readyForBody body now wallNow
      some { s with
        limiter
        sent := s.sent.set read.request context
        bodies := s.bodies.eraseIdx index
        clock := now }
    else none
  | .fail request => do
    let context ← s.sent[request]?
    let (limiter, context) := s.limiter.onFailure context
    some { s with limiter, sent := s.sent.set request context }
  | .close => some { s with limiter := { s.limiter with closed := true } }

end Copilotd.Source.DiscordHttpTrace
