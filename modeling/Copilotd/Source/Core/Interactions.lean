import Copilotd.Base.Run
import Copilotd.Source.Storage.Tables

/-!
# Interaction settlement

Source: `core/interactions.py` (`InteractionGateway.request`, `respond`,
`cancel_pending`, `_settle`, `_expire_content_unavailable`) with the reducer's
handler for settled interactions (`core/reducer.py` 3038-3085), for one
interaction of one gateway.

A call is suspended at the await its phase names, and one label is one
uninterrupted stretch between two awaits.  Content is kept by value next to its
digest function.  Left out: how an answer is validated against the request (the
label carries the validated answer, or none for an invalid one), the liveness
lease, display texts and the response attempt id.
-/
namespace Copilotd.Source.Core.Interactions

open Source.Storage (InteractionState)

inductive InteractionKind where
  | userInput | exitPlanMode | autoModeSwitch | elicitation | mcpOauth
  deriving DecidableEq

/-- A JSON value without nested objects. -/
inductive Scalar where
  | null
  | bool (value : Bool)
  | number (value : ℚ)
  | text (value : String)
  | texts (values : List String)
  deriving DecidableEq

inductive Value where
  | scalar (value : Scalar)
  | record (fields : List (String × Scalar))
  deriving DecidableEq

/-- `InteractionResponse = dict[str, Any] | str`. -/
inductive InteractionResponse where
  | text (value : String)
  | dict (fields : List (String × Value))
  deriving DecidableEq

def textField (name value : String) : String × Value := (name, .scalar (.text value))

def boolField (name : String) (value : Bool) : String × Value := (name, .scalar (.bool value))

/-- `dict.get` with the default `None`. -/
def dictGet (fields : List (String × Value)) (name : String) : Value :=
  (fields.lookup name).getD (.scalar .null)

def interactionFallback : InteractionKind → InteractionResponse
  | .userInput =>
    .dict [textField "answer" "No response was received.", boolField "wasFreeform" true]
  | .exitPlanMode => .dict [boolField "approved" false]
  | .autoModeSwitch => .text "no"
  | .elicitation => .dict [textField "action" "cancel"]
  | .mcpOauth => .dict [textField "kind" "cancelled"]

def safeResponse (kind : InteractionKind) (response : InteractionResponse) :
    InteractionResponse :=
  match kind, response with
  | .mcpOauth, .dict fields =>
    if dictGet fields "kind" = .scalar (.text "token") then
      .dict [textField "kind" "token", ("tokenType", dictGet fields "tokenType"),
        ("expiresIn", dictGet fields "expiresIn"), textField "accessToken" "[redacted]"]
    else .dict [textField "kind" "cancelled"]
  | _, _ => response

def interactionTargetMode : InteractionResponse → Option String
  | .text _ => none
  | .dict fields =>
    if dictGet fields "approved" = .scalar (.bool true) then
      match dictGet fields "selectedAction" with
      | .scalar (.text action) =>
        if action ∈ ["interactive", "plan", "autopilot"] then some action else none
      | _ => none
    else none

/-- The columns of `pending_interactions` that the gateway reads or writes. -/
structure PendingInteraction where
  kind : InteractionKind
  state : InteractionState := .pending
  expiresAt : ℚ
  responseHash : Option String := none
  targetMode : Option String := none
  runtimeGeneration : Int
  ownerFenceToken : Int

structure InteractionScope where
  runtimeGeneration : Int
  ownerFenceToken : Int

def InteractionScope.owns (scope : InteractionScope) (row : PendingInteraction) : Bool :=
  row.runtimeGeneration = scope.runtimeGeneration ∧ row.ownerFenceToken = scope.ownerFenceToken

/-- The arguments of a `_settle` call with what its first stretch captures. -/
structure Settle where
  response : InteractionResponse
  persisted : InteractionResponse
  /-- `state == "resolved"`; otherwise the call is an expiry. -/
  resolved : Bool
  /-- The future was still registered when the call started. -/
  captured : Bool
  now : ℚ

/-- Who made the call.  `automatic` is the `respond` of `request` itself. -/
inductive Origin where
  | respond (answer : Option InteractionResponse)
  | automatic (answer : Option InteractionResponse)
  | cancelPending
  | decline
  | timeout
  | cancelled
  deriving DecidableEq

inductive Phase where
  | reading
  | checking (row : PendingInteraction)
  | transaction (args : Settle)
  | lost (args : Settle) (row : PendingInteraction)
  | committing (args : Settle)
  | committed (args : Settle)
  /-- The caller is gone, its event is still in the inbox. -/
  | posted (args : Settle)
  | expiringContent
  | contentExpired
  | fetchingKind

structure Call where
  origin : Origin
  phase : Phase

/-- Where the `request` coroutine is. -/
inductive Handler where
  | opening
  | answering
  | waiting
  | settling
  | cancelling
  | returned (value : InteractionResponse)
  | raised
  deriving DecidableEq

structure World where
  scope : InteractionScope
  sha256 : InteractionResponse → String
  row : PendingInteraction
  /-- The volatile content under the request key and under the response key. -/
  requestContent : Bool := true
  responseContent : Option InteractionResponse := none
  future : Option InteractionResponse := none
  /-- The future is in `_futures`. -/
  registered : Bool := true
  handler : Handler := .opening
  calls : List Call := []
  /-- The calls whose transaction claimed, and what every finished call returned. -/
  claims : List Settle := []
  outcomes : List (Bool × InteractionResponse) := []

/-- `future.set_result` where the source tests `future.done()` first. -/
def World.resolve (w : World) (captured : Bool) (value : InteractionResponse) : World :=
  if captured ∧ w.future = none then { w with future := some value } else w

/-- `_discard_interaction_content`. -/
def World.discard (w : World) : World :=
  { w with requestContent := false, responseContent := none }

/-- `VolatileContentStore.get` of the response key. -/
def World.recover (w : World) (expectedHash : Option String) : Option InteractionResponse :=
  w.responseContent.filter fun content =>
    expectedHash.all fun digest => w.sha256 content = digest

/-- The call returns to `request` if that is where it came from. -/
def World.leave (w : World) (origin : Origin) (value : InteractionResponse) : World :=
  match origin with
  | .timeout => { w with handler := .returned value, registered := false }
  | .cancelled => { w with handler := .raised, registered := false }
  | _ => w

/-- The call raises. -/
def World.fail (w : World) (origin : Origin) : World :=
  match origin with
  | .timeout | .cancelled => { w with handler := .raised, registered := false }
  | .decline | .automatic _ => { w with handler := .raised }
  | _ => w

/-- The first stretch of `_settle`. -/
def World.settle (w : World) (response persisted : InteractionResponse) (resolved : Bool)
    (now : ℚ) : Phase :=
  .transaction { response, persisted, resolved, captured := w.registered, now }

def World.settleFallback (w : World) (now : ℚ) : Phase :=
  let fallback := interactionFallback w.row.kind
  w.settle fallback (safeResponse w.row.kind fallback) false now

/-- The `claimed` predicate of the transaction. -/
def World.claimable (w : World) (args : Settle) : Bool :=
  w.row.state = .pending ∧ w.scope.owns w.row ∧ (args.resolved → w.row.expiresAt > args.now)

/-- The statements of a transaction that claims. -/
def World.claim (w : World) (args : Settle) : World :=
  { w with
    responseContent := some args.persisted
    row := { w.row with
      state := if args.resolved then .resolved else .expired
      responseHash := some (w.sha256 args.persisted)
      targetMode := if args.resolved then interactionTargetMode args.response else none }
    claims := args :: w.claims }

inductive Action where
  | read
  /-- The stretch after the row was read; `checked` and `now` are its two clock reads. -/
  | enter (checked now : ℚ)
  /-- The transaction; `room` is whether the content store has room. -/
  | transact (room : Bool)
  | reduce
  | finish
  /-- The caller is cancelled while its event is in the inbox. -/
  | abandon
  | raise

/-- `respond` from its row to the end of the stretch. -/
def respondChecks (w : World) (row : PendingInteraction) (answer : Option InteractionResponse)
    (checked now : ℚ) : World × Option Phase :=
  if row.state ≠ .pending then (w.discard, none)
  else if ¬ w.scope.owns row then (w, none)
  else if row.expiresAt ≤ checked then (w, some (w.settleFallback now))
  else if ¬ w.registered ∨ w.future.isSome then (w, none)
  else if ¬ w.requestContent then (w, some .expiringContent)
  else
    match answer with
    | none => (w, none)
    -- For every kind but OAuth `_safe_response` is the response itself, as in the source.
    | some response =>
      (w, some (w.settle response (safeResponse row.kind response) true now))

/-- The next stretch of a call: the world without the call's own place in the
pool, and the await at which the call is suspended then. -/
def resume (w : World) (call : Call) : Action → Option (World × Option Phase)
  | .read =>
    match call.phase with
    | .reading => some (w, some (.checking w.row))
    | _ => none
  | .enter checked now =>
    match call.phase, call.origin with
    | .checking row, .respond answer => some (respondChecks w row answer checked now)
    | .checking row, .automatic answer => some (respondChecks w row answer checked now)
    | .checking row, .cancelPending =>
      if row.state = .pending ∧ w.scope.owns row then some (w, some (w.settleFallback now))
      else some (w, none)
    | _, _ => none
  | .transact room =>
    match call.phase with
    | .transaction args =>
      if w.claimable args then
        if room then some (w.claim args, some (.committing args))
        else some (w.fail call.origin, none)
      else some (w, some (.lost args w.row))
    | .expiringContent =>
      some
        ({ w with
            row :=
              if w.row.state = .pending ∧ w.scope.owns w.row then
                { w.row with state := .contentUnavailable }
              else w.row },
          some .contentExpired)
    | _ => none
  | .reduce =>
    match call.phase with
    | .committing args =>
      some ({ w with responseContent := some args.persisted }, some (.committed args))
    | .posted args => some ({ w with responseContent := some args.persisted }, none)
    | _ => none
  | .finish =>
    match call.phase with
    | .lost args row =>
      let settled := (w.recover row.responseHash).getD (interactionFallback row.kind)
      let told := w.resolve args.captured settled
      let kept := if row.state ≠ .pending then told.discard else told
      some ({ kept with outcomes := (false, settled) :: w.outcomes }.leave call.origin settled,
        none)
    | .committed args =>
      let told := (w.resolve args.captured args.response).discard
      some
        ({ told with outcomes := (true, args.response) :: w.outcomes }.leave call.origin
          args.response, none)
    | .contentExpired =>
      if w.registered ∧ w.future = none then some (w, some .fetchingKind)
      else some (w.discard, none)
    | .fetchingKind =>
      -- Not tested again: a future that was resolved meanwhile makes this raise.
      if w.future = none then
        some ({ w with future := some (interactionFallback w.row.kind) }.discard, none)
      else some (w.fail call.origin, none)
    | _ => none
  | .abandon =>
    match call.phase with
    | .committing args => some (w.fail call.origin, some (.posted args))
    | _ => none
  | .raise => some (w.fail call.origin, none)

inductive Label where
  | respond (answer : Option InteractionResponse)
  | cancelPending
  /-- `request` declines an unsupported schema. -/
  | decline (now : ℚ)
  /-- `request` answers an OAuth interaction itself. -/
  | automatic (answer : Option InteractionResponse)
  /-- `request` starts to wait for the future. -/
  | await
  | wake
  | timeout (now : ℚ)
  | cancel (now : ℚ)
  /-- `request` is cancelled again, or before it waits. -/
  | abort
  | call (index : Nat) (action : Action)

def World.add (w : World) (origin : Origin) (phase : Phase) : World :=
  { w with calls := w.calls ++ [{ origin, phase }] }

/-- The call of `request` itself that it waits for before the future. -/
def Call.ofRequest (call : Call) : Bool :=
  match call.origin with
  | .decline | .automatic _ => true
  | _ => false

def step (w : World) : Label → Option World
  | .respond answer => some (w.add (.respond answer) .reading)
  | .cancelPending => some (w.add .cancelPending .reading)
  | .decline now =>
    if w.handler = .opening ∧ w.row.kind = .elicitation then
      let decline := .dict [textField "action" "decline"]
      some ({ w with handler := .answering }.add .decline (w.settle decline decline true now))
    else none
  | .automatic answer =>
    if w.handler = .opening ∧ w.row.kind = .mcpOauth then
      some ({ w with handler := .answering }.add (.automatic answer) .reading)
    else none
  | .await =>
    if (w.handler = .opening ∨ w.handler = .answering) ∧ ¬ w.calls.any Call.ofRequest then
      some { w with handler := .waiting }
    else none
  | .wake =>
    match w.handler, w.future with
    | .waiting, some value => some { w with handler := .returned value, registered := false }
    | _, _ => none
  | .timeout now =>
    -- `wait_for` may time out although the future is done.
    if w.handler = .waiting then
      some ({ w with handler := .settling }.add .timeout (w.settleFallback now))
    else none
  | .cancel now =>
    if w.handler = .waiting then
      some ({ w with handler := .cancelling }.add .cancelled (w.settleFallback now))
    else none
  | .abort =>
    match w.handler with
    | .opening => some { w with handler := .raised }
    -- The shielded settlement goes on by itself.
    | .cancelling => some { w with handler := .raised, registered := false }
    | _ => none
  | .call index action => do
    let call ← w.calls[index]?
    let (after, phase) ← resume w call action
    some { after with
      calls := w.calls.eraseIdx index ++ (phase.map fun phase => { call with phase }).toList }

end Copilotd.Source.Core.Interactions
