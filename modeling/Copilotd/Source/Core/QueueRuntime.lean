import Mathlib.Data.List.MinMax
import Copilotd.Base.Pool
import Copilotd.Source.Core.SubmissionViews

/-!
# The queue of a running session

Source: `core/session_runtime.py` (`send`, `_dispatch_next_queued`, `_dispatch_submission`,
`_claim_submission`, `_block_queue_item`, `cancel_queue_item`, `clear_queue`,
`resubmit_queue_item`, `update_queue_item`, `_replace_queue_item`, `_cancel_queued`);
`core/mailbox.py` (`settled_result`, `submit`, `_execute`).

A step is what one coroutine does between two awaits, so an event that was committed and is
not applied yet is a phase of the coroutine that waits for it, and the reducer may apply the
events in flight in any order.  The mailbox executes its operations one after the other; here
they interleave freely, which includes every order the mailbox can produce.

What the code decides by other tables is part of the label: the readiness of the session and
the columns of the binding (which block applies, whether the claimed item may be sent), the
fence, the frame size, the volatile content and the answer of the SDK.  Coroutines that wait
for a commit are not cancelled.
-/
namespace Copilotd.Source.Core.QueueRuntime

open Source.Core.Submissions
open Source.Storage (SubmissionState)

/-! ## Names -/

structure Session where
  sdkSessionId : String
  threadId : String
  /-- `accepted_user_event_id_mapping` is evidenced. -/
  exactMapping : Bool := false

def BlockReason.state : BlockReason → String
  | .configUnknown => "blocked_config_unknown"
  | .remoteTransition => "blocked_remote_transition"
  | .modeDrift => "blocked_mode_drift"
  | .modelDrift => "blocked_model_drift"
  | .agentDrift => "blocked_agent_drift"
  | .sessionConfigDrift => "blocked_session_config_drift"
  | .attachmentUnavailable => "blocked_attachment_unavailable"
  | .attachmentManifestMissing => "blocked_attachment_manifest_missing"

section Names

variable (uuid5 : String → String) (session : Session)

def submissionIdOf (idempotencyKey : String) : String :=
  uuid5 ("copilotd:" ++ session.sdkSessionId ++ ":submission:" ++ idempotencyKey)

def operationIdOf (idempotencyKey : String) : String :=
  uuid5 ("copilotd:" ++ session.sdkSessionId ++ ":operation:" ++ idempotencyKey)

def replacementIdOf (submissionId idempotencyKey : String) : String :=
  uuid5 ("copilotd:" ++ session.sdkSessionId ++ ":queue-replace:" ++ submissionId ++ ":" ++
    idempotencyKey)

def cancellationIdOf (submissionIds : List String) : String :=
  uuid5 ("copilotd:" ++ session.sdkSessionId ++ ":cancel:" ++ ",".intercalate submissionIds)

end Names

/-- An event of the application. -/
def internal (session : Session) (internalEventId : String) (receivedAt : ℚ) (body : Body) :
    Event :=
  { sdkSessionId := session.sdkSessionId, internalEventId := some internalEventId, receivedAt
    exactMapping := session.exactMapping, body }

def queuedEvent (session : Session) (data : QueuedData) (now : ℚ) : Event :=
  internal session ("submission:" ++ data.submissionId ++ ":queued") now (.queued data)

def submittingEvent (session : Session) (data : SubmittingData) (now : ℚ) : Event :=
  internal session ("submission:" ++ data.submissionId ++ ":submitting:" ++ data.operationId) now
    (.submitting data)

def deferredEvent (session : Session) (submissionId : String) (dispatchAttempt : Nat) (now : ℚ) :
    Event :=
  internal session
    ("submission:" ++ submissionId ++ ":pre-send-deferred:" ++ toString dispatchAttempt) now
    (.preSendDeferred submissionId)

def acceptedEvent (session : Session) (submissionId messageId : String) (now : ℚ) : Event :=
  internal session ("submission:" ++ submissionId ++ ":accepted") now
    (.accepted submissionId messageId)

def rejectedEvent (session : Session) (submissionId : String) (now : ℚ) : Event :=
  internal session ("submission:" ++ submissionId ++ ":rejected") now (.rejected submissionId)

def acceptanceUnknownEvent (session : Session) (submissionId : String) (now : ℚ) : Event :=
  internal session ("submission:" ++ submissionId ++ ":acceptance-unknown") now
    (.acceptanceUnknown submissionId)

/-- `_block_queue_item`. -/
def blockedEvent (session : Session) (submissionId : String) (reason : BlockReason) (now : ℚ) :
    Event :=
  internal session ("queue:" ++ submissionId ++ ":" ++ BlockReason.state reason) now
    (.queueBlocked submissionId reason)

/-- `cancellable` of `_cancel_queued`. -/
def cancellableStates : List QueueState :=
  [.localQueued, .blocked .configUnknown, .blocked .remoteTransition, .blocked .modeDrift,
    .blocked .modelDrift, .blocked .agentDrift, .blocked .sessionConfigDrift,
    .blocked .attachmentUnavailable, .blocked .attachmentManifestMissing]

def cancelEvent (uuid5 : String → String) (session : Session) (submissionIds : List String)
    (now : ℚ) : Event :=
  internal session ("submissions:" ++ cancellationIdOf uuid5 session submissionIds ++ ":cancelled")
    now (.cancelQueued submissionIds cancellableStates)

/-- `allowed` of `update_queue_item`. -/
def updatableStates : List QueueState :=
  [.localQueued, .blocked .configUnknown, .blocked .remoteTransition, .blocked .modeDrift,
    .blocked .modelDrift, .blocked .agentDrift, .blocked .sessionConfigDrift]

/-- `allowed` of `resubmit_queue_item`. -/
def resubmittableStates : List QueueState :=
  [.blocked .modeDrift, .blocked .modelDrift, .blocked .agentDrift,
    .blocked .sessionConfigDrift]

def replacedEvent (session : Session) (data : ReplacedData) (now : ℚ) : Event :=
  internal session ("queue:" ++ data.newId ++ ":replaced") now (.queueReplaced data)

/-! ## State -/

/-- What `bridge.send` answers. -/
inductive SendOutcome where
  | accepted (messageId : String) | rejected | unknown
  deriving DecidableEq

/-- How the mailbox settles an operation.  `deferred` is an operation that never ran;
`claimDeferred` one that gave its claim back. -/
inductive Outcome where
  | accepted (messageId : String) | rejected | unknown | deferred | claimDeferred
  deriving DecidableEq

inductive OperationPhase where
  | pending
  /-- `copilotd.submission.submitting` was committed. -/
  | reading
  /-- `_claim_submission` returned `claimed`. -/
  | checking
  /-- `copilotd.submission.pre_send_deferred` is in flight. -/
  | deferring
  /-- The SDK accepted, `copilotd.submission.accepted` is in flight. -/
  | accepting (messageId : String)
  | settled (outcome : Outcome)
  deriving DecidableEq

structure Operation where
  operationId : String
  submissionId : String
  dispatchAttempt : Nat
  phase : OperationPhase := .pending
  deriving DecidableEq

inductive CallPhase where
  /-- Before `submit`. -/
  | admitted
  /-- In `submit`; `late` if the record had settled before. -/
  | waiting (late : Bool)
  deriving DecidableEq

/-- A `_dispatch_submission` under way; `locked` if the pump made it. -/
structure Call where
  operationId : String
  submissionId : String
  dispatchAttempt : Nat
  locked : Bool
  phase : CallPhase := .admitted

/-- Who holds `_queue_dispatch_lock`, and what it is about to write. -/
inductive Holder where
  | pumping
  | dispatching
  | blocking (submissionId : String) (reason : BlockReason)
  | unavailable (submissionId : String)
  | cancelling (submissionIds : List String)
  | replacing (data : ReplacedData)
  deriving DecidableEq

structure Send where
  submissionId : String
  operationId : String
  outcome : SendOutcome

structure State where
  db : Db := {}
  holder : Option Holder := none
  calls : List Call := []
  operations : List Operation := []
  /-- The invocations of `bridge.send`. -/
  sends : List Send := []
  /-- The events whose `commit_internal` returned. -/
  commits : List Event := []
  /-- What stopped the reducer. -/
  failure : Option Failure := none

/-- What the pump does with the item it picked. -/
inductive Decision where
  | leave | dispatch | block (reason : BlockReason) | unavailable

inductive Label where
  /-- `send` admits a new submission. -/
  | enqueue (key : String) (data : QueuedData) (now : ℚ)
  /-- An immediate `send` reads its rows under the lock. -/
  | immediate (key : String)
  /-- The pump takes the lock and finds nothing unsettled. -/
  | pump
  | pick (decision : Decision)
  /-- `cancel_queue_item` or, without a target, `clear_queue`. -/
  | cancel (target : Option String)
  | update (submissionId key promptHash requestedMode : String) (createdAt : ℚ)
  /-- Without a hash the content is gone. -/
  | resubmit (submissionId key : String) (promptHash : Option String) (requestedMode : String)
      (createdAt : ℚ)
  /-- What the holder of the lock is about to write is applied. -/
  | apply (now : ℚ)
  /-- A call reaches the mailbox. -/
  | submit (index : Nat)
  /-- A call gives up before the mailbox took it. -/
  | withdraw (index : Nat)
  /-- A call learns the outcome of its operation. -/
  | report (index : Nat) (now : ℚ)
  /-- A call is told that the outcome is ambiguous. -/
  | doubt (index : Nat) (now : ℚ)
  /-- The fence is lost before the operation runs. -/
  | fence (index : Nat) (settles : Bool)
  | claim (index : Nat) (ready : Bool) (now : ℚ)
  | readBack (index : Nat)
  /-- The claimed item may not be sent; `owner` if the session is still owned. -/
  | unready (index : Nat) (owner : Bool)
  | postpone (index : Nat) (now : ℚ)
  | oversize (index : Nat)
  | send (index : Nat) (outcome : SendOutcome)
  | accept (index : Nat) (confirmed : Bool) (now : ℚ)
  | interrupt (index : Nat)
  /-- The reducer applies an event of the SDK or of a snapshot. -/
  | event (event : Event)
  | takeover (now : ℚ)
  /-- The process ends, and the startup recovery runs. -/
  | restart (lost expired : List String) (now : ℚ)

/-! ## Reads -/

/-- The query of an immediate `send`, as far as it lets the dispatch go on. -/
def immediateRead (db : Db) (submissionId : String) : Option QueueItem :=
  match db.submission submissionId, db.item submissionId with
  | some row, some item =>
    if row.acceptedMessageId = none ∧ row.state = .localQueued then some item else none
  | _, _ => none

def unsettledStates : List SubmissionState :=
  [.submitting, .submitted, .submittedUnknown, .observedActive, .continuationExpected]

/-- The count `unsettled` of the pump is zero. -/
def nothingUnsettled (session : Session) (db : Db) : Bool :=
  db.submissions.all fun row =>
    ¬ (row.sdkSessionId = session.sdkSessionId ∧ row.state ∈ unsettledStates)

/-- `… WHERE q.state = 'local_queued' ORDER BY q.position LIMIT 1`. -/
def nextQueued (session : Session) (db : Db) : Option QueueItem :=
  (db.queue.filter fun item => item.threadId = session.threadId ∧ item.state = .localQueued ∧
    (db.submission item.id).isSome).argmin (·.position)

/-- The ids that `_cancel_queued` selects. -/
def cancellableIds (session : Session) (target : Option String) (db : Db) : List String :=
  (db.queue.filter fun item => item.threadId = session.threadId ∧
    (target = none ∨ target = some item.id) ∧ item.state ∈ cancellableStates).map (·.id)

/-- `_replace_queue_item` finds its row. -/
def replaceable (session : Session) (allowed : List QueueState) (submissionId : String)
    (db : Db) : Bool :=
  (db.item submissionId).any (fun item =>
    item.threadId = session.threadId ∧ item.state ∈ allowed) ∧
  (db.submission submissionId).isSome

/-- What `_claim_submission` answers after its event was applied. -/
inductive Claim where
  | claimed | deferred | cancelled

def claimAnswer (session : Session) (operation : Operation) (db : Db) : Claim :=
  match db.submissionOf session.sdkSessionId operation.submissionId,
    db.item operation.submissionId with
  | some row, some item =>
    if row.state = .submitting ∧ item.state = .submitting ∧
        row.sourceOperationId = some operation.operationId then .claimed
    else if row.state = .localQueued ∧ item.state = .localQueued ∧
        operation.dispatchAttempt < item.dispatchAttempt then .deferred
    else .cancelled
  | _, _ => .cancelled

/-! ## Steps -/

/-- The operation of an idempotency key, whose name is the key's `uuid5`. -/
def State.operation (state : State) (operationId : String) : Option Operation :=
  state.operations.find? (·.operationId = operationId)

def State.setPhase (index : Nat) (operation : Operation) (phase : OperationPhase)
    (state : State) : State :=
  { state with operations := state.operations.set index { operation with phase } }

/-- A call returns; the pump's gives the lock back. -/
def State.finish (index : Nat) (call : Call) (state : State) : State :=
  { state with
    calls := state.calls.eraseIdx index
    holder := if call.locked then none else state.holder }

/-- `submit`: the first call of a key creates the operation. -/
def State.submit (index : Nat) (call : Call) (state : State) : State :=
  match state.operation call.operationId with
  | some operation =>
    let late := match operation.phase with
      | .settled _ => true
      | _ => false
    { state with calls := state.calls.set index { call with phase := .waiting late } }
  | none =>
    { state with
      calls := state.calls.set index { call with phase := .waiting false }
      operations := state.operations ++
        [{ operationId := call.operationId, submissionId := call.submissionId
           dispatchAttempt := call.dispatchAttempt }] }

/-- What a call writes when it learns the outcome.  The record of a deferred operation says
`rejected`, and a late call is told so. -/
def reportOf (session : Session) (call : Call) (late : Bool) (now : ℚ) :
    Outcome → Option Writer
  | .accepted messageId => some (.reduce (acceptedEvent session call.submissionId messageId now))
  | .rejected => some (.reduce (rejectedEvent session call.submissionId now))
  | .unknown => some (.reduce (acceptanceUnknownEvent session call.submissionId now))
  | .deferred =>
    if late then some (.reduce (rejectedEvent session call.submissionId now))
    else some (.requeue session.sdkSessionId call.submissionId call.operationId
      call.dispatchAttempt)
  | .claimDeferred =>
    if late then some (.reduce (rejectedEvent session call.submissionId now)) else none

/-- The operation as `_execute` leaves it when the process ends. -/
def interrupted (operation : Operation) : Operation :=
  match operation.phase with
  | .settled _ => operation
  | _ => { operation with phase := .settled .unknown }

/-- Events that come neither from the queue nor from a dispatch. -/
def Event.outside (event : Event) : Bool :=
  match event.body with
  | .userMessage _ | .sessionIdle _ | .taskComplete .. | .autopilotObjective ..
  | .quietSnapshot .. | .taskEvidence .. | .activeUnknown => true
  | _ => false

section Steps

variable (uuid5 : String → String) (session : Session)

/-- The step of the holder of the lock. -/
def applyHolder (now : ℚ) (state : State) : Option (Option Writer × State) :=
  let released : State := { state with holder := none }
  match state.holder with
  | some (.blocking submissionId reason) =>
    some (some (.reduce (blockedEvent session submissionId reason now)), released)
  | some (.unavailable submissionId) =>
    some (some (.contentUnavailable submissionId now), released)
  | some (.cancelling submissionIds) =>
    some (some (.reduce (cancelEvent uuid5 session submissionIds now)), released)
  | some (.replacing data) => some (some (.reduce (replacedEvent session data now)), released)
  | _ => none

def pickItem (decision : Decision) (item : QueueItem) (state : State) : State :=
  match decision with
  | .leave => { state with holder := none }
  | .block reason => { state with holder := some (.blocking item.id reason) }
  | .unavailable => { state with holder := some (.unavailable item.id) }
  | .dispatch =>
    { state with
      holder := some .dispatching
      calls := state.calls ++
        [{ operationId := operationIdOf uuid5 session
             ("send:queue:" ++ item.id ++ ":" ++ toString item.dispatchAttempt)
           submissionId := item.id, dispatchAttempt := item.dispatchAttempt, locked := true }] }

/-- The call of an immediate `send`. -/
def immediateCall (key : String) (item : QueueItem) : Call :=
  { operationId := operationIdOf uuid5 session
      (if item.dispatchAttempt = 0 then "send:" ++ key
        else "send:" ++ key ++ ":" ++ toString item.dispatchAttempt)
    submissionId := submissionIdOf uuid5 session key
    dispatchAttempt := item.dispatchAttempt, locked := false }

def callStep (index : Nat) (state : State) (next : Call → Option (Option Writer × State)) :
    Option (Option Writer × State) :=
  (state.calls[index]?).bind next

def operationStep (index : Nat) (state : State)
    (next : Operation → Option (Option Writer × State)) : Option (Option Writer × State) :=
  (state.operations[index]?).bind next

/-- What a step writes, and what it leaves beside the tables. -/
def plan (state : State) : Label → Option (Option Writer × State)
  | .enqueue key data now =>
    let submissionId := submissionIdOf uuid5 session key
    if (state.db.item submissionId).isSome then none
    else some (some (.reduce (queuedEvent session
      { data with submissionId, threadId := session.threadId } now)), state)
  | .immediate key =>
    if state.holder.isSome then none
    else (immediateRead state.db (submissionIdOf uuid5 session key)).map fun item =>
      (none, { state with calls := state.calls ++ [immediateCall uuid5 session key item] })
  | .pump =>
    if state.holder.isSome ∨ !nothingUnsettled session state.db then none
    else some (none, { state with holder := some .pumping })
  | .pick decision =>
    if state.holder ≠ some .pumping then none
    else match nextQueued session state.db with
      | none => some (none, { state with holder := none })
      | some item => some (none, pickItem uuid5 session decision item state)
  | .cancel target =>
    let submissionIds := cancellableIds session target state.db
    if state.holder.isSome ∨ submissionIds = [] then none
    else some (none, { state with holder := some (.cancelling submissionIds) })
  | .update submissionId key promptHash requestedMode createdAt =>
    if state.holder.isSome ∨ !replaceable session updatableStates submissionId state.db then none
    else some (none, { state with
      holder := some (.replacing {
        oldId := submissionId, newId := replacementIdOf uuid5 session submissionId key
        allowed := updatableStates, promptHash, requestedMode, createdAt }) })
  | .resubmit submissionId key promptHash requestedMode createdAt =>
    if state.holder.isSome ∨ !replaceable session resubmittableStates submissionId state.db then
      none
    else match promptHash with
      | none => some (none, { state with holder := some (.unavailable submissionId) })
      | some promptHash => some (none, { state with
          holder := some (.replacing {
            oldId := submissionId, newId := replacementIdOf uuid5 session submissionId key
            allowed := resubmittableStates, promptHash, requestedMode, createdAt }) })
  | .apply now => applyHolder uuid5 session now state
  | .submit index => callStep index state fun call =>
    if call.phase = .admitted then some (none, state.submit index call) else none
  | .withdraw index => callStep index state fun call =>
    if call.phase = .admitted then some (none, state.finish index call) else none
  | .report index now => callStep index state fun call =>
    match call.phase, (state.operation call.operationId).map Operation.phase with
    | .waiting late, some (.settled outcome) =>
      some (reportOf session call late now outcome, state.finish index call)
    | _, _ => none
  | .doubt index now => callStep index state fun call =>
    some (some (.reduce (acceptanceUnknownEvent session call.submissionId now)),
      state.finish index call)
  | .fence index settles => operationStep index state fun operation =>
    if operation.phase = .pending then
      some (some (.requeue session.sdkSessionId operation.submissionId operation.operationId
          operation.dispatchAttempt),
        state.setPhase index operation (.settled (if settles then .deferred else .unknown)))
    else none
  | .claim index ready now => operationStep index state fun operation =>
    if operation.phase = .pending then
      some (some (.reduce (submittingEvent session
          { submissionId := operation.submissionId, operationId := operation.operationId
            dispatchAttempt := operation.dispatchAttempt, ready } now)),
        state.setPhase index operation .reading)
    else none
  | .readBack index => operationStep index state fun operation =>
    if operation.phase = .reading then
      some (none, state.setPhase index operation (match claimAnswer session operation state.db with
        | .claimed => .checking
        | .deferred => .settled .claimDeferred
        | .cancelled => .settled .rejected))
    else none
  | .unready index owner => operationStep index state fun operation =>
    if operation.phase = .checking then
      if owner then some (none, state.setPhase index operation .deferring)
      else
        let requeued := (requeuePreSend session.sdkSessionId operation.submissionId
          operation.operationId operation.dispatchAttempt state.db).1
        some (some (.requeue session.sdkSessionId operation.submissionId operation.operationId
            operation.dispatchAttempt),
          state.setPhase index operation
            (.settled (if requeued then .claimDeferred else .unknown)))
    else none
  | .postpone index now => operationStep index state fun operation =>
    if operation.phase = .deferring then
      some (some (.reduce (deferredEvent session operation.submissionId
          operation.dispatchAttempt now)),
        state.setPhase index operation (.settled .claimDeferred))
    else none
  | .oversize index => operationStep index state fun operation =>
    if operation.phase = .checking then
      some (none, state.setPhase index operation (.settled .rejected))
    else none
  | .send index outcome => operationStep index state fun operation =>
    if operation.phase = .checking then
      some (none, { state.setPhase index operation (match outcome with
          | .accepted messageId => .accepting messageId
          | .rejected => .settled .rejected
          | .unknown => .settled .unknown) with
        sends := state.sends ++ [{ submissionId := operation.submissionId
                                   operationId := operation.operationId, outcome }] })
    else none
  | .accept index confirmed now => operationStep index state fun operation =>
    match operation.phase with
    | .accepting messageId =>
      some (some (.reduce (acceptedEvent session operation.submissionId messageId now)),
        state.setPhase index operation
          (.settled (if confirmed then .accepted messageId else .unknown)))
    | _ => none
  | .interrupt index => operationStep index state fun operation =>
    match operation.phase with
    | .settled _ => none
    | _ => some (none, state.setPhase index operation (.settled .unknown))
  | .event event => if Event.outside event then some (some (.reduce event), state) else none
  | .takeover now => some (some (.takeover session.sdkSessionId now), state)
  | .restart lost expired now => some (some (.recover lost expired now), { state with
      holder := none, calls := [], operations := state.operations.map interrupted
      failure := none })

/-- The transaction of a step.  A failing event stops the reducer and leaves everything as it
was, and no other event is applied. -/
def perform (state : State) : Option Writer × State → Option State
  | (none, next) => some next
  | (some (.reduce event), next) =>
    if state.failure.isSome then none
    else match persist uuid5 event state.db with
      | .ok db => some { next with db, commits := state.commits ++ [event] }
      | .error failure => some { state with failure := some failure }
  | (some writer, next) => (write uuid5 state.db writer).map fun db => { next with db }

def step (state : State) (label : Label) : Option State :=
  (plan uuid5 session state label).bind (perform uuid5 state)

end Steps

end Copilotd.Source.Core.QueueRuntime
