import Copilotd.Base.Run
import Copilotd.Source.Core.Operations

/-!
# Command mailboxes

Source: `core/mailbox.py` (`CommandMailbox`), over the operation store and the
reducer's operation handlers.  The mailboxes of one session share a database; each
has an inbox, and several may share one.

A coroutine is a phase that names the await it is suspended at; a label says
which coroutine resumes and how its environment answers (a validator's verdict, an
operation's outcome, an exception, a cancellation).  One label is one
uninterrupted stretch between two awaits, so label lists are exactly the
interleavings of the event loops and processes.  The inbox is modelled up to the
reducer's answer: an event in flight is applied when its committer's `reduce`
label is taken, and it is lost when the committer is dropped before that.  The
inbox is first in, first out, so the sequence number is drawn when the reducer
takes the event.

Left out: result content (`core/volatile_content.py`), message texts put on a
future, the `on_fence_deferred` callback, whose exception only adds to such a
text, and exceptions that end the event loop.
-/
namespace Copilotd.Source.Core

open Base.Table Source.Storage

structure Inbox where
  generation : Int
  fenceToken : Int
  nextSeq : Nat := 0
  /-- The reducer stopped on an error and failed every pending envelope. -/
  failed : Bool := false

/-- A transition event that reached its handler, with the durable state it met. -/
structure AppliedTransition where
  operationId : String
  fromState : OperationState
  durable : Option OperationState

/-- What every mailbox of the session shares. -/
structure Shared where
  sdkSessionId : String
  requireBindingFence : Bool := false
  db : CoreDatabase := {}
  inboxes : Nat → Inbox
  applied : List AppliedTransition := []

/-- An event handed to `commit_internal`. -/
structure Posting where
  internalEventId : String
  event : OperationEvent
  deriving DecidableEq

/-- `_MailboxItem`; `future` identifies the item's own future. -/
structure Item where
  record : OperationRecord
  future : Nat
  deferOnFenceLoss : Bool := false
  retainResultForReplay : Bool := false
  deriving DecidableEq

/-- Which `transition` call of `_execute`, `_finish_ambiguous` or the outer
handler of `_run` is in progress. -/
inductive Site where
  | start | confirm | reject | ambiguous | outer

/-- The await at which the worker's handling of an item is suspended. -/
inductive Phase where
  | fenceBeforeStart
  | commit (site : Site) (record : OperationRecord) (state : OperationState)
      (posting : Posting)
  | reread (site : Site) (record : OperationRecord) (state : OperationState)
  | fenceBeforeDispatch (record : OperationRecord)
  | operation (record : OperationRecord)
  | fenceAfterDispatch (record : OperationRecord)
  | settling (record : OperationRecord) (errorCode : String)
  | discarding (record : OperationRecord)
  /-- `emergency_stop` has taken the item from the queue and settles it itself. -/
  | draining (record : OperationRecord)

/-- How the awaited call answers. -/
inductive Outcome where
  | fence (valid : Bool)
  | persistenceRaises (errorCode : String)
  | returns
  | rejects (errorCode : String)
  | defers (errorCode : String)
  | raises (errorCode : String)
  | cancelled
  | reduce
  | commitFails
  | read
  | settle
  | discard
  deriving DecidableEq

structure Execution where
  mailbox : Nat
  inbox : Nat
  item : Item
  phase : Phase
  /-- A `CancelledError` is raised again once the item is settled, and ends the worker. -/
  reraises : Bool := false

/-- A worker is suspended in it, not `emergency_stop`. -/
def Execution.byWorker (x : Execution) : Bool :=
  match x.phase with
  | .draining _ => false
  | _ => true

/-- Futures that are done, and the `_futures` maps of the mailboxes. -/
structure Futures where
  done : List Nat := []
  registered : List (Nat × String × Nat) := []

/-- The done callback evicts the item's key from its mailbox. -/
def Futures.finish (futures : Futures) (mailbox : Nat) (item : Item) : Futures :=
  { done := item.future :: futures.done
    registered := futures.registered.filter fun entry =>
      !(entry.1 = mailbox ∧ entry.2.1 = item.record.idempotencyKey) }

/-- `if not future.done(): future.set_exception(...)`. -/
def Futures.finishChecked (futures : Futures) (mailbox : Nat) (item : Item) : Futures :=
  if item.future ∈ futures.done then futures else futures.finish mailbox item

/-! ## Commits -/

/-- The envelope of a posted event. -/
def Shared.envelope (shared : Shared) (inbox : Nat) (posting : Posting) : Envelope :=
  { sdkSessionId := shared.sdkSessionId
    generation := (shared.inboxes inbox).generation
    fenceToken := (shared.inboxes inbox).fenceToken
    inboxSeq := (shared.inboxes inbox).nextSeq + 1
    internalEventId := posting.internalEventId
    event := posting.event }

/-- The transition that `persist` hands to its handler, if it gets that far. -/
def Shared.attempt (shared : Shared) (env : Envelope) : List AppliedTransition :=
  if fenceAdmits shared.requireBindingFence shared.db env && !journaled shared.db env then
    match env.event with
    | .transition operationId fromState _ _ _ _ =>
      [{ operationId, fromState
         durable := (operationById shared.db.operations operationId).map (·.state) }]
    | _ => []
  else []

def Shared.setInbox (shared : Shared) (inbox : Nat) (box : Inbox) : Shared :=
  { shared with inboxes := Function.update shared.inboxes inbox box }

@[simp] theorem setInbox_db (shared : Shared) (inbox : Nat) (box : Inbox) :
    (shared.setInbox inbox box).db = shared.db := rfl

/-- The reducer handles one envelope.  An error stops it: its inbox is failed. -/
def Shared.reduce (shared : Shared) (inbox : Nat) (posting : Posting) : Bool × Shared :=
  let env := shared.envelope inbox posting
  let box := shared.inboxes inbox
  let logged := { shared with applied := shared.applied ++ shared.attempt env }
  match persist shared.requireBindingFence env shared.db with
  | .ok db => (true, { logged with db }.setInbox inbox { box with nextSeq := box.nextSeq + 1 })
  | .error _ =>
    (false, logged.setInbox inbox { box with nextSeq := box.nextSeq + 1, failed := true })

/-! ## The worker -/

/-- What a resumed execution leaves: the shared state, the futures, whether the
operation callable was called, whether a `CancelledError` is on its way out, and the next
await (`none`: the item is finished). -/
structure Resumed where
  shared : Shared
  futures : Futures
  called : Bool := false
  reraises : Bool := false
  phase : Option Phase := none

def transitionEventId (record : OperationRecord) (state : OperationState) : String :=
  "operation:" ++ record.operationId ++ ":" ++ state.value

/-- `_finish_ambiguous`, also as the outer handler calls it: request the
transition to `unknown`; whatever it raises is swallowed and the future settled. -/
def finishAmbiguous (site : Site) (shared : Shared) (futures : Futures) (x : Execution)
    (record : OperationRecord) (errorCode : String) (now : ℚ) : Resumed :=
  match transitionEvent record .unknown none (some errorCode) now with
  | .error _ => { shared, futures := futures.finishChecked x.mailbox x.item }
  | .ok event =>
    if (shared.inboxes x.inbox).failed then
      { shared, futures := futures.finishChecked x.mailbox x.item }
    else
      { shared, futures
        phase := some (.commit site record .unknown ⟨transitionEventId record .unknown, event⟩) }

/-- An exception leaves `_execute`: `_run` settles the item from `item.record`. -/
def escape (shared : Shared) (futures : Futures) (x : Execution) (errorCode : String) (now : ℚ) :
    Resumed :=
  finishAmbiguous .outer shared futures x x.item.record errorCode now

/-- `future.set_result` or `future.set_exception` without a check: on a future that
is already done this raises `InvalidStateError`. -/
def complete (shared : Shared) (futures : Futures) (x : Execution) (now : ℚ) : Resumed :=
  if x.item.future ∈ futures.done then escape shared futures x "InvalidStateError" now
  else { shared, futures := futures.finish x.mailbox x.item }

/-- The `transition` call at a site raised an exception other than a cancellation. -/
def raiseAt (site : Site) (shared : Shared) (futures : Futures) (x : Execution)
    (record : OperationRecord) (errorCode : String) (now : ℚ) : Resumed :=
  match site with
  | .start | .reject => escape shared futures x errorCode now
  | .confirm => finishAmbiguous .ambiguous shared futures x record errorCode now
  | .ambiguous | .outer => { shared, futures := futures.finishChecked x.mailbox x.item }

/-- `OperationStore.transition` up to its commit, at one of the three sites of
`_execute` itself. -/
def request (site : Site) (shared : Shared) (futures : Futures) (x : Execution)
    (record : OperationRecord) (state : OperationState) (resultRef errorCode : Option String)
    (now : ℚ) : Resumed :=
  match transitionEvent record state resultRef errorCode now with
  | .error _ => raiseAt site shared futures x record "ValueError" now
  | .ok event =>
    if (shared.inboxes x.inbox).failed then
      raiseAt site shared futures x record "RuntimeError" now
    else
      { shared, futures
        phase := some (.commit site record state ⟨transitionEventId record state, event⟩) }

/-- The `transition` call at a site returned its record. -/
def afterTransition (site : Site) (shared : Shared) (futures : Futures) (x : Execution)
    (record : OperationRecord) (now : ℚ) : Resumed :=
  match site with
  | .start => { shared, futures, phase := some (.fenceBeforeDispatch record) }
  | .confirm =>
    if x.item.retainResultForReplay then complete shared futures x now
    else { shared, futures, phase := some (.discarding record) }
  | .reject => complete shared futures x now
  | .ambiguous | .outer => { shared, futures := futures.finishChecked x.mailbox x.item }

def fenceLost (shared : Shared) (futures : Futures) (x : Execution) (record : OperationRecord)
    (errorCode : String) (now : ℚ) : Resumed :=
  if x.item.deferOnFenceLoss then
    { shared, futures, phase := some (.settling record errorCode) }
  else finishAmbiguous .ambiguous shared futures x record errorCode now

def operationResultRef (record : OperationRecord) : String :=
  "vc:operation-result:" ++ record.sdkSessionId ++ ":" ++ record.operationId

/-- One stretch of `_run`/`_execute` between two awaits. -/
def resume (shared : Shared) (futures : Futures) (x : Execution) (outcome : Outcome) (now : ℚ) :
    Option Resumed :=
  match x.phase, outcome with
  | .fenceBeforeStart, .fence true =>
    some (request .start shared futures x x.item.record .started none none now)
  | .fenceBeforeStart, .fence false =>
    some (fenceLost shared futures x x.item.record "owner_fence_lost_before_start" now)
  | .fenceBeforeStart, .raises errorCode => some (escape shared futures x errorCode now)
  | .commit site record state posting, .reduce =>
    match shared.reduce x.inbox posting with
    | (true, reduced) =>
      some { shared := reduced, futures, phase := some (.reread site record state) }
    | (false, failed) => some (raiseAt site failed futures x record "RuntimeError" now)
  | .commit site record _ _, .commitFails =>
    if (shared.inboxes x.inbox).failed then
      some (raiseAt site shared futures x record "RuntimeError" now)
    else none
  | .reread site record state, .read =>
    match transitionReread record state shared.db.operations with
    | .ok transitioned => some (afterTransition site shared futures x transitioned now)
    | .error _ => some (raiseAt site shared futures x record "OperationAmbiguous" now)
  | .fenceBeforeDispatch record, .fence true =>
    some { shared, futures, called := true, phase := some (.operation record) }
  | .fenceBeforeDispatch record, .fence false =>
    some (fenceLost shared futures x record "owner_fence_lost_before_dispatch" now)
  | .fenceBeforeDispatch _, .raises errorCode => some (escape shared futures x errorCode now)
  | .operation record, .returns =>
    some { shared, futures, phase := some (.fenceAfterDispatch record) }
  | .operation record, .rejects errorCode =>
    some (request .reject shared futures x record .rejected none (some errorCode) now)
  | .operation record, .defers errorCode =>
    some { shared, futures, phase := some (.settling record errorCode) }
  | .operation record, .raises errorCode =>
    some (finishAmbiguous .ambiguous shared futures x record errorCode now)
  | .operation record, .cancelled =>
    -- The worker was cancelled, or the operation raised the error itself.
    some { finishAmbiguous .ambiguous shared futures x record "mailbox_cancelled" now with
      reraises := true }
  | .fenceAfterDispatch record, .fence true =>
    some (request .confirm shared futures x record .confirmed (some (operationResultRef record))
      none now)
  | .fenceAfterDispatch record, .persistenceRaises errorCode =>
    some (finishAmbiguous .ambiguous shared futures x record errorCode now)
  | .fenceAfterDispatch record, .fence false =>
    some (finishAmbiguous .ambiguous shared futures x record "owner_fence_lost_after_dispatch" now)
  | .fenceAfterDispatch _, .raises errorCode => some (escape shared futures x errorCode now)
  | .settling record errorCode, .settle =>
    match settleDeferred record errorCode now shared.db.operations with
    | .ok (_, rows) => some
        (complete { shared with db := shared.db.setOperations rows } futures x now)
    | .error (.operationAmbiguous _) => some (complete shared futures x now)
    | .error _ => some (escape shared futures x "RuntimeError" now)
  | .discarding record, .discard => some
      (complete { shared with
        db := shared.db.setOperations (discardResult record shared.db.operations) } futures x now)
  | .discarding _, .raises errorCode => some (escape shared futures x errorCode now)
  | .draining record, .settle =>
    match settleDeferred record "mailbox_emergency_deferred" now shared.db.operations with
    | .ok (_, rows) => some
        { shared := { shared with db := shared.db.setOperations rows }
          futures := futures.finishChecked x.mailbox x.item }
    | .error _ => some { shared, futures := futures.finishChecked x.mailbox x.item }
  | .fenceBeforeStart, .cancelled | .commit .., .cancelled | .reread .., .cancelled
  | .fenceBeforeDispatch _, .cancelled | .fenceAfterDispatch _, .cancelled
  | .settling .., .cancelled | .discarding _, .cancelled =>
    some { shared, futures, reraises := true }
  | .draining _, .cancelled => some { shared, futures }
  | _, _ => none

/-! ## Callers of `begin` -/

inductive BeginPhase where
  | reading
  | committing (posting : Posting)
  | rereading
  | putting (item : Item)
  deriving DecidableEq

/-- A call of `begin`: from `submit`, which holds its mailbox's submission lock until
the item is enqueued, or directly on the store (`mailbox = none`). -/
structure Caller where
  mailbox : Option Nat
  inbox : Nat
  args : BeginArgs
  deferOnFenceLoss : Bool := false
  retainResultForReplay : Bool := false
  phase : BeginPhase := .reading
  deriving DecidableEq

inductive CallerAction where
  | read (contentAvailable : Bool)
  | reduce
  | commitFails
  | reread
  | put
  | abandon
  deriving DecidableEq

structure Mailbox where
  inbox : Nat
  runtimeGeneration : Int
  ownerFenceToken : Int
  /-- `_worker` is not `None`; its task may have ended. -/
  running : Bool := false
  accepting : Bool := false
  /-- Tasks of `_run` that go on; one may outlive a stop's timeout. -/
  workers : Nat := 0
  /-- `maxsize` of the queue; 0 is a queue without a bound. -/
  capacity : Nat := 1024

structure World where
  shared : Shared
  futures : Futures := {}
  mailboxes : Nat → Mailbox
  callers : List Caller := []
  queued : List (Nat × Item) := []
  executing : List Execution := []
  nextFuture : Nat := 0
  /-- Keys for which `begin` has returned `created = True`, latest first. -/
  created : List String := []
  /-- Keys whose operation callable a worker has called, latest first. -/
  started : List String := []

/-- The queue of the mailbox has room for an item. -/
def World.hasRoom (w : World) (mailbox : Nat) : Bool :=
  (w.mailboxes mailbox).capacity = 0 ||
    (w.queued.countP fun entry => entry.1 = mailbox) < (w.mailboxes mailbox).capacity

/-- `settled_result` of a record that `begin` found: a confirmed result that is
available and not retained is discarded. -/
def settledResult (caller : Caller) (record : OperationRecord) (contentAvailable : Bool)
    (rows : List OperationRow) : List OperationRow :=
  if record.state = .confirmed ∧ contentAvailable ∧ !caller.retainResultForReplay then
    discardResult record rows
  else rows

def pendingEventId (args : BeginArgs) : String := "operation:" ++ args.operationId ++ ":pending"

/-- One stretch of `begin` and `submit`; the caller has been taken out of the list. -/
def resumeCaller (w : World) (caller : Caller) (action : CallerAction) (now : ℚ) : Option World :=
  match caller.phase, action with
  | .reading, .read contentAvailable =>
    match beginRead caller.args w.shared.db.operations with
    | some (.ok record) =>
      if caller.mailbox.isSome then
        some { w with
          shared := { w.shared with
            db := w.shared.db.setOperations
              (settledResult caller record contentAvailable w.shared.db.operations) } }
      else some w
    | some (.error _) => some w
    | none =>
      if (w.shared.inboxes caller.inbox).failed then some w
      else
        some { w with
          callers := w.callers ++ [{ caller with
            phase := .committing ⟨pendingEventId caller.args, beginEvent caller.args now⟩ }] }
  | .committing posting, .reduce =>
    match w.shared.reduce caller.inbox posting with
    | (true, reduced) => some { w with
        shared := reduced
        callers := w.callers ++ [{ caller with phase := .rereading }] }
    | (false, failed) => some { w with shared := failed }
  | .committing _, .commitFails =>
    if (w.shared.inboxes caller.inbox).failed then some w else none
  | .rereading, .reread =>
    match beginReread caller.args w.shared.db.operations with
    | .error _ => some w
    | .ok record =>
      let created := { w with created := caller.args.idempotencyKey :: w.created }
      match caller.mailbox with
      | none => some created
      | some mailbox =>
        let item : Item :=
          { record, future := w.nextFuture, deferOnFenceLoss := caller.deferOnFenceLoss
            retainResultForReplay := caller.retainResultForReplay }
        some { created with
          nextFuture := w.nextFuture + 1
          futures := { w.futures with
            registered := (mailbox, caller.args.idempotencyKey, w.nextFuture) ::
              w.futures.registered }
          callers := w.callers ++ [{ caller with phase := .putting item }] }
  | .putting item, .put =>
    match caller.mailbox with
    | some mailbox =>
      if w.hasRoom mailbox then some { w with queued := w.queued ++ [(mailbox, item)] } else none
    | none => none
  | _, .abandon => some w
  | _, _ => none

/-! ## The session's mailboxes -/

inductive Label where
  | start (mailbox : Nat)
  | freeze (mailbox : Nat)
  | thaw (mailbox : Nat)
  | submit (mailbox : Nat) (kind key inputHash : String) (allowWhenFrozen : Bool)
      (deferOnFenceLoss retainResultForReplay : Bool)
  | begin (inbox : Nat) (kind key inputHash : String)
  | caller (index : Nat) (action : CallerAction) (now : ℚ)
  | take (index : Nat)
  /-- A worker is cancelled while it waits for the queue. -/
  | workerEnds (mailbox : Nat)
  | execute (index : Nat) (outcome : Outcome) (now : ℚ)
  | stopItem (index : Nat)
  | deferItem (index : Nat)
  | sweep (mailbox : Nat)
  | markUnsettledUnknown (mailbox : Nat) (errorCode : String) (now : ℚ)
  | acquire (store : OwnerLeaseStore) (ownerId : String) (now : ℚ)
  | bind (bindings : List BindingRow)
  | reducerFails (inbox : Nat)
  | crash (mailbox : Nat)

def nextOfMailbox (queued : List (Nat × Item)) (index mailbox : Nat) : Bool :=
  (queued.take index).all fun entry => entry.1 ≠ mailbox

def World.setMailbox (w : World) (index : Nat) (mailbox : Mailbox) : World :=
  { w with mailboxes := Function.update w.mailboxes index mailbox }

/-- `get_nowait`, then `set_exception` if the future is not done. -/
def World.dropItem (w : World) (index : Nat) (entry : Nat × Item) : World :=
  { w with
    queued := w.queued.eraseIdx index
    futures := w.futures.finishChecked entry.1 entry.2 }

def World.takeItem (w : World) (index m : Nat) (item : Item) (phase : Phase) : World :=
  { w with
    queued := w.queued.eraseIdx index
    executing := w.executing ++ [{ mailbox := m, inbox := (w.mailboxes m).inbox, item, phase }] }

/-- A worker of the mailbox waits for the queue. -/
def World.hasIdleWorker (w : World) (m : Nat) : Bool :=
  (w.executing.countP fun x => x.mailbox = m && x.byWorker) < (w.mailboxes m).workers

/-- `_run` is left; the mailbox goes on accepting. -/
def World.loseWorker (w : World) (m : Nat) : World :=
  w.setMailbox m { w.mailboxes m with workers := (w.mailboxes m).workers - 1 }

def step (w : World) : Label → Option World
  | .start m =>
    let mailbox := w.mailboxes m
    if mailbox.running then none
    else
      some (w.setMailbox m
        { mailbox with running := true, accepting := true, workers := mailbox.workers + 1 })
  | .freeze m => some (w.setMailbox m { w.mailboxes m with accepting := false })
  | .thaw m =>
    if (w.mailboxes m).running then
      some (w.setMailbox m { w.mailboxes m with accepting := true })
    else none
  | .submit m kind key inputHash allowWhenFrozen deferOnFenceLoss retainResultForReplay =>
    let mailbox := w.mailboxes m
    -- The submission lock is free, and no future of the key is registered.
    if (mailbox.accepting || allowWhenFrozen) ∧
        (w.callers.all fun caller => caller.mailbox ≠ some m) ∧
        (w.futures.registered.all fun entry => ¬(entry.1 = m ∧ entry.2.1 = key)) then
      some { w with
        callers := w.callers ++ [
          { mailbox := some m, inbox := mailbox.inbox, deferOnFenceLoss, retainResultForReplay
            args :=
              { sdkSessionId := w.shared.sdkSessionId
                runtimeGeneration := mailbox.runtimeGeneration
                ownerFenceToken := mailbox.ownerFenceToken
                kind, idempotencyKey := key, inputHash } }] }
    else none
  | .begin inbox kind key inputHash =>
    let box := w.shared.inboxes inbox
    some { w with
      callers := w.callers ++ [
        { mailbox := none, inbox
          args :=
            { sdkSessionId := w.shared.sdkSessionId, runtimeGeneration := box.generation
              ownerFenceToken := box.fenceToken, kind, idempotencyKey := key, inputHash } }] }
  | .caller index action now => do
    let caller ← w.callers[index]?
    resumeCaller { w with callers := w.callers.eraseIdx index } caller action now
  | .take index => do
    let (m, item) ← w.queued[index]?
    if nextOfMailbox w.queued index m && w.hasIdleWorker m then
      some (w.takeItem index m item .fenceBeforeStart)
    else none
  | .workerEnds m => if w.hasIdleWorker m then some (w.loseWorker m) else none
  | .execute index outcome now => do
    let x ← w.executing[index]?
    let resumed ← resume w.shared w.futures x outcome now
    let reraises := x.reraises || resumed.reraises
    some { (if reraises && resumed.phase.isNone then w.loseWorker x.mailbox else w) with
      shared := resumed.shared
      futures := resumed.futures
      started := if resumed.called then x.item.record.idempotencyKey :: w.started else w.started
      executing := w.executing.eraseIdx index ++
        (resumed.phase.map fun phase => { x with phase, reraises }).toList }
  | .stopItem index => do
    let entry ← w.queued[index]?
    some (w.dropItem index entry)
  | .deferItem index => do
    let (m, item) ← w.queued[index]?
    if nextOfMailbox w.queued index m then
      some (w.takeItem index m item (.draining item.record))
    else none
  | .sweep m =>
    -- The queue has been emptied; every registered future that is not done fails.
    if w.queued.all fun entry => entry.1 ≠ m then
      let mine := w.futures.registered.filter fun entry => entry.1 = m
      some { w.setMailbox m { w.mailboxes m with running := false, accepting := false } with
        futures :=
          { done := mine.map (·.2.2) ++ w.futures.done
            registered := w.futures.registered.filter fun entry => !(entry.1 = m) } }
    else none
  | .markUnsettledUnknown m errorCode now =>
    let mailbox := w.mailboxes m
    if (w.shared.inboxes mailbox.inbox).failed then some w
    else
      some { w with
        shared := (w.shared.reduce mailbox.inbox
          ⟨"operations:" ++ w.shared.sdkSessionId ++ ":" ++ toString mailbox.runtimeGeneration ++
              ":" ++ toString mailbox.ownerFenceToken ++ ":unknown:" ++ errorCode,
            .unsettledUnknown mailbox.runtimeGeneration mailbox.ownerFenceToken errorCode
              now⟩).2 }
  | .acquire store ownerId now =>
    match store.acquire w.shared.sdkSessionId ownerId now w.shared.db.toDatabase with
    | .ok (_, db) => some { w with
        shared := { w.shared with db := { w.shared.db with toDatabase := db } } }
    | .error _ => some w
  | .bind bindings => some { w with
      shared := { w.shared with db := { w.shared.db with bindings } } }
  | .reducerFails inbox => some { w with
      shared := w.shared.setInbox inbox { w.shared.inboxes inbox with failed := true } }
  | .crash m => some
      { w.setMailbox m
        { w.mailboxes m with running := false, accepting := false, workers := 0 } with
        callers := w.callers.filter fun caller => caller.mailbox ≠ some m
        queued := w.queued.filter fun entry => entry.1 ≠ m
        executing := w.executing.filter fun x => x.mailbox ≠ m
        futures := { w.futures with
          registered := w.futures.registered.filter fun entry => !(entry.1 = m) } }

end Copilotd.Source.Core
