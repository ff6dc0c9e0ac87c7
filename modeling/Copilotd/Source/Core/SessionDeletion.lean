import Copilotd.Base.Run
import Copilotd.Source.Core.Bindings

/-!
# Deletion of a session

Source: `core/session_deletion.py` (`SessionDeletionService.delete` and all that it
calls, with `_finish_cleanup` cut to the row).

A call suspends at every statement and at every call of the bridge or of a runtime;
its phase says where.  What the runtime does to the row during the teardown are steps
of other tasks, as are the attachments, the scheduler and the recovery.  The id of an
operation is a hash of its attempt number and stands for it.  A binding's row is never
removed and never moves to another thread, so those two errors do not occur.  A crash
ends all calls between two transactions.
-/
namespace Copilotd.Source.Core.SessionDeletion

open Source.Core.Bindings

/-- A delete operation's row is inserted as started. -/
inductive OperationState where
  | started | unknown | confirmed
  deriving DecidableEq

/-- A row of `session_operations` with kind `delete-session`. -/
structure Operation where
  attempt : Nat
  runtimeGeneration : Nat
  ownerFenceToken : Nat
  state : OperationState := .started
  createdAt : Nat

structure Store where
  binding : SessionBinding := {}
  operations : List Operation := []

namespace Store

/-- `_begin_attempt`: the insertion is rolled back if the intent does not admit it. -/
def beginAttempt (store : Store) (current : SessionBinding) (now : Nat) : Option (Store × Nat) :=
  let attempt := store.operations.length + 1
  if store.binding.bindingIntent ∈ [.closed, .deleting, .deleteUnknown] then
    some
      ({ binding :=
          { store.binding with
            bindingIntent := .deleting
            rowVersion := store.binding.rowVersion + 1 }
         operations := store.operations ++
          [{ attempt
             runtimeGeneration := current.runtimeGeneration
             ownerFenceToken := current.ownerFenceToken.getD 0
             createdAt := now }] },
       attempt)
  else none

def updateOperation (store : Store) (attempt : Nat) (change : Operation → Operation) :
    List Operation :=
  store.operations.map fun operation =>
    if operation.attempt = attempt then change operation else operation

def markUnknown (store : Store) (attempt : Nat) : Store :=
  { binding :=
      if store.binding.bindingIntent ∈ [.deleting, .deleteUnknown] then
        { store.binding with
          bindingIntent := .deleteUnknown
          rowVersion := store.binding.rowVersion + 1 }
      else store.binding
    operations := store.updateOperation attempt fun operation =>
      if operation.state ≠ .confirmed then { operation with state := .unknown } else operation }

def markDeleted (store : Store) (attempt : Nat) : Store :=
  { binding :=
      if store.binding.bindingIntent ∈ [.deleting, .deleteUnknown] then
        { store.binding with
          bindingIntent := .deleted
          attachmentState := .absent
          attachmentReason := none
          deleteCleanupState := .pending
          rowVersion := store.binding.rowVersion + 1 }
      else store.binding
    operations := store.updateOperation attempt fun operation =>
      { operation with state := .confirmed } }

/-- The row's part of `_finish_cleanup`. -/
def finishCleanup (store : Store) (succeeded : Bool) : Store :=
  if store.binding.deleteCleanupState ≠ .complete ∧ store.binding.bindingIntent = .deleted then
    { store with
      binding :=
        { store.binding with
          deleteCleanupState := if succeeded then .complete else .pending
          rowVersion := store.binding.rowVersion + 1 } }
  else store

/-- Another task settles operations that are still started. -/
def loseOperations (store : Store) : Store :=
  { store with
    operations := store.operations.map fun operation =>
      if operation.state = .started then { operation with state := .unknown } else operation }

end Store

/-! ## Calls of `delete` -/

/-- What the bridge said. -/
inductive Answer where
  | deleted | refused | unreachable
  | exist (persisted : Bool)

/-- What `_reconcile_missing` found. -/
inductive Finding where
  | unreachable | persists | missing
  deriving DecidableEq

inductive Outcome where
  | deleted | blocked | unknown | failed
  deriving DecidableEq

/-- Where a call is suspended.  `current` and `latest` are rows as they were read. -/
inductive Phase where
  | waiting
  | reading
  | referencing (current : SessionBinding)
  | reconciling (current : SessionBinding)
  | lookingUp (current : SessionBinding) (finding : Finding)
  | recording (current : SessionBinding) (finding : Finding)
  | rereading
  | projecting (current : SessionBinding)
  | claiming (current : SessionBinding)
  | attaching
  | closing
  | checkingClose
  | releasing (raised : Bool)
  | clearing (latest : SessionBinding) (raised : Bool)
  | readingTornDown
  | admitting (current : SessionBinding)
  | invoking (operation : Nat)
  | deleting (operation : Nat)
  | confirming (operation : Nat)
  | markingUnknown (operation : Nat) (resumes : Bool)
  | markingDeleted (operation : Nat)
  | readingDeleted
  | retiring
  | cleaning
  | done (outcome : Outcome)
  deriving DecidableEq

/-- The session's lock is held from `reading` to the end. -/
def Phase.holdsLock : Phase → Bool
  | .waiting | .done _ => false
  | _ => true

/-- A call, with the last answer that it had from the bridge. -/
structure Call where
  phase : Phase := .waiting
  heard : Option Answer := none

/-- The two checks before the attempt. -/
def checkDetached (current : SessionBinding) : Phase :=
  if current.bindingIntent ∉ [.closed, .deleting, .deleteUnknown] then .done .blocked
  else if current.attachmentState ∉ [.absent, .recoveryUnknown, .terminal] then .done .blocked
  else .admitting current

/-- `_destructive_teardown` once an attachment is needed. -/
def startTeardown (current : SessionBinding) : Phase :=
  if current.bindingIntent = .closed ∧ current.attachmentReason ≠ some .recoveryCleanup then
    .claiming current
  else .attaching

/-- `delete` from the teardown on. -/
def tearDown (current : SessionBinding) : Phase :=
  if current.bindingIntent ∈ [.active, .closed] then
    if current.bindingIntent = .active ∨ current.attachmentState ≠ .absent then
      startTeardown current
    else .projecting current
  else checkDetached current

/-- The end of the teardown's `finally`. -/
def finishTeardown (raised : Bool) : Phase :=
  if raised then .done .failed else .readingTornDown

/-- `_reconcile_missing` once it has an operation. -/
def settleFinding (operation : Nat) : Finding → Phase
  | .unreachable => .markingUnknown operation false
  | .persists => .markingUnknown operation true
  | .missing => .markingDeleted operation

/-- How the environment lets a call go on. -/
inductive Move where
  | next
  | begins (now : Nat)
  | latest (operation : Option Nat)
  | found (any : Bool)
  | exist (persisted : Bool)
  | returns
  | raises
  | leave

/-- `ORDER BY created_at DESC LIMIT 1`: any of the rows with the greatest time. -/
def Store.isLatest (store : Store) (attempt : Nat) : Bool :=
  store.operations.any fun operation =>
    operation.attempt = attempt &&
      store.operations.all fun other => decide (other.createdAt ≤ operation.createdAt)

/-- The next phase, if the row stays as it is. -/
def Call.goto (call : Call) (store : Store) (phase : Phase) : Option (Store × Call) :=
  some (store, { call with phase })

/-- The next phase after an answer of the bridge. -/
def Call.hear (call : Call) (store : Store) (answer : Answer) (phase : Phase) :
    Option (Store × Call) :=
  some (store, { call with phase, heard := some answer })

/-- One step of a call that holds the lock. -/
def Call.advance (call : Call) (store : Store) (move : Move) : Option (Store × Call) :=
  match call.phase, move with
  | .reading, .next =>
    call.goto store
      (if store.binding.bindingIntent = .deleted then .retiring
        else .referencing store.binding)
  | .referencing current, .found any =>
    call.goto store
      (if any then .done .blocked
        else if current.bindingIntent ∈ [.deleting, .deleteUnknown] then .reconciling current
        else tearDown current)
  -- `_reconcile_missing`
  | .reconciling current, .exist persisted =>
    call.hear store (.exist persisted)
      (.lookingUp current (if persisted then .persists else .missing))
  | .reconciling current, .raises => call.hear store .unreachable (.lookingUp current .unreachable)
  | .lookingUp current finding, .latest none =>
    if store.operations = [] then call.goto store (.recording current finding) else none
  | .lookingUp _ finding, .latest (some operation) =>
    if store.isLatest operation then call.goto store (settleFinding operation finding) else none
  | .recording current finding, .begins now =>
    match store.beginAttempt current now with
    | none => call.goto store (.done .blocked)
    | some (store, operation) => call.goto store (settleFinding operation finding)
  | .rereading, .next => call.goto store (tearDown store.binding)
  -- `_destructive_teardown`
  | .projecting current, .found any =>
    call.goto store (if any then startTeardown current else .readingTornDown)
  | .claiming current, .next =>
    match store.binding.setAttachmentReason (some .recoveryCleanup) current.rowVersion with
    | none => call.goto store (.done .failed)
    | some binding => call.goto { store with binding } .attaching
  | .attaching, .returns => call.goto store .closing
  | .attaching, .raises => call.goto store (.done .failed)
  | .closing, .returns => call.goto store (.releasing false)
  | .closing, .raises => call.goto store .checkingClose
  | .closing, .leave => call.goto store (.releasing true)
  | .checkingClose, .next =>
    call.goto store (.releasing (decide (store.binding.bindingIntent ≠ .closed)))
  | .releasing raised, .next =>
    call.goto store
      (if store.binding.attachmentReason = some .recoveryCleanup then
        .clearing store.binding raised
      else finishTeardown raised)
  | .clearing latest raised, .next =>
    match store.binding.setAttachmentReason none latest.rowVersion with
    | none => call.goto store (.done .failed)
    | some binding => call.goto { store with binding } (finishTeardown raised)
  | .readingTornDown, .next => call.goto store (checkDetached store.binding)
  -- the attempt
  | .admitting current, .begins now =>
    match store.beginAttempt current now with
    | none => call.goto store (.done .blocked)
    | some (store, operation) => call.goto store (.invoking operation)
  | .invoking operation, .next => call.goto store (.deleting operation)
  | .deleting operation, .returns => call.hear store .deleted (.markingDeleted operation)
  | .deleting operation, .raises => call.hear store .refused (.confirming operation)
  | .confirming operation, .exist persisted =>
    call.hear store (.exist persisted)
      (if persisted then .markingUnknown operation false else .markingDeleted operation)
  | .confirming operation, .raises =>
    call.hear store .unreachable (.markingUnknown operation false)
  | .markingUnknown operation resumes, .next =>
    call.goto (store.markUnknown operation) (if resumes then .rereading else .done .unknown)
  | .markingDeleted operation, .next => call.goto (store.markDeleted operation) .readingDeleted
  | .readingDeleted, .next => call.goto store .retiring
  | .retiring, .returns => call.goto store .cleaning
  | .cleaning, .returns => call.goto (store.finishCleanup true) (.done .deleted)
  | .cleaning, .raises => call.goto (store.finishCleanup false) (.done .deleted)
  -- a cancelled task, or a statement that raises
  | .done _, .leave => none
  | _, .leave => call.goto store (.done .failed)
  | _, _ => none

structure World where
  store : Store := {}
  calls : List Call := []

inductive Label where
  | request
  | acquire (index : Nat)
  | call (index : Nat) (move : Move)
  | binding (change : RowStep)
  | loseOperations
  | crash

def step (world : World) : Label → Option World
  | .request => some { world with calls := world.calls ++ [{}] }
  | .acquire index => do
    let call ← world.calls[index]?
    guard (call.phase = .waiting ∧ world.calls.all fun other => !other.phase.holdsLock)
    pure { world with calls := world.calls.set index { call with phase := .reading } }
  | .call index move => do
    let call ← world.calls[index]?
    let (store, after) ← call.advance world.store move
    pure { store, calls := world.calls.set index after }
  | .binding change => do
    let binding ← world.store.binding.apply change
    pure { world with store := { world.store with binding } }
  | .loseOperations => some { world with store := world.store.loseOperations }
  | .crash => some { world with calls := [] }

end Copilotd.Source.Core.SessionDeletion
