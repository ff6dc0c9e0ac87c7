import Copilotd.Source.Core.RuntimeClose
import Copilotd.Source.Core.SessionDeletion

/-!
# Deletion of a session from its teardown on

Source: `core/session_deletion.py` (`delete`, `_reject_schedule_references`,
`_destructive_teardown`, `_has_live_runtime_projection`), `core/sessions.py` (`for_thread`,
`replace`, `ensure_attached`, `_ensure_attached_transition`), `core/session_runtime.py`
(`attach_resume`, `_attach`, `shutdown`, `close`), `storage/leases.py` (`acquire`).

One call of `delete` for a binding that is active or closed, with no other task beside it.  No
other process holds the owner lease, every SDK call succeeds and no statement raises by itself.
What else `_attach` reads (the extension generation, the frozen configuration, the project, and
what it reconciles with the resumed session) is answered by the surroundings.  A part that raises
returns `none`.  Left out: the replay of an earlier close under the constant idempotency key of the
call.
-/
namespace Copilotd.Source.Core.SessionTeardown

open Source.Core.Bindings
open Source.Core.Attachments (requiresExplicitReactivation)
open Source.Core.Attachments.AttachmentTransition (replacedStates)
open Source.Core.SessionCreation (RuntimeState)
open Source.Core.RuntimeClose
open Source.Core.SessionDeletion (Store checkDetached)

/-- What `_has_live_runtime_projection` reads: `runtime_remote_mode`, the states of the native
schedules, and the kinds and states of the liveness leases. -/
structure Projection where
  runtimeRemoteMode : String := "off"
  runtimeSchedules : List String := []
  livenessLeases : List (String × String) := []

def Projection.live (projection : Projection) : Bool :=
  projection.runtimeRemoteMode ≠ "off" ||
    projection.runtimeSchedules.any (fun state => state = "active" || state = "unknown") ||
    projection.livenessLeases.any fun lease => lease = ("observed_background", "active")

/-- A runtime of the registry, with the generation and the fence of the binding it remembers. -/
structure Registered where
  runtime : Runtime
  handleTerminal : Bool := false
  generation : Nat
  fence : Option Nat
  /-- The fence token of its lease. -/
  lease : Option Nat := none

structure Session where
  store : Store := {}
  /-- The states of the app schedules that refer to the thread. -/
  schedules : List String := []
  projection : Projection := {}
  runtime : Option Registered := none
  /-- The last fence token of the owner lease, and whether this service holds it. -/
  fenceToken : Nat := 0
  held : Bool := false

/-- What the registry and `_attach` find elsewhere. -/
structure Surroundings where
  /-- The registry admits attachments and replacements. -/
  accepting : Bool := true
  /-- `_attach` up to the lease. -/
  prepares : Bool := true
  /-- `_require_project_admission`. -/
  projectAdmitted : Bool := true
  /-- `_attach` once the SDK has resumed the session. -/
  reconciles : Bool := true

namespace Session

def row (session : Session) : SessionBinding := session.store.binding

def withRow (session : Session) (binding : SessionBinding) : Session :=
  { session with store := { session.store with binding } }

def forThread (session : Session) : Option Registered :=
  session.runtime.filter fun found => found.runtime.state ≠ .terminal ∧ !found.handleTerminal

end Session

/-! ## Runtimes -/

/-- `shutdown` finds the row as this runtime has attached it. -/
def Registered.marks (registered : Registered) (row : SessionBinding) : Prop :=
  registered.runtime.state ≠ .closed ∧ registered.runtime.state ≠ .fenced ∧
    row.runtimeGeneration = registered.generation ∧ row.ownerFenceToken = registered.fence ∧
    row.attachmentState ∈ [.creating, .resuming, .attached, .disconnecting]

instance (registered : Registered) (row : SessionBinding) :
    Decidable (registered.marks row) := by
  unfold Registered.marks
  infer_instance

/-- Whether the service still holds the lease after `shutdown`. -/
def Registered.keepsLease (registered : Registered) (session : Session) : Bool :=
  session.held && (registered.runtime.state = .closed || registered.lease ≠ some session.fenceToken)

/-- `shutdown` of a runtime that the registry no longer has. -/
def Registered.shutdown (registered : Registered) (session : Session) : Option Session := do
  let binding ←
    if registered.marks session.row then
      session.row.ownerFenceToken.bind fun fence =>
        session.row.transition .markRecoveryUnknown session.row.runtimeGeneration fence
    else some session.row
  some { session.withRow binding with held := registered.keepsLease session }

/-- `_runtime_factory(binding)`. -/
def freshRuntime (row : SessionBinding) : Registered where
  runtime :=
    { state := .detached, acceptingSends := false, mailbox := none, inbox := false,
      handle := false, row := none }
  generation := row.runtimeGeneration
  fence := row.ownerFenceToken

/-- The runtime when `_attach` returns. -/
def attachedRuntime (row : SessionBinding) (fence : Nat) : Registered where
  runtime :=
    { state := .ready, acceptingSends := true, mailbox := some { frozen := false },
      inbox := true, handle := true, row := none }
  generation := row.runtimeGeneration
  fence := some fence
  lease := some fence

/-- The lease of the runtime is current. -/
def Session.owns (session : Session) (registered : Registered) : Bool :=
  session.held && registered.lease = some session.fenceToken

/-- Every await of `close` comes back. -/
def calm (owner : Bool) : Faults where
  comesBack _ := true
  owner := owner
  ownerClosing := true
  blockers := []
  detachFences := false
  teardownFences := false
  stopsAll := true

section Calls

variable (around : Surroundings)

def Session.replace (session : Session) : Option Session :=
  if around.accepting then do
    let stopped ← match session.runtime with
      | none => some session
      | some existing => existing.shutdown { session with runtime := none }
    some { stopped with runtime := some (freshRuntime stopped.row) }
  else none

/-- The fence token that `acquire` returns. -/
def Session.nextFence (session : Session) : Nat :=
  if session.held then session.fenceToken else session.fenceToken + 1

/-- `_attach(create=False)`. -/
def Session.attach (session : Session) : Option Session :=
  if around.prepares ∧ around.projectAdmitted then do
    let fence := session.nextFence
    let begun ← session.row.beginAttachment .resuming fence
    if around.reconciles then
      let binding ← begun.transition .markAttached begun.runtimeGeneration fence
      some { session.withRow binding with
        runtime := some (attachedRuntime binding fence), fenceToken := fence, held := true }
    else none
  else none

/-- `attach_resume()`, without reactivation. -/
def Session.attachResume (session : Session) : Option Session :=
  if session.row.bindingIntent = .closed ∧ session.row.attachmentReason ≠ some .schedulerRun then
    none
  else session.attach around

def Session.runtimeState (session : Session) : Option RuntimeState :=
  session.runtime.map (·.runtime.state)

/-- `if runtime.state == RuntimeState.DETACHED: await runtime.attach_resume()`. -/
def Session.attachDetached (session : Session) : Option Session :=
  if session.runtimeState = some .detached then session.attachResume around else some session

/-- The runtime is replaced if there is none, or if it is in one of the states. -/
def Session.replaceIn (session : Session) (found : Option Registered)
    (states : List RuntimeState) : Option Session :=
  if found.all fun found => found.runtime.state ∈ states then session.replace around
  else some session

/-- `ensure_attached` of an active binding. -/
def Session.ensureAttached (session : Session) : Option Session :=
  if requiresExplicitReactivation session.row then none
  else if session.forThread.any (fun found => found.runtime.state = .ready) ∧
      session.row.bindingIntent = .active then some session
  else if around.accepting then do
    let session ← session.replaceIn around session.runtime replacedStates
    let session ← session.attachDetached around
    if session.runtimeState = some .ready then some session else none
  else none

/-- `runtime.close(…, force=True)`, and whether it returns. -/
def Session.close (session : Session) (registered : Registered) : Session × Bool :=
  match RuntimeClose.close (calm (session.owns registered)) true
      { registered.runtime with row := some session.row } with
  | .ok _ after =>
    ({ session.withRow (after.row.getD session.row) with
        runtime := some { registered with runtime := { after with row := none } }, held := false },
      true)
  | .error _ after =>
    ({ session.withRow (after.row.getD session.row) with
        runtime := some { registered with runtime := { after with row := none } } }, false)

def Session.needsAttachment (session : Session) : Bool :=
  session.row.bindingIntent = .active || session.row.attachmentState ≠ .absent ||
    session.projection.live

def teardownReplacedStates : List RuntimeState := [.closed, .fenced, .recoveryUnknown, .terminal]

def Session.attachClosed (session : Session) : Option Session := do
  let marked ←
    if session.row.attachmentReason ≠ some .recoveryCleanup then
      (session.row.setAttachmentReason (some .recoveryCleanup) session.row.rowVersion).map
        session.withRow
    else some session
  let marked ← marked.replaceIn around session.forThread teardownReplacedStates
  marked.attachDetached around

/-- The end of the `finally`. -/
def Session.releaseReason (session : Session) : Option Session :=
  if session.row.attachmentReason = some .recoveryCleanup then
    (session.row.setAttachmentReason none session.row.rowVersion).map session.withRow
  else some session

/-- `_destructive_teardown`, and whether a `close` has returned. -/
def Session.destructiveTeardown (session : Session) : Option (Session × Bool) :=
  if session.needsAttachment then do
    let attached ← if session.row.bindingIntent = .closed then session.attachClosed around
      else session.ensureAttached around
    let registered ← attached.runtime
    let (session, closed) := attached.close registered
    if !closed ∧ session.row.bindingIntent ≠ .closed then none
    else
      let session ← session.releaseReason
      some (session, closed)
  else some (session, false)

/-- The attempt, with `delete_session` that returns. -/
def Session.deleteDetached (session : Session) (now : Nat) : Option Session :=
  if checkDetached session.row = .admitting session.row then do
    let (store, operation) ← session.store.beginAttempt session.row now
    some { session with
      store := (store.markDeleted operation).finishCleanup true, runtime := none }
  else none

/-- `delete` of a binding that is active or closed. -/
def Session.delete (session : Session) (now : Nat) : Option (Session × Bool) :=
  if session.schedules.all (fun state => state = "deleted") then do
    let (tornDown, closed) ← session.destructiveTeardown around
    let deleted ← tornDown.deleteDetached now
    some (deleted, closed)
  else none

end Calls

end Copilotd.Source.Core.SessionTeardown
