import Mathlib.Data.List.Basic

/-!
# Session bindings

Source: `core/bindings.py` (`begin_attachment`, `begin_reattach`,
`_transition_attachment` and its callers, `begin_close`, `activate`,
`set_attachment_reason`, `eager_bindings`) and the other statements that write the
intent or the attachment of a binding: `core/reducer.py` (`session.shutdown`,
`session.resume`), `core/recovery.py`, `core/scheduler.py` (the committed restart),
`core/session_runtime.py` (`attach_cancel_cleanup_failed`) and `ops/service.py` (a
failure after the commit point).

One row of `session_bindings`, without the columns of its configuration.  An operation
that raises returns `none`; a statement that finds no row returns the row as it was.
The owner lease that an attachment holds is the caller's: its fence token is an
argument.
-/
namespace Copilotd.Source.Core.Bindings

inductive BindingIntent where
  | active | closed | deleting | deleteUnknown | deleted
  deriving DecidableEq

inductive AttachmentState where
  | absent | creating | resuming | attached | disconnecting | recoveryUnknown
  | ownerConflict | terminal
  deriving DecidableEq

/-- What stands in `attachment_reason`; a failed service writes a text of its own. -/
inductive AttachmentReason where
  | userActive | schedulerRun | recoveryCleanup
  | unexpectedRuntimeShutdown | startupTerminalRecovery | attachCancelCleanupFailed
  | serviceFailure (text : String)
  deriving DecidableEq

/-- `delete_cleanup_state`. -/
inductive CleanupState where
  | notStarted | pending | complete
  deriving DecidableEq

/-- A row as `create` inserts it. -/
structure SessionBinding where
  bindingIntent : BindingIntent := .active
  attachmentState : AttachmentState := .absent
  attachmentReason : Option AttachmentReason := none
  runtimeGeneration : Nat := 0
  ownerFenceToken : Option Nat := none
  deleteCleanupState : CleanupState := .notStarted
  rowVersion : Nat := 1
  deriving DecidableEq

def typedClosedAttachmentReasons : List (Option AttachmentReason) :=
  [some .schedulerRun, some .recoveryCleanup]

/-- The states that `begin_attachment` takes. -/
inductive Beginning where
  | creating | resuming

def Beginning.state : Beginning → AttachmentState
  | .creating => .creating
  | .resuming => .resuming

/-- The states in which an SDK session is held or being opened. -/
def AttachmentState.Live (state : AttachmentState) : Prop :=
  state = .creating ∨ state = .resuming ∨ state = .attached

instance (state : AttachmentState) : Decidable state.Live := inferInstanceAs (Decidable (_ ∨ _))

namespace SessionBinding

/-- An update of columns that are not modelled. -/
def touch (row : SessionBinding) : SessionBinding := { row with rowVersion := row.rowVersion + 1 }

/-- `begin_attachment`, with the lease's fence token. -/
def beginAttachment (row : SessionBinding) (state : Beginning) (fence : Nat) :
    Option SessionBinding :=
  if row.bindingIntent ∉ [.active, .closed] then none
  else if row.bindingIntent = .closed ∧ row.attachmentReason ∉ typedClosedAttachmentReasons then
    none
  else if row.attachmentState ∉ [.absent, .recoveryUnknown, .ownerConflict] ∧
      ¬(row.attachmentState = .attached ∧ row.ownerFenceToken ≠ some fence) then
    none
  else
    some { row with
      attachmentState := state.state
      runtimeGeneration := row.runtimeGeneration + 1
      ownerFenceToken := some fence
      rowVersion := row.rowVersion + 1 }

def beginReattach (row : SessionBinding) (fence : Nat) : Option SessionBinding :=
  if row.bindingIntent = .active ∧ row.attachmentState = .attached ∧
      row.ownerFenceToken = some fence then
    some { row with
      attachmentState := .resuming
      runtimeGeneration := row.runtimeGeneration + 1
      rowVersion := row.rowVersion + 1 }
  else none

end SessionBinding

/-- The callers of `_transition_attachment`.  `invalidate_permissions` writes the
state of the binding that it was given. -/
inductive Transition where
  | markAttached | markAttachedBlocked | markAttachUnknown | markOwnerConflict
  | resetCancelledAttachment | markRecoveryUnknown | markPermissionsVerified
  | invalidatePermissions (given : AttachmentState)
  | finishDisconnect (succeeded : Bool)

def Transition.expectedStates : Transition → List AttachmentState
  | .markAttached | .markAttachedBlocked | .markAttachUnknown | .markOwnerConflict =>
    [.creating, .resuming]
  | .resetCancelledAttachment => [.creating, .resuming, .attached]
  | .markRecoveryUnknown => [.creating, .resuming, .attached, .disconnecting, .terminal]
  | .markPermissionsVerified | .invalidatePermissions _ => [.attached]
  | .finishDisconnect _ => [.disconnecting]

def Transition.state : Transition → AttachmentState
  | .markAttached | .markAttachedBlocked | .markPermissionsVerified => .attached
  | .markAttachUnknown | .markRecoveryUnknown => .recoveryUnknown
  | .markOwnerConflict => .ownerConflict
  | .resetCancelledAttachment => .absent
  | .invalidatePermissions given => given
  | .finishDisconnect succeeded => if succeeded then .absent else .recoveryUnknown

namespace SessionBinding

/-- `_transition_attachment`, with the generation and the fence of the given binding. -/
def transition (row : SessionBinding) (kind : Transition) (generation fence : Nat) :
    Option SessionBinding :=
  if row.runtimeGeneration = generation ∧ row.ownerFenceToken = some fence ∧
      row.attachmentState ∈ kind.expectedStates then
    some { row with attachmentState := kind.state, rowVersion := row.rowVersion + 1 }
  else none

/-- `begin_close`, which does not read the intent. -/
def beginClose (row : SessionBinding) (generation fence : Nat) : Option SessionBinding :=
  if row.runtimeGeneration = generation ∧ row.ownerFenceToken = some fence ∧
      row.attachmentState = .attached then
    some { row with
      bindingIntent := .closed
      attachmentState := .disconnecting
      rowVersion := row.rowVersion + 1 }
  else none

def activate (row : SessionBinding) : Option SessionBinding :=
  if row.bindingIntent = .closed then
    some { row with bindingIntent := .active, rowVersion := row.rowVersion + 1 }
  else none

/-- `set_attachment_reason`, with the row version of the given binding. -/
def setAttachmentReason (row : SessionBinding) (reason : Option AttachmentReason)
    (rowVersion : Nat) : Option SessionBinding :=
  if reason ∉ [none, some .userActive, some .schedulerRun, some .recoveryCleanup] then none
  else if row.rowVersion = rowVersion then
    some { row with attachmentReason := reason, rowVersion := row.rowVersion + 1 }
  else none

/-- `attachment_state = 'recovery_unknown'`, with a reason where there is none. -/
def unknown (row : SessionBinding) (reason : AttachmentReason) : SessionBinding :=
  { row with
    attachmentState := .recoveryUnknown
    attachmentReason := some (row.attachmentReason.getD reason)
    rowVersion := row.rowVersion + 1 }

/-- A terminal attachment of an active binding, at startup and in `eager_bindings`. -/
def recoverTerminal (row : SessionBinding) (reason : AttachmentReason) : SessionBinding :=
  if row.bindingIntent = .active ∧ row.attachmentState = .terminal then row.unknown reason
  else row

/-- The two updates of `eager_bindings`; `queued` says that a scheduled run of the
thread waits in the local queue. -/
def eagerBindings (row : SessionBinding) (queued : Bool) : SessionBinding :=
  let row := row.recoverTerminal .unexpectedRuntimeShutdown
  if row.bindingIntent = .closed ∧ row.attachmentReason = none ∧ queued then
    { row with attachmentReason := some .schedulerRun, rowVersion := row.rowVersion + 1 }
  else row

/-- The reducer's `session.shutdown`. -/
def shutdown (row : SessionBinding) (generation fence : Nat) : SessionBinding :=
  if row.runtimeGeneration = generation ∧ row.ownerFenceToken = some fence ∧
      row.bindingIntent = .active then
    row.unknown .unexpectedRuntimeShutdown
  else row

/-- The reducer's `session.resume` of a shutdown. -/
def resume (row : SessionBinding) (generation fence : Nat) : SessionBinding :=
  if row.runtimeGeneration = generation ∧ row.ownerFenceToken = some fence ∧
      row.bindingIntent = .active ∧ row.attachmentState = .recoveryUnknown then
    { row with
      attachmentState := .attached
      attachmentReason := row.attachmentReason.filter (· ≠ .unexpectedRuntimeShutdown)
      rowVersion := row.rowVersion + 1 }
  else row

/-- A statement that gives up an attachment in one of the states. -/
def abandon (row : SessionBinding) (states : List AttachmentState)
    (reason : Option AttachmentReason) : SessionBinding :=
  if row.attachmentState ∈ states then
    { row with
      attachmentState := .recoveryUnknown
      attachmentReason := reason.or row.attachmentReason
      rowVersion := row.rowVersion + 1 }
  else row

/-- `attach_cancel_cleanup_failed`, under the fence of the cancelled attachment. -/
def cancelCleanupFailed (row : SessionBinding) (fence : Nat) : SessionBinding :=
  if row.ownerFenceToken = some fence then
    row.abandon [.creating, .resuming, .attached, .disconnecting] (some .attachCancelCleanupFailed)
  else row

/-- Startup recovery of a session whose owner lease has expired. -/
def ownerExpired (row : SessionBinding) : SessionBinding :=
  row.abandon [.creating, .resuming, .attached, .disconnecting, .terminal] none

def serviceFailed (row : SessionBinding) (text : String) : SessionBinding :=
  row.abandon [.creating, .resuming, .attached, .disconnecting] (some (.serviceFailure text))

/-- A committed restart of the scheduler; `remote` says that the session's remote mode
is not `off`. -/
def restart (row : SessionBinding) (remote : Bool) : SessionBinding :=
  if row.attachmentState = .attached then row.abandon [.attached] none
  else if remote then row.touch
  else row

end SessionBinding

/-- What the other tasks do to the row. -/
inductive RowStep where
  | beginAttachment (state : Beginning) (fence : Nat)
  | beginReattach (fence : Nat)
  | transition (kind : Transition) (generation fence : Nat)
  | beginClose (generation fence : Nat)
  | activate
  | setAttachmentReason (reason : Option AttachmentReason) (rowVersion : Nat)
  | eagerBindings (queued : Bool)
  | shutdown (generation fence : Nat)
  | resume (generation fence : Nat)
  | cancelCleanupFailed (fence : Nat)
  | recoverTerminal
  | ownerExpired
  | serviceFailed (text : String)
  | restart (remote : Bool)
  | touch

/-- One transaction of another task. -/
def SessionBinding.apply (row : SessionBinding) : RowStep → Option SessionBinding
  | .beginAttachment state fence => row.beginAttachment state fence
  | .beginReattach fence => row.beginReattach fence
  | .transition kind generation fence => row.transition kind generation fence
  | .beginClose generation fence => row.beginClose generation fence
  | .activate => row.activate
  | .setAttachmentReason reason rowVersion => row.setAttachmentReason reason rowVersion
  | .eagerBindings queued => some (row.eagerBindings queued)
  | .shutdown generation fence => some (row.shutdown generation fence)
  | .resume generation fence => some (row.resume generation fence)
  | .cancelCleanupFailed fence => some (row.cancelCleanupFailed fence)
  | .recoverTerminal => some (row.recoverTerminal .startupTerminalRecovery)
  | .ownerExpired => some row.ownerExpired
  | .serviceFailed text => some (row.serviceFailed text)
  | .restart remote => some (row.restart remote)
  | .touch => some row.touch

def RowStep.opens : RowStep → Prop
  | .beginAttachment .. | .beginReattach .. => True
  | _ => False

end Copilotd.Source.Core.Bindings
