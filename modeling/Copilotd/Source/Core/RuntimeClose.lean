import Copilotd.Source.Core.Attachments

/-!
# Closing a runtime

Source: `core/session_runtime.py` (`close`, `_assert_owned_handle`, `_stop_components`),
`core/mailbox.py` (`freeze_and_drain`, `thaw`), `core/bindings.py` (`begin_close`,
`finish_disconnect`).

`close` is a program that keeps its changes when it raises.  `Faults` says of each of its awaits
whether it comes back or raises, a cancellation included, and what it answers.  The snapshots and
SDK calls inside `detach_blockers` and `_force_close_teardown`, and the operation of the mailbox,
are one await each, at which the fence may be found lost; a call has no other task beside it.
-/
namespace Copilotd.Source.Core.RuntimeClose

open Source.Core.Bindings
open Source.Core.Attachments (beginClose finishDisconnect)
open Source.Core.SessionCreation (RuntimeState)

/-- The awaits, in the order of the text. -/
inductive Await where
  | lifecycleLock | isCurrentOwner | admissionLock | sendAdmissionsDrained
  /-- `freeze_and_drain`, before it and after it has frozen. -/
  | submissionLock | queueJoin
  | detachBlockers
  /-- `_admission_lock` in the handler, and after blockers. -/
  | handlerLock | blockedLock
  | forceCloseTeardown
  | inboxJoin | currentBinding
  /-- The transaction of `begin_close`, and its `by_thread`. -/
  | beginClose | beginCloseRead
  | submit
  /-- In the `finally`. -/
  | latestBinding | finishDisconnect | finishDisconnectRead | stopComponents
  deriving DecidableEq

structure Faults where
  comesBack : Await → Bool
  /-- What `is_current` answers, to `close` and in the operation of the mailbox. -/
  owner : Bool
  ownerClosing : Bool
  blockers : List String
  /-- A snapshot of `detach_blockers` finds the fence lost, which is one more blocker. -/
  detachFences : Bool
  /-- A call of `_force_close_teardown` does. -/
  teardownFences : Bool
  /-- `_stop_components` raises only at its end. -/
  stopsAll : Bool

structure Mailbox where
  /-- `_accepting` is false. -/
  frozen : Bool

structure Runtime where
  state : RuntimeState
  acceptingSends : Bool
  serviceQuiesced : Bool := false
  mailbox : Option Mailbox
  /-- `_inbox`, with the reducer and its producers. -/
  inbox : Bool
  handle : Bool
  /-- The row of `session_bindings`. -/
  row : Option SessionBinding

/-- What `_stop_components` leaves. -/
def Runtime.stopped (runtime : Runtime) : Prop :=
  runtime.mailbox = none ∧ runtime.inbox = false ∧ runtime.handle = false

def Runtime.freeze (runtime : Runtime) : Runtime :=
  { runtime with mailbox := runtime.mailbox.map fun _ => { frozen := true } }

def Runtime.thaw (runtime : Runtime) : Runtime :=
  { runtime with mailbox := runtime.mailbox.map fun _ => { frozen := false } }

/-- A program that keeps its changes when it raises. -/
abbrev Call := EStateM Unit Runtime

section Close

variable (faults : Faults)

def await (site : Await) : Call Unit :=
  if faults.comesBack site then pure () else throw ()

/-- A condition without which the program raises. -/
def require (condition : Runtime → Bool) : Call Unit := do
  if condition (← get) then pure () else throw ()

def when (condition : Bool) (program : Call Unit) : Call Unit :=
  if condition then program else pure ()

/-- The owner's fence is found lost. -/
def Runtime.fence (runtime : Runtime) : Runtime :=
  { runtime.freeze with state := .fenced }

def loseFence : Call Unit := do
  modify (·.fence)
  throw ()

def assertOwnedHandle : Call Unit := do
  require fun runtime => !runtime.serviceQuiesced && runtime.state = .ready
  if (← get).handle then
    await faults .isCurrentOwner
    if faults.owner then pure () else loseFence
  else loseFence

def setAccepting (acceptingSends : Bool) : Call Unit :=
  modify ({ · with acceptingSends })

def freezeAndDrain : Call Unit := do
  await faults .submissionLock
  modify (·.freeze)
  await faults .queueJoin

/-- Sends are accepted again, and the mailbox too. -/
def restore (lock : Await) (thaws : Bool) : Call Unit := do
  await faults lock
  setAccepting true
  when thaws (modify (·.thaw))

/-- The `try` around the drain and `detach_blockers`. -/
def findBlockers (force : Bool) : Call Unit :=
  tryCatch
    (do
      when (!force) (freezeAndDrain faults)
      when faults.detachFences (modify (·.fence))
      await faults .detachBlockers)
    fun _ => do
      restore faults .handlerLock (!force)
      throw ()

/-- Blockers end an unforced close. -/
def refuseBlocked (force : Bool) : Call Unit :=
  when (!faults.blockers.isEmpty && !force) do
    restore faults .blockedLock true
    throw ()

/-- `begin_close` of the row that was read. -/
def beginClosing : Call Unit := do
  require (·.inbox)
  await faults .inboxJoin
  await faults .currentBinding
  require fun runtime => (runtime.row.bind fun row => beginClose row row).isSome
  await faults .beginClose
  modify fun runtime => { runtime with row := runtime.row.bind fun row => beginClose row row }
  await faults .beginCloseRead
  modify ({ · with state := .closing })

/-- The operation of the mailbox, and whether it succeeded. -/
def disconnect : Call Bool := do
  if faults.ownerClosing then
    return faults.comesBack .submit
  else
    modify (·.fence)
    return false

/-- `finish_disconnect` of the latest row, if there is one. -/
def finishDisconnecting (succeeded : Bool) : Call Unit := do
  await faults .latestBinding
  match (← get).row with
  | none => pure ()
  | some row =>
    require fun _ => (finishDisconnect succeeded row).isSome
    await faults .finishDisconnect
    modify ({ · with row := finishDisconnect succeeded row })
    await faults .finishDisconnectRead

def stopComponents : Call Unit := do
  modify ({ · with acceptingSends := false })
  when (faults.comesBack .stopComponents || faults.stopsAll)
    (modify ({ · with mailbox := none, inbox := false, handle := false }))
  await faults .stopComponents

/-- The `try … finally` of the disconnect. -/
def disconnects : Call Unit := do
  let succeeded ← disconnect faults
  finishDisconnecting faults succeeded
  stopComponents faults
  modify ({ · with state := if succeeded then .closed else .recoveryUnknown })
  if succeeded then pure () else throw ()

/-- `_force_close_teardown`, and the drain of a forced close. -/
def tearDown : Call Unit := do
  when faults.teardownFences (modify (·.fence))
  await faults .forceCloseTeardown
  freezeAndDrain faults

/-- From `begin_close` on. -/
def commit : Call Unit := do
  beginClosing faults
  disconnects faults

/-- The part that begins once sends are refused. -/
def closeRefused (force : Bool) : Call Unit := do
  when (!force) (await faults .sendAdmissionsDrained)
  findBlockers faults force
  refuseBlocked faults force
  when force (tearDown faults)
  commit faults

def close (force : Bool) : Call Unit := do
  await faults .lifecycleLock
  assertOwnedHandle faults
  require (·.mailbox.isSome)
  await faults .admissionLock
  setAccepting false
  closeRefused faults force

/-- The runtime when the call is over. -/
def closed (force : Bool) (runtime : Runtime) : Runtime :=
  match close faults force runtime with
  | .ok _ after | .error _ after => after

end Close

end Copilotd.Source.Core.RuntimeClose
