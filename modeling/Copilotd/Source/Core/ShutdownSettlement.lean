import Copilotd.Base.Run

/-!
# Shutdown events and their settlement

Source: `core/session_runtime.py` (`_on_sdk_event_accepted`,
`_schedule_shutdown_finalization`, `_signal_shutdown_superseded`,
`_finalize_handle_shutdown`, `_shutdown_was_superseded`, and what
`_stop_components` leaves in the runtime's own fields).

The ingress calls `_on_sdk_event_accepted` once for each event the inbox took; the
call runs between two awaits of the finalization tasks.  A finalization task is the
await it is suspended at, and a label says how that await answers.

Left out: the binding row the tasks read and rewrite (only whether it is there and
still this generation's is kept), the snapshot topics, permissions and protocol
responses of `_on_sdk_event_accepted`, and every event that is neither a shutdown
nor a resume.
-/
namespace Copilotd.Source.Core.ShutdownSettlement

inductive RuntimeState where
  | detached | attaching | ready | degraded | recoveryUnknown | fenced | closing | closed
  | terminal
  deriving DecidableEq

/-- `session.shutdown` and `session.resume`, with the identity that
`validate_sdk_event_identity` returns. -/
inductive SdkEvent where
  | shutdown (eventId : String)
  | resume (eventId : String) (parentId : Option String)
  deriving DecidableEq

/-- A callback handed to `loop.call_soon_threadsafe`. -/
inductive Callback where
  | signalShutdownSuperseded (shutdownEventId : String)
  | scheduleShutdownFinalization

/-- The await at which `_finalize_handle_shutdown` is suspended. -/
inductive Phase where
  /-- `waiter.wait()` under `asyncio.timeout`. -/
  | settling (waiter : Nat)
  | lockingLifecycle
  | joiningInbox
  /-- The journal query of `_shutdown_was_superseded`. -/
  | readingJournal
  /-- `by_thread` in the branch of a superseded shutdown. -/
  | readingSuperseded
  | lockingAdmission
  | readingBinding
  | forcingActiveUnknown
  | joiningForced
  | rereadingBinding
  | markingRecoveryUnknown
  /-- `_stop_components`; without a binding the task returns after it. -/
  | stopping (bound : Bool)
  deriving DecidableEq

inductive Finalizer where
  | created
  | running (shutdownEventId : String) (phase : Phase)
  | done
  deriving DecidableEq

/-- The `async with self._lifecycle_lock` block. -/
def Phase.holdsLifecycle : Phase → Bool
  | .settling _ | .lockingLifecycle => false
  | _ => true

def Finalizer.holdsLifecycle : Finalizer → Bool
  | .running _ phase => phase.holdsLifecycle
  | _ => false

structure Runtime where
  state : RuntimeState
  acceptingSends : Bool
  handleTerminal : Bool := false
  pendingShutdownEventId : Option String := none
  stateBeforeShutdown : Option RuntimeState := none
  supersededShutdownEventIds : List String := []
  /-- The `asyncio.Event` of each shutdown event, and the events that are set. -/
  shutdownSupersededWaiters : List (String × Nat) := []
  waiterCount : Nat := 0
  waitersSet : List Nat := []
  /-- `_loop` and `_inbox` are not None. -/
  attached : Bool := true
  /-- `_stop_components` was entered. -/
  componentsStopped : Bool := false
  callbacks : List Callback := []
  finalizers : List Finalizer := []
  /-- `_shutdown_finalize_task`. -/
  shutdownFinalizeTask : Option Nat := none
  /-- Events in the inbox, and the parents of the journaled resumes of this generation. -/
  inbox : List SdkEvent := []
  journaledResumes : List String := []

variable (self : Runtime)

def Runtime.callSoonThreadsafe (callback : Callback) : Runtime :=
  { self with callbacks := self.callbacks ++ [callback] }

/-- `self._shutdown_superseded_waiters[id] = asyncio.Event()`. -/
def Runtime.newWaiter (shutdownEventId : String) : Runtime :=
  { self with
    shutdownSupersededWaiters := (shutdownEventId, self.waiterCount) ::
      self.shutdownSupersededWaiters.filter fun entry => entry.1 ≠ shutdownEventId
    waiterCount := self.waiterCount + 1 }

/-- `self._state_before_shutdown or RuntimeState.RECOVERY_UNKNOWN`. -/
def Runtime.restoredState : RuntimeState :=
  self.stateBeforeShutdown.getD .recoveryUnknown

def Runtime.finalizeTaskDone : Bool :=
  match self.shutdownFinalizeTask with
  | none => true
  | some index => self.finalizers[index]? = some .done

/-- The resume's parent is the pending shutdown. -/
def Runtime.comeBack : Runtime :=
  if self.state = .terminal then
    { self with
      handleTerminal := false
      state := self.restoredState
      acceptingSends := self.restoredState = .ready }
  else { self with handleTerminal := false }

/-- The resume branch of `_on_sdk_event_accepted`. -/
def Runtime.onResume (parentId : String) : Runtime :=
  let self := { self with
    supersededShutdownEventIds := parentId :: self.supersededShutdownEventIds }
  if self.pendingShutdownEventId = some parentId then
    let self := self.comeBack
    if self.attached then self.callSoonThreadsafe (.signalShutdownSuperseded parentId)
    else self
  else self

def Runtime.goDown (eventId : String) : Runtime :=
  let self := self.newWaiter eventId
  { self with
    pendingShutdownEventId := some eventId
    stateBeforeShutdown := some self.state
    handleTerminal := true
    acceptingSends := false
    state := if self.state = .closing then .closing else .terminal }

/-- The shutdown branch of `_on_sdk_event_accepted`. -/
def Runtime.onShutdown (eventId : String) : Runtime :=
  if eventId ∈ self.supersededShutdownEventIds then self
  else
    let self := self.goDown eventId
    if self.attached && self.finalizeTaskDone then
      self.callSoonThreadsafe .scheduleShutdownFinalization
    else self

def Runtime.onSdkEventAccepted : SdkEvent → Runtime
  | .resume _ none => self
  | .resume _ (some parentId) => self.onResume parentId
  | .shutdown eventId => self.onShutdown eventId

def Runtime.submitSdk (event : SdkEvent) : Runtime :=
  if self.attached then { self with inbox := self.inbox ++ [event] } else self

/-- The ingress: the inbox takes the event, then its acceptance is handled. -/
def Runtime.ingress (event : SdkEvent) : Runtime :=
  (self.submitSdk event).onSdkEventAccepted event

def Runtime.signalShutdownSuperseded (shutdownEventId : String) : Runtime :=
  if self.pendingShutdownEventId ≠ some shutdownEventId then self
  else match self.shutdownSupersededWaiters.lookup shutdownEventId with
    | none => self
    | some waiter => { self with waitersSet := waiter :: self.waitersSet }

def Runtime.scheduleShutdownFinalization : Runtime :=
  if self.state = .closing ∨ self.state = .closed then self
  else { self with
    finalizers := self.finalizers ++ [.created]
    shutdownFinalizeTask := some self.finalizers.length }

def Runtime.runCallback : Callback → Runtime
  | .signalShutdownSuperseded shutdownEventId => self.signalShutdownSuperseded shutdownEventId
  | .scheduleShutdownFinalization => self.scheduleShutdownFinalization

/-- The reducer journals an event of the inbox. -/
def Runtime.journal : SdkEvent → Runtime
  | .resume _ (some parentId) =>
    { self with journaledResumes := parentId :: self.journaledResumes }
  | _ => self

/-! ## The finalization task -/

def Runtime.suspend (index : Nat) (shutdownEventId : String) (phase : Phase) : Runtime :=
  { self with finalizers := self.finalizers.set index (.running shutdownEventId phase) }

/-- The `finally` block: another pending shutdown gets a task of its own. -/
def Runtime.leave (index : Nat) (shutdownEventId : String) : Runtime :=
  let self := { self with
    shutdownSupersededWaiters :=
      self.shutdownSupersededWaiters.filter fun entry => entry.1 ≠ shutdownEventId
    finalizers := self.finalizers.set index .done }
  if self.pendingShutdownEventId ≠ none ∧ self.pendingShutdownEventId ≠ some shutdownEventId then
    self.scheduleShutdownFinalization
  else self

/-- The first stretch of the task: which shutdown it settles, and that one's waiter. -/
def Runtime.begin (index : Nat) : Runtime :=
  match self.pendingShutdownEventId with
  | none => { self with finalizers := self.finalizers.set index .done }
  | some shutdownEventId =>
    match self.shutdownSupersededWaiters.lookup shutdownEventId with
    | some waiter => self.suspend index shutdownEventId (.settling waiter)
    | none =>
      (self.newWaiter shutdownEventId).suspend index shutdownEventId
        (.settling self.waiterCount)

/-- `_shutdown_was_superseded` asks the journal only about a shutdown that is not in
the set. -/
def Runtime.askSuperseded (index : Nat) (shutdownEventId : String) : Runtime :=
  if shutdownEventId ∈ self.supersededShutdownEventIds then
    self.suspend index shutdownEventId .readingSuperseded
  else self.suspend index shutdownEventId .readingJournal

def Runtime.wasSuperseded (shutdownEventId : String) : Bool :=
  shutdownEventId ∈ self.journaledResumes || shutdownEventId ∈ self.supersededShutdownEventIds

/-- The superseded branch up to its second lock. -/
def Runtime.restore (index : Nat) (shutdownEventId : String) : Runtime :=
  if self.pendingShutdownEventId ≠ some shutdownEventId then self.leave index shutdownEventId
  else
    let self : Runtime := { self with
      handleTerminal := false
      state := if self.state = .terminal then self.restoredState else self.state }
    self.suspend index shutdownEventId .lockingAdmission

def Runtime.forgetShutdown : Runtime :=
  { self with pendingShutdownEventId := none, stateBeforeShutdown := none }

/-- The superseded branch under the admission lock. -/
def Runtime.readmit (index : Nat) (shutdownEventId : String) : Runtime :=
  let self : Runtime := { self with acceptingSends := self.state = .ready }
  self.forgetShutdown.leave index shutdownEventId

def Runtime.enterStop (index : Nat) (shutdownEventId : String) (bound : Bool) : Runtime :=
  { self with acceptingSends := false, componentsStopped := true }.suspend index
    shutdownEventId (.stopping bound)

/-- What `_stop_components` has dropped when it returns or raises its errors. -/
def Runtime.dropComponents : Runtime :=
  { self with attached := false, handleTerminal := true, inbox := [] }

def Runtime.settleShutdown (shutdownEventId : String) : Runtime :=
  let self := { self with state := .recoveryUnknown }
  if self.pendingShutdownEventId = some shutdownEventId then self.forgetShutdown else self

/-- How the await of a finalization task answers. -/
inductive Answer where
  | returns
  /-- `by_thread` found a row (for the last reread: one that is still this generation's). -/
  | found (present : Bool)
  | timedOut
  | raises
  | cancelled
  deriving DecidableEq

/-- One stretch of a finalization task that has captured its shutdown event. -/
def Runtime.resumeFinalizer (index : Nat) (id : String) : Phase → Answer → Option Runtime
  | .settling waiter, .returns =>
    if waiter ∈ self.waitersSet then some (self.suspend index id .lockingLifecycle) else none
  | .settling _, .timedOut => some (self.suspend index id .lockingLifecycle)
  | .lockingLifecycle, .returns =>
    if self.finalizers.any Finalizer.holdsLifecycle then none
    else if self.attached then some (self.suspend index id .joiningInbox)
    else some (self.askSuperseded index id)
  | .joiningInbox, .returns =>
    if self.inbox = [] then some (self.askSuperseded index id) else none
  | .readingJournal, .returns =>
    some (self.suspend index id
      (if self.wasSuperseded id then .readingSuperseded else .readingBinding))
  | .readingSuperseded, .found _ => some (self.restore index id)
  | .lockingAdmission, .returns => some (self.readmit index id)
  | .readingBinding, .found false => some (self.enterStop index id false)
  | .readingBinding, .found true =>
    some (self.suspend index id
      (if self.attached then .forcingActiveUnknown else .rereadingBinding))
  | .forcingActiveUnknown, .returns => some (self.suspend index id .joiningForced)
  | .joiningForced, .returns =>
    if self.inbox = [] then some (self.suspend index id .rereadingBinding) else none
  | .rereadingBinding, .found true => some (self.suspend index id .markingRecoveryUnknown)
  | .rereadingBinding, .found false => some (self.enterStop index id true)
  | .markingRecoveryUnknown, .returns => some (self.enterStop index id true)
  | .stopping bound, .returns =>
    let self := self.dropComponents
    some ((if bound then self.settleShutdown id else self).leave index id)
  | .stopping _, .raises => some (self.dropComponents.leave index id)
  | _, .raises => some (self.leave index id)
  | _, .cancelled => some (self.leave index id)
  | _, _ => none

inductive Label where
  | deliver (event : SdkEvent)
  | callback
  | reduce
  | finalizer (index : Nat) (answer : Answer)
  deriving DecidableEq

def step : Label → Option Runtime
  | .deliver event => some (self.ingress event)
  | .callback =>
    match self.callbacks with
    | [] => none
    | callback :: rest => some ({ self with callbacks := rest }.runCallback callback)
  | .reduce =>
    match self.inbox with
    | [] => none
    | event :: rest => some ({ self with inbox := rest }.journal event)
  | .finalizer index answer =>
    match self.finalizers[index]?, answer with
    | some .created, .returns => some (self.begin index)
    | some .created, .cancelled =>
      some { self with finalizers := self.finalizers.set index .done }
    | some (.running id phase), answer => self.resumeFinalizer index id phase answer
    | _, _ => none

end Copilotd.Source.Core.ShutdownSettlement
