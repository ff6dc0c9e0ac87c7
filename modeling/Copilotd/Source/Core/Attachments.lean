import Copilotd.Source.Core.Bindings
import Copilotd.Source.Core.SessionCreation

/-!
# Attaching a session for the user and for a scheduled run

Source: `core/sessions.py` (`ensure_attached`, `_ensure_attached_transition`, `replace`),
`core/session_runtime.py` (`attach_resume`, `close`), `core/scheduler_adapter.py`
(`prepare_message_target`, `_prepare_binding`, `release_temporary_target`).

One session.  Each task stands at one of its awaits.  A transition that is done is what
`_transitions` no longer holds.  Other tasks write the row (`_attach` among them, for what it
records), change the states of runtimes, and register and remove them; any await may raise or be
cancelled.  `log` records, newest first, what the claims of the user and of the scheduler are
about.
-/
namespace Copilotd.Source.Core.Attachments

open Source.Core.Bindings
open Source.Core.SessionCreation (RuntimeState)

/-! ## What the tasks share -/

structure Runtime where
  state : RuntimeState := .detached
  handleTerminal : Bool := false
  /-- Somebody holds `_lifecycle_lock`. -/
  locked : Bool := false

structure Shared where
  row : SessionBinding
  /-- Every runtime there has been. -/
  runtimes : List Runtime := []
  /-- `_runtimes[thread_id]`. -/
  registered : Option Nat := none
  /-- Somebody holds `_mutation_lock`. -/
  replacing : Bool := false

def Shared.stateOf (shared : Shared) (runtime : Nat) : Option RuntimeState :=
  (shared.runtimes[runtime]?).map (·.state)

def Shared.setRuntime (runtime : Nat) (set : Runtime → Runtime) (shared : Shared) : Shared :=
  { shared with runtimes := shared.runtimes.modify runtime set }

def Shared.release (runtime : Nat) (shared : Shared) : Shared :=
  shared.setRuntime runtime ({ · with locked := false })

/-- `self._runtimes.get(thread_id)`, and its state. -/
def Shared.current (shared : Shared) : Option (Nat × Runtime) :=
  shared.registered.bind fun runtime => (shared.runtimes[runtime]?).map fun found =>
    (runtime, found)

def Shared.forThread (shared : Shared) : Option (Nat × Runtime) :=
  shared.current.filter fun found => found.2.state ≠ .terminal ∧ !found.2.handleTerminal

def requiresExplicitReactivation (row : SessionBinding) : Bool :=
  row.bindingIntent = .closed ∧ row.attachmentReason ≠ some .schedulerRun

/-- What a step of a part of a task comes to; `required` tells
`ClosedSessionRequiresReactivation` from other exceptions. -/
inductive Progress (α β : Type) where
  | goes (phase : α)
  | done (result : β)
  | raises (required : Bool)

/-! ## `attach_resume` -/

inductive Attach where
  | asks
  | checks (row : SessionBinding)
  /-- Before the transaction of `activate`. -/
  | activates
  /-- Before `_lifecycle_lock`. -/
  | guarded
  | attaches

def Attach.step (reactivate : Bool) (runtime : Nat) (shared : Shared) :
    Attach → Option (Progress Attach Unit × Shared)
  | .asks => some (.goes (.checks shared.row), shared)
  | .checks row =>
    some (if row.bindingIntent ≠ .closed then .goes .guarded
      else if reactivate then .goes .activates
      else if row.attachmentReason = some .schedulerRun then .goes .guarded
      else .raises true, shared)
  | .activates =>
    match shared.row.activate with
    | none => some (.raises false, shared)
    | some row => some (.goes .guarded, { shared with row })
  | .guarded =>
    match shared.runtimes[runtime]? with
    | none => none
    | some found =>
      if found.locked then none
      else if found.state ≠ .detached then some (.raises false, shared)
      else some (.goes .attaches,
        shared.setRuntime runtime ({ · with state := .attaching, locked := true }))
  | .attaches =>
    some (.done (), shared.setRuntime runtime ({ · with state := .ready, locked := false }))

/-- An exception or a cancellation leaves the lock. -/
def Attach.abort (runtime : Nat) (shared : Shared) : Attach → Shared
  | .attaches => shared.release runtime
  | _ => shared

/-! ## `replace` -/

inductive Replace where
  /-- Before `_mutation_lock`. -/
  | locks
  /-- `existing.shutdown()`. -/
  | shutsDown

def Replace.step (shared : Shared) : Replace → Option (Progress Replace Nat × Shared)
  | .locks =>
    if shared.replacing then none
    else some (.goes .shutsDown, { shared with registered := none, replacing := true })
  | .shutsDown =>
    if shared.registered.isSome then some (.raises false, { shared with replacing := false })
    else
      let runtime := shared.runtimes.length
      some (.done runtime, { shared with
        runtimes := shared.runtimes ++ [{}], registered := some runtime, replacing := false })

def Replace.abort (shared : Shared) : Replace → Shared
  | .locks => shared
  | .shutsDown => { shared with replacing := false }

/-! ## How a task gets a runtime -/

inductive Acquire where
  | replaces (phase : Replace)
  /-- `replace` has returned. -/
  | finds (runtime : Nat)
  | attaches (runtime : Nat) (reactivate : Bool) (phase : Attach)

/-- `runtime.attach_resume(…)` of a detached runtime. -/
def Acquire.attach (requested : Bool) (shared : Shared) (runtime : Nat) : Progress Acquire Nat :=
  if shared.stateOf runtime = some .detached then .goes (.attaches runtime requested .asks)
  else .done runtime

def Acquire.step (requested : Bool) (shared : Shared) :
    Acquire → Option (Progress Acquire Nat × Shared)
  | .replaces phase => (phase.step shared).map fun (progress, next) =>
    match progress with
    | .goes phase => (.goes (.replaces phase), next)
    | .done runtime => (.goes (.finds runtime), next)
    | .raises required => (.raises required, next)
  | .finds runtime => some (Acquire.attach requested shared runtime, shared)
  | .attaches runtime reactivate phase =>
    (phase.step reactivate runtime shared).map fun (progress, next) =>
      match progress with
      | .goes phase => (.goes (.attaches runtime reactivate phase), next)
      | .done () => (.done runtime, next)
      | .raises required => (.raises required, next)

def Acquire.abort (shared : Shared) : Acquire → Shared
  | .replaces phase => phase.abort shared
  | .finds _ => shared
  | .attaches runtime _ phase => phase.abort runtime shared

/-! ## `_ensure_attached_transition` -/

namespace AttachmentTransition

inductive Phase where
  /-- Before `creation_admission`. -/
  | admits
  | asks
  | checks (row : SessionBinding)
  /-- `asyncio.shield(settlement)`; it is over at once if there is no settlement. -/
  | settles
  | acquires (phase : Acquire)
  | returned
  | raised (required : Bool)

def Phase.finished : Phase → Bool
  | .returned | .raised _ => true
  | _ => false

/-- `if runtime.state != RuntimeState.READY`. -/
def verdict (shared : Shared) (runtime : Nat) : Phase :=
  if shared.stateOf runtime = some .ready then .returned else .raised false

def replacedStates : List RuntimeState :=
  [.closed, .degraded, .fenced, .recoveryUnknown, .terminal]

/-- A progress in getting the runtime. -/
def acquired : Progress Acquire Nat × Shared → Phase × Shared
  | (.goes phase, shared) => (.acquires phase, shared)
  | (.done runtime, shared) => (verdict shared runtime, shared)
  | (.raises required, shared) => (.raised required, shared)

/-- From the look at the registered runtime on. -/
def proceeds (requested settled : Bool) (shared : Shared) : Phase :=
  match shared.current with
  | none => .acquires (.replaces .locks)
  | some (runtime, found) =>
    if found.state = .terminal ∧ !settled then .settles
    else if found.state ∈ replacedStates then .acquires (.replaces .locks)
    else (acquired (Acquire.attach requested shared runtime, shared)).1

def Phase.step (requested : Bool) (shared : Shared) : Phase → Option (Phase × Shared)
  | .admits => some (.asks, shared)
  | .asks => some (.checks shared.row, shared)
  | .checks row =>
    some (if requiresExplicitReactivation row ∧ !requested then .raised true
      else proceeds requested false shared, shared)
  | .settles => some (proceeds requested true shared, shared)
  | .acquires phase => (phase.step requested shared).map acquired
  | .returned | .raised _ => none

def Phase.abort (shared : Shared) : Phase → Shared
  | .acquires phase => phase.abort shared
  | _ => shared

end AttachmentTransition

structure AttachmentTransition where
  reactivateRequested : Bool
  phase : AttachmentTransition.Phase := .admits

/-! ## `close` -/

inductive Close where
  /-- Before `_lifecycle_lock`. -/
  | asks
  /-- Up to `by_thread`. -/
  | drains
  | begins (row : SessionBinding)
  /-- `begin_close` reads the row back. -/
  | begun
  | disconnects

/-- `begin_close` of a row that was read. -/
def beginClose (read row : SessionBinding) : Option SessionBinding :=
  if read.attachmentState ≠ .attached then none
  else read.ownerFenceToken.bind fun fence => row.beginClose read.runtimeGeneration fence

/-- `finish_disconnect` of the latest row. -/
def finishDisconnect (succeeded : Bool) (row : SessionBinding) : Option SessionBinding :=
  row.ownerFenceToken.bind fun fence =>
    row.transition (.finishDisconnect succeeded) row.runtimeGeneration fence

def Close.step (runtime : Nat) (succeeded : Bool) (shared : Shared) :
    Close → Option (Progress Close Unit × Shared)
  | .asks =>
    match shared.runtimes[runtime]? with
    | none => none
    | some found =>
      if found.locked then none
      else some (.goes .drains, shared.setRuntime runtime ({ · with locked := true }))
  | .drains => some (.goes (.begins shared.row), shared)
  | .begins read =>
    match beginClose read shared.row with
    | none => some (.raises false, shared.release runtime)
    | some row => some (.goes .begun, { shared with row })
  | .begun => some (.goes .disconnects, shared.setRuntime runtime ({ · with state := .closing }))
  | .disconnects =>
    match finishDisconnect succeeded shared.row with
    | none => some (.raises false, shared.release runtime)
    | some row =>
      let state : RuntimeState := if succeeded then .closed else .recoveryUnknown
      some (if succeeded then .done () else .raises false,
        { shared with row }.setRuntime runtime ({ · with state, locked := false }))

def Close.abort (runtime : Nat) (shared : Shared) : Close → Shared
  | .asks => shared
  | _ => shared.release runtime

/-- The next step commits `begin_close`. -/
def Close.commits (shared : Shared) : Close → Bool
  | .begins read => (beginClose read shared.row).isSome
  | _ => false

/-! ## The tasks -/

inductive Ensure where
  | asks
  | checks (row : SessionBinding)
  /-- Before `_transition_lock`. -/
  | joins
  /-- `asyncio.shield(task)`. -/
  | awaits (transition : Nat)
  /-- `by_thread` after `ClosedSessionRequiresReactivation`. -/
  | rereads

inductive Prepare where
  | asks
  | checks (row : SessionBinding)
  /-- `set_attachment_reason` reads the row back. -/
  | marked
  | acquires (phase : Acquire)
  /-- `by_thread` of the latest binding. -/
  | verifies

inductive Release where
  | asks
  | closes (runtime : Nat) (phase : Close)
  /-- `by_thread` before the reason is cleared. -/
  | rereads
  | clears (row : SessionBinding)

inductive Task where
  /-- `ensure_attached`; a second attempt is the last. -/
  | ensures (reactivate retried : Bool) (phase : Ensure)
  /-- `prepare_message_target`. -/
  | prepares (phase : Prepare)
  /-- `release_temporary_target`. -/
  | releases (phase : Release)
  /-- `close` of the user's command. -/
  | closes (runtime : Nat) (phase : Close)

inductive Note where
  /-- A reactivating `ensure_attached` has returned. -/
  | resumed
  /-- `begin_close` of the user's command. -/
  | closed
  /-- `begin_close` of `release_temporary_target`. -/
  | released
  deriving DecidableEq

structure World where
  shared : Shared
  transitions : List AttachmentTransition := []
  /-- `_transitions[thread_id]`. -/
  transition : Option Nat := none
  tasks : List Task := []
  log : List Note := []

/-- The transition that `_transitions` holds and that is not done. -/
def World.pending (world : World) : Option (Nat × AttachmentTransition) :=
  (world.transition.bind fun index => (world.transitions[index]?).map fun found =>
    (index, found)).filter fun found => !found.2.phase.finished

/-- `ensure_attached` under `_transition_lock`. -/
def World.join (reactivate : Bool) (world : World) : Nat × World :=
  match world.pending with
  | some (index, found) =>
    let requested := found.reactivateRequested || reactivate
    (index, { world with
      transitions := world.transitions.set index { found with reactivateRequested := requested } })
  | none =>
    let index := world.transitions.length
    (index, { world with
      transitions := world.transitions ++ [{ reactivateRequested := reactivate }]
      transition := some index })

/-- What a step of a task comes to; `none` is its end. -/
abbrev Outcome := Option Task × World

def World.note (note : Note) (world : World) : World := { world with log := note :: world.log }

/-- `ensure_attached` returns. -/
def World.returns (reactivate : Bool) (world : World) : World :=
  if reactivate then world.note .resumed else world

def Ensure.step (reactivate retried : Bool) (world : World) : Ensure → Option Outcome
  | .asks => some (some (.ensures reactivate retried (.checks world.shared.row)), world)
  | .checks row =>
    if requiresExplicitReactivation row ∧ !reactivate then some (none, world)
    else if (world.shared.forThread).any (·.2.state = .ready) ∧ row.bindingIntent = .active then
      some (none, world.returns reactivate)
    else some (some (.ensures reactivate retried .joins), world)
  | .joins =>
    let (index, next) := world.join reactivate
    some (some (.ensures reactivate retried (.awaits index)), next)
  | .awaits index => (world.transitions[index]?).bind fun found =>
    match found.phase with
    | .returned => some (none, world.returns reactivate)
    | .raised required =>
      if required ∧ reactivate ∧ !retried then
        some (some (.ensures reactivate retried .rereads), world)
      else some (none, world)
    | _ => none
  | .rereads => some (some (.ensures reactivate true .joins), world)

def World.withShared (shared : Shared) (world : World) : World := { world with shared }

/-- The states of which `_prepare_binding` replaces the runtime. -/
def unschedulableStates : List RuntimeState := [.closed, .fenced, .recoveryUnknown]

/-- `_prepare_binding` from its look at the runtime on. -/
def Prepare.finds (shared : Shared) : Prepare :=
  match shared.forThread with
  | none => .acquires (.replaces .locks)
  | some (runtime, found) =>
    if found.state ∈ unschedulableStates then .acquires (.replaces .locks)
    else match Acquire.attach false shared runtime with
      | .goes phase => .acquires phase
      | _ => .verifies

def Prepare.step (world : World) : Prepare → Option Outcome
  | .asks => some (some (.prepares (.checks world.shared.row)), world)
  | .checks row =>
    if row.bindingIntent ∉ [.active, .closed] then some (none, world)
    else if row.bindingIntent = .closed ∧ row.attachmentReason ≠ some .schedulerRun then
      match world.shared.row.setAttachmentReason (some .schedulerRun) row.rowVersion with
      | none => some (none, world)
      | some row => some (some (.prepares .marked), world.withShared { world.shared with row })
    else some (some (.prepares (Prepare.finds world.shared)), world)
  | .marked => some (some (.prepares (Prepare.finds world.shared)), world)
  | .acquires phase => (phase.step false world.shared).map fun (progress, shared) =>
    match progress with
    | .goes phase => (some (.prepares (.acquires phase)), world.withShared shared)
    | .done _ => (some (.prepares .verifies), world.withShared shared)
    | .raises _ => (none, world.withShared shared)
  | .verifies => some (none, world)

/-- A step of `close`, with the note of its `begin_close`. -/
def closeStep (note : Note) (runtime : Nat) (phase : Close) (succeeded : Bool) (world : World)
    (goes : Close → Task) (done : Option Task) : Option Outcome :=
  (phase.step runtime succeeded world.shared).map fun (progress, shared) =>
    let next := (if phase.commits world.shared then world.note note else world).withShared shared
    match progress with
    | .goes phase => (some (goes phase), next)
    | .done () => (done, next)
    | .raises _ => (none, next)

def Release.step (succeeded : Bool) (world : World) : Release → Option Outcome
  | .asks =>
    match world.shared.forThread with
    | none => some (some (.releases .rereads), world)
    | some (runtime, found) =>
      if found.state = .closed then some (some (.releases .rereads), world)
      else some (some (.releases (.closes runtime .asks)), world)
  | .closes runtime phase =>
    closeStep .released runtime phase succeeded world (.releases ∘ .closes runtime)
      (some (.releases .rereads))
  | .rereads => some (some (.releases (.clears world.shared.row)), world)
  | .clears row =>
    if row.attachmentReason ≠ some .schedulerRun then some (none, world)
    else some (none, match world.shared.row.setAttachmentReason none row.rowVersion with
      | none => world
      | some cleared => world.withShared { world.shared with row := cleared })

def Task.step (succeeded : Bool) (world : World) : Task → Option Outcome
  | .ensures reactivate retried phase => phase.step reactivate retried world
  | .prepares phase => phase.step world
  | .releases phase => phase.step succeeded world
  | .closes runtime phase =>
    closeStep .closed runtime phase succeeded world (.closes runtime) none

/-- What a task that ends at its await leaves. -/
def Task.abort (shared : Shared) : Task → Shared
  | .prepares (.acquires phase) => phase.abort shared
  | .releases (.closes runtime phase) => phase.abort runtime shared
  | .closes runtime phase => phase.abort runtime shared
  | _ => shared

/-! ## Steps -/

inductive Label where
  | ensures (reactivate : Bool)
  | prepares
  | releases
  | closes (runtime : Nat)
  /-- A task goes on from its await; `succeeded` is the outcome of a disconnect. -/
  | advances (index : Nat) (succeeded : Bool)
  /-- A task raises or is cancelled at its await. -/
  | fails (index : Nat)
  | transits (index : Nat)
  | transitFails (index : Nat)
  /-- Another task writes the row. -/
  | writes (step : RowStep)
  /-- Another task changes a runtime. -/
  | changes (runtime : Nat) (state : RuntimeState) (handleTerminal : Bool)
  /-- Another task removes the runtime. -/
  | unregisters
  /-- Another task registers a runtime. -/
  | registers

def writesIntent : RowStep → Bool
  | .beginClose _ _ | .activate => true
  | _ => false

def World.start (task : Task) (world : World) : World :=
  { world with tasks := world.tasks ++ [task] }

/-- A task goes on, or has ended. -/
def World.put (index : Nat) (outcome : Outcome) : World :=
  let world := outcome.2
  match outcome.1 with
  | some task => { world with tasks := world.tasks.set index task }
  | none => { world with tasks := world.tasks.eraseIdx index }

def step (world : World) : Label → Option World
  | .ensures reactivate => some (world.start (.ensures reactivate false .asks))
  | .prepares => some (world.start (.prepares .asks))
  | .releases => some (world.start (.releases .asks))
  | .closes runtime => some (world.start (.closes runtime .asks))
  | .advances index succeeded =>
    (world.tasks[index]?).bind fun task =>
      (task.step succeeded world).map (World.put index)
  | .fails index =>
    (world.tasks[index]?).map fun task =>
      World.put index (none, world.withShared (task.abort world.shared))
  | .transits index =>
    (world.transitions[index]?).bind fun found =>
      (found.phase.step found.reactivateRequested world.shared).map fun (phase, shared) =>
        { world with shared, transitions := world.transitions.set index { found with phase } }
  | .transitFails index =>
    (world.transitions[index]?).bind fun found =>
      if found.phase.finished then none
      else some { world with
        shared := found.phase.abort world.shared
        transitions := world.transitions.set index { found with phase := .raised false } }
  | .writes rowStep =>
    if writesIntent rowStep then none
    else (world.shared.row.apply rowStep).map fun row =>
      world.withShared { world.shared with row }
  | .changes runtime state handleTerminal =>
    some (world.withShared
      (world.shared.setRuntime runtime ({ · with state, handleTerminal })))
  | .unregisters => some (world.withShared { world.shared with registered := none })
  | .registers =>
    if world.shared.registered.isSome then none
    else some (world.withShared { world.shared with
      runtimes := world.shared.runtimes ++ [{}]
      registered := some world.shared.runtimes.length })

end Copilotd.Source.Core.Attachments
