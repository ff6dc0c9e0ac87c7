import Copilotd.Base.Iteration
import Copilotd.Base.Run

/-!
# Quiescing the registry of runtimes

Source: `core/sessions.py` (`SessionRegistry`: `register`, `replace`, `retire`,
`quarantine_failure`, `quarantine_all`, `creation_admission`, `begin_service_quiesce`,
`end_service_quiesce`, `drain_service_quiesce`) and `core/session_runtime.py`
(`begin_service_quiesce`, `end_service_quiesce`, `drain_service_quiesce`, cut to the flag).

A task makes one call after the other; a call suspends where it calls a runtime, waits for the
mutation lock or waits for the active blocks.  No body under `_admission_condition` suspends but in
`wait`, so that lock is free whenever a task asks for it.  Violations are only counted and are left
out.
-/
namespace Copilotd.Source.Core.RegistryQuiesce

open Base.Iteration

structure SessionRuntime where
  id : Nat
  /-- `binding.thread_id`. -/
  threadId : String
  deriving DecidableEq

structure Registry where
  /-- `_runtimes`. -/
  runtimes : Slots SessionRuntime := []
  accepting : Bool := true
  mutationLocked : Bool := false
  serviceQuiesced : Bool := false
  activeCreations : Nat := 0
  /-- The runtimes whose `_service_quiesced` is set. -/
  quiesced : List SessionRuntime := []
  /-- The number of runtimes that the factory has made. -/
  created : Nat := 0

/-- A call that is suspended. -/
inductive Operation where
  /-- `begin_service_quiesce`, while blocks are active. -/
  | beginWaits
  /-- It has called `begin_service_quiesce` of a runtime, which has set its flag or not. -/
  | beginCalls (iterator : Iterator) (begun : List SessionRuntime) (runtime : SessionRuntime)
      (flagged : Bool)
  /-- Its handler has called `end_service_quiesce` of a runtime. -/
  | rollsBack (runtime : SessionRuntime) (rest : List SessionRuntime)
  /-- `end_service_quiesce` and `drain_service_quiesce`, in the call of a runtime. -/
  | endCalls (iterator : Iterator) (runtime : SessionRuntime)
  | drains (iterator : Iterator) (runtime : SessionRuntime)
  /-- `replace`, before the mutation lock and in `shutdown` of the existing runtime. -/
  | replaceWaits (threadId : String)
  | replaceShutsDown (threadId : String)
  deriving DecidableEq

/-- How a call of `end_service_quiesce` ends. -/
inductive Ended where
  /-- Whether admission is closed, and the registered runtimes that are quiesced. -/
  | returned (quiesced : Bool) (left : List SessionRuntime)
  | raised
  deriving DecidableEq

inductive Note where
  /-- `begin_service_quiesce` returns. -/
  | begun
  | ended (how : Ended)

/-- What a step of a call comes to; without an operation it is over. -/
structure Outcome where
  operation : Option Operation
  registry : Registry
  note : Option Note := none

namespace Registry

variable (registry : Registry)

def registered : List SessionRuntime := live registry.runtimes

/-- `_runtimes.get(thread_id)`. -/
def get (threadId : String) : Option SessionRuntime :=
  registry.registered.find? fun runtime => runtime.threadId = threadId

/-- `_runtimes.pop(thread_id, None)`. -/
def pop (threadId : String) : Registry :=
  { registry with
    runtimes := remove (fun runtime => runtime.threadId = threadId) registry.runtimes }

/-- `_assert_registry_admission` lets a task on. -/
def admits (admitted : Bool) : Bool := !registry.serviceQuiesced || admitted

/-- `_register_admitted`; a thread that has another runtime raises. -/
def registerAdmitted (compacts : Bool) (runtime : SessionRuntime) : Registry :=
  if (registry.get runtime.threadId).isSome then registry
  else { registry with runtimes := insert compacts runtime registry.runtimes }

def register (compacts admitted : Bool) (runtime : SessionRuntime) : Registry :=
  if registry.accepting && registry.admits admitted then
    registry.registerAdmitted compacts runtime
  else registry

/-- The factory's runtime is registered and the mutation lock is left. -/
def replaced (compacts : Bool) (threadId : String) : Registry :=
  let runtime : SessionRuntime := { id := registry.created, threadId }
  { (registry.registerAdmitted compacts runtime) with
    created := registry.created + 1
    mutationLocked := false }

/-- `begin_service_quiesce` of a runtime sets its flag. -/
def flag (runtime : SessionRuntime) : Registry :=
  { registry with quiesced := runtime :: registry.quiesced }

/-- `end_service_quiesce` of a runtime comes back. -/
def clear (runtime : SessionRuntime) : Registry :=
  { registry with quiesced := registry.quiesced.filter (· ≠ runtime) }

/-- `end_service_quiesce` opens the admission. -/
def reopen : Registry := { registry with serviceQuiesced := false }

/-! ## The loops -/

/-- The handler of `begin_service_quiesce`, from the last runtime that it has begun. -/
def rollBack : List SessionRuntime → Outcome
  | [] => { operation := none, registry }
  | runtime :: rest => { operation := some (.rollsBack runtime rest), registry }

def advanceBegin (iterator : Iterator) (begun : List SessionRuntime) : Outcome :=
  match iterator.next registry.runtimes with
  | .changed => registry.rollBack begun.reverse
  | .exhausted => { operation := none, registry, note := some .begun }
  | .yields runtime iterator =>
    { operation := some (.beginCalls iterator begun runtime false), registry }

def advanceEnd (iterator : Iterator) : Outcome :=
  match iterator.next registry.runtimes with
  | .changed => { operation := none, registry, note := some (.ended .raised) }
  | .exhausted =>
    let opened := registry.reopen
    { operation := none
      registry := opened
      note := some (.ended (.returned opened.serviceQuiesced
        (opened.registered.filter (· ∈ opened.quiesced)))) }
  | .yields runtime iterator => { operation := some (.endCalls iterator runtime), registry }

def advanceDrain (iterator : Iterator) : Outcome :=
  match iterator.next registry.runtimes with
  | .changed | .exhausted => { operation := none, registry }
  | .yields runtime iterator => { operation := some (.drains iterator runtime), registry }

/-- `begin_service_quiesce`. -/
def begin : Outcome :=
  let closed := { registry with serviceQuiesced := true }
  if closed.activeCreations = 0 then closed.advanceBegin (iter closed.runtimes) []
  else { operation := some .beginWaits, registry := closed }

/-- `replace` with the mutation lock. -/
def replaceLocked (compacts admitted : Bool) (threadId : String) : Outcome :=
  if registry.admits admitted then
    if (registry.get threadId).isSome then
      { operation := some (.replaceShutsDown threadId)
        registry := { registry.pop threadId with mutationLocked := true } }
    else { operation := none, registry := registry.replaced compacts threadId }
  else { operation := none, registry }

end Registry

namespace Operation

/-- The await comes back. -/
def goes (registry : Registry) (compacts admitted : Bool) : Operation → Option Outcome
  | beginWaits =>
    if registry.activeCreations = 0 then
      some (registry.advanceBegin (iter registry.runtimes) [])
    else none
  | beginCalls iterator begun runtime flagged =>
    if flagged then some (registry.advanceBegin iterator (begun ++ [runtime]))
    else some { operation := some (beginCalls iterator begun runtime true)
                registry := registry.flag runtime }
  | rollsBack runtime rest => some ((registry.clear runtime).rollBack rest)
  | endCalls iterator runtime => some ((registry.clear runtime).advanceEnd iterator)
  | drains iterator _ => some (registry.advanceDrain iterator)
  | replaceWaits threadId =>
    if registry.mutationLocked then none
    else some (registry.replaceLocked compacts admitted threadId)
  | replaceShutsDown threadId =>
    some { operation := none, registry := registry.replaced compacts threadId }

/-- The await raises, a cancellation included. -/
def raises (registry : Registry) : Operation → Outcome
  | beginCalls _ begun _ _ => registry.rollBack begun.reverse
  | endCalls _ _ => { operation := none, registry, note := some (.ended .raised) }
  | replaceShutsDown _ =>
      { operation := none, registry := { registry with mutationLocked := false } }
  | beginWaits | rollsBack _ _ | drains _ _ | replaceWaits _ => { operation := none, registry }

end Operation

structure Task where
  /-- `_creation_admitted` in the task's context. -/
  admitted : Bool := false
  /-- The blocks of `creation_admission` that the task is in, as the values to reset to. -/
  blocks : List Bool := []
  operation : Option Operation := none
  deriving DecidableEq

inductive Event where
  /-- A new task gets a copy of the context. -/
  | spawn
  /-- A block of `creation_admission`. -/
  | enter | exit
  | register (runtime : SessionRuntime)
  | replace (threadId : String)
  | retire (threadId : String)
  /-- With the thread of the runtime that `quarantine_failure` finds. -/
  | quarantineFailure (threadId : String)
  | quarantineAll
  | beginQuiesce | endQuiesce | drainQuiesce
  /-- `close_admission` of a shutdown. -/
  | closeAdmission
  | goes | raises

structure Label where
  task : Nat
  event : Event
  /-- An insertion compacts the table of the dictionary. -/
  compacts : Bool := false

structure World where
  registry : Registry := {}
  tasks : List Task := []
  /-- A `begin_service_quiesce` has returned, and no `end_service_quiesce` has started since. -/
  held : Bool := false
  /-- How the calls of `end_service_quiesce` have ended, the last one first. -/
  ends : List Ended := []

namespace World

def note (world : World) : Option Note → World
  | none => world
  | some .begun => { world with held := true }
  | some (.ended how) => { world with ends := how :: world.ends }

def withRegistry (world : World) (registry : Registry) : World := { world with registry }

def setTask (world : World) (index : Nat) (task : Task) : World :=
  { world with tasks := world.tasks.set index task }

/-- A task's call comes to an outcome. -/
def takes (world : World) (index : Nat) (task : Task) (outcome : Outcome) : World :=
  ((world.withRegistry outcome.registry).setTask index
    { task with operation := outcome.operation }).note outcome.note

/-- A statement under the mutation lock. -/
def mutates (world : World) (registry : Registry) : Option World :=
  if world.registry.mutationLocked then none else some (world.withRegistry registry)

/-- A task that is in no call. -/
def starts (world : World) (index : Nat) (task : Task) (compacts : Bool) : Event → Option World
  | .spawn => some { world with tasks := world.tasks ++ [{ admitted := task.admitted }] }
  | .enter =>
    if world.registry.serviceQuiesced then some world
    else some ((world.withRegistry { world.registry with
        activeCreations := world.registry.activeCreations + 1 }).setTask index
      { task with admitted := true, blocks := task.admitted :: task.blocks })
  | .exit =>
    match task.blocks with
    | [] => none
    | saved :: rest =>
      some ((world.withRegistry { world.registry with
          activeCreations := world.registry.activeCreations - 1 }).setTask index
        { task with admitted := saved, blocks := rest })
  | .register runtime =>
    some (world.withRegistry (world.registry.register compacts task.admitted runtime))
  | .replace threadId =>
    if world.registry.accepting then
      some (world.setTask index { task with operation := some (.replaceWaits threadId) })
    else some world
  | .retire threadId => world.mutates (world.registry.pop threadId)
  | .quarantineFailure threadId => world.mutates (world.registry.pop threadId)
  | .quarantineAll => world.mutates { world.registry with runtimes := [] }
  | .beginQuiesce => some (world.takes index task world.registry.begin)
  | .endQuiesce =>
    some ({ world with held := false }.takes index task
      (world.registry.advanceEnd (iter world.registry.runtimes)))
  | .drainQuiesce =>
    some (world.takes index task (world.registry.advanceDrain (iter world.registry.runtimes)))
  | .closeAdmission => some (world.withRegistry { world.registry with accepting := false })
  | .goes | .raises => none

def step (world : World) (label : Label) : Option World :=
  match world.tasks[label.task]? with
  | none => none
  | some task =>
    match task.operation, label.event with
    | none, event => world.starts label.task task label.compacts event
    | some operation, .goes =>
      (operation.goes world.registry label.compacts task.admitted).map
        (world.takes label.task task)
    | some operation,
        .raises => some (world.takes label.task task (operation.raises world.registry))
    | some _, _ => none

end World

end Copilotd.Source.Core.RegistryQuiesce
