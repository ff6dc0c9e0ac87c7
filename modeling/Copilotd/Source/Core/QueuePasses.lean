import Copilotd.Source.Core.QueueMoves

/-!
# Passes of the queue pump

Source: `core/session_runtime.py` (`send`, `_dispatch_next_queued`, `_dispatch_submission`,
`_queue_pump`); `core/mailbox.py` (`submit`); `core/inbox.py` (`commit_internal`,
`_await_commit_ack`).

The steps of one attached session without immediate sends, and the cancellation of the task
that holds `_queue_dispatch_lock`.  A cancelled task that waits for the reducer waits on until
its event is applied (`_await_commit_ack`), so a cancellation comes before the event is handed
over, and nothing is written.  The operation a cancelled pass submitted stays in the mailbox.

`picks` records what every pass read when it took its item.
-/
namespace Copilotd.Source.Core.QueuePasses

open Source.Core.Submissions Source.Core.QueueRuntime

/-- The item a pass took, and the table it took it from. -/
structure Pick where
  item : QueueItem
  queue : List QueueItem

structure Passes where
  runtime : State := {}
  picks : List Pick := []

inductive Activity where
  | takes (label : Label)
  /-- The holder of the lock is cancelled; `recorded` if it was in `submit`, after `begin`
  and before the mailbox had the item. -/
  | cancelled (recorded : Bool)

/-- The steps of one attached session without immediate sends. -/
def attached : Label → Bool
  | .immediate _ | .takeover _ | .restart .. => false
  | _ => true

/-- Records without an item in the mailbox: nobody runs them, and `settled_result` calls them
ambiguous. -/
def strandedRecords (state : State) : List Operation :=
  (state.calls.filter fun call =>
    call.locked ∧ call.phase = .admitted ∧ (state.operation call.operationId).isNone).map
    fun call =>
      { operationId := call.operationId, submissionId := call.submissionId
        dispatchAttempt := call.dispatchAttempt, phase := .settled .unknown }

/-- The task that holds the lock is cancelled and gives it back. -/
def cancelPass (recorded : Bool) (state : State) : Option State :=
  if state.holder = none then none
  else some { state with
    holder := none
    calls := state.calls.filter fun call => !call.locked
    operations := state.operations ++ if recorded then strandedRecords state else [] }

section Steps

variable (uuid5 : String → String) (session : Session)

/-- What a pass that dispatches has read. -/
def pickOf (state : State) : Label → List Pick
  | .pick .dispatch =>
    ((nextQueued session state.db).map fun item => { item, queue := state.db.queue }).toList
  | _ => []

def advance (state : Passes) : Activity → Option Passes
  | .takes label =>
    if attached label then
      (step uuid5 session state.runtime label).map fun runtime =>
        { runtime, picks := state.picks ++ pickOf session state.runtime label }
    else none
  | .cancelled recorded =>
    (cancelPass recorded state.runtime).map fun runtime => { state with runtime }

end Steps

/-! ## What a step does -/

section Inversion

variable {uuid5 : String → String} {session : Session} {state after : Passes}

theorem advance_takes {label : Label}
    (taken : advance uuid5 session state (.takes label) = some after) :
    attached label = true ∧ ∃ runtime, step uuid5 session state.runtime label = some runtime ∧
      after = { runtime, picks := state.picks ++ pickOf session state.runtime label } := by
  simp only [advance] at taken
  split at taken
  next within =>
    obtain ⟨runtime, stepped, rfl⟩ := Option.map_eq_some_iff.mp taken
    exact ⟨within, runtime, stepped, rfl⟩
  · cases taken

theorem advance_cancelled {recorded : Bool}
    (taken : advance uuid5 session state (.cancelled recorded) = some after) :
    after = { state with runtime := { state.runtime with
      holder := none
      calls := state.runtime.calls.filter fun call => !call.locked
      operations := state.runtime.operations ++
        if recorded then strandedRecords state.runtime else [] } } := by
  obtain ⟨runtime, left, rfl⟩ := Option.map_eq_some_iff.mp taken
  unfold cancelPass at left
  split at left
  · cases left
  · cases left
    rfl

theorem strandedRecords_settled {state : State} {operation : Operation}
    (member : operation ∈ strandedRecords state) : operation.phase = .settled .unknown := by
  obtain ⟨call, _, rfl⟩ := List.mem_map.mp member
  rfl

theorem pick_turn {decision : Decision} {state : State} {writer : Option Writer} {next : State}
    (planned : plan uuid5 session state (.pick decision) = some (writer, next)) :
    state.holder = some .pumping := by
  simp only [plan] at planned
  split at planned
  · cases planned
  next turn => exact not_ne_iff.mp turn

end Inversion

end Copilotd.Source.Core.QueuePasses
