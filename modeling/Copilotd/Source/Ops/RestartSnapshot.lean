import Copilotd.Source.Core.Bindings
import Copilotd.Source.Core.SubmissionLeases
import Copilotd.Source.Ops.RestartRuns

/-!
# The safety snapshot of a restart

Source: `ops/service.py` (`LeaseMetrics`, `RestartSafetySnapshot`,
`SqliteRestartCoordinator._snapshot_connection`, `_restart_blockers`).

A binding keeps the columns that the queries read.  The submissions, the queue and the leases
are those of the reducer.
-/
namespace Copilotd.Source.Ops.RestartSnapshot

open Source.Core.Bindings (AttachmentState)
open Source.Core.Submissions Source.Core.SubmissionLeases
open Source.Storage (OperationRow RuntimeScheduleRow)

/-- `session_bindings.runtime_remote_mode`. -/
inductive RemoteMode where
  | on | off | unknown
  | reported (mode : String)
  deriving DecidableEq

structure BoundSession where
  sdkSessionId : String
  attachmentState : AttachmentState
  runtimeGeneration : Nat
  ownerFenceToken : Option Nat
  runtimeRemoteMode : RemoteMode := .unknown
  pendingRemoteTransitionId : Option String := none

/-- The tables beside those of the reducer. -/
structure Surroundings where
  bindings : List BoundSession := []
  operations : List OperationRow := []
  runtimeSchedules : List RuntimeScheduleRow := []
  schedules : Core.Scheduler.Db := {}
  ingressDepth : Nat := 0

structure LeaseMetrics where
  activeSubmissions : Nat := 0
  observedBackgroundTasks : Nat := 0
  pendingInteractions : Nat := 0
  total : Nat := 0

structure RestartSafetySnapshot where
  capturedAt : ℚ
  activeLeases : LeaseMetrics
  localPending : Nat
  pendingOperations : Nat
  remoteSessions : Nat
  nativeSchedules : Nat
  nativeTriggerWindows : Nat
  blockers : List String
  ingressDepth : Nat := 0

/-- `l.runtime_generation = b.runtime_generation AND l.owner_fence_token =
b.owner_fence_token`, for the binding of a row. -/
def boundTo (sdkSessionId : String) (generation fence : Int) (binding : BoundSession) : Bool :=
  binding.sdkSessionId = sdkSessionId ∧ (binding.runtimeGeneration : Int) = generation ∧
    binding.ownerFenceToken.any fun token => (token : Int) = fence

/-- The lease is active in the generation its binding is in. -/
def counts (bindings : List BoundSession) (lease : LivenessLease) : Bool :=
  lease.state = .active ∧
    bindings.any (boundTo lease.sdkSessionId lease.runtimeGeneration lease.ownerFenceToken)

def leaseMetrics (bindings : List BoundSession) (leases : List LivenessLease) : LeaseMetrics :=
  let count (kind : LivenessKind) : Nat :=
    leases.countP fun lease => counts bindings lease ∧ lease.kind = kind
  { activeSubmissions := count .submission
    observedBackgroundTasks := count .observedBackground
    pendingInteractions := count .interaction
    total := count .submission + count .observedBackground + count .interaction }

def pendingOperations (around : Surroundings) : Nat :=
  around.operations.countP fun row => row.state ∈ [.pending, .started] ∧
    around.bindings.any (boundTo row.sdkSessionId row.runtimeGeneration row.ownerFenceToken)

def remoteSessions (bindings : List BoundSession) : Nat :=
  bindings.countP fun row => row.attachmentState = .attached ∧
    (row.runtimeRemoteMode ∈ [.on, .unknown] ∨ row.pendingRemoteTransitionId.isSome)

def nativeSchedules (rows : List RuntimeScheduleRow) : Nat :=
  rows.countP (·.state ∈ [.active, .unknown])

/-- A count, under the name it is reported by. -/
def blocker (name : String) (count : Nat) : List String :=
  if count = 0 then [] else [name ++ ":" ++ toString count]

def restartBlockers (leases : LeaseMetrics) (localPending pendingOperations remoteSessions
    nativeSchedules nativeTriggerWindows ingressDepth : Nat) : List String :=
  blocker "ingress_queue" ingressDepth ++ blocker "active_liveness" leases.total ++
    blocker "local_queue" localPending ++ blocker "pending_operations" pendingOperations ++
    blocker "remote_exposure" remoteSessions ++ blocker "runtime_schedules" nativeSchedules ++
    blocker "native_trigger_windows" nativeTriggerWindows

def snapshotConnection (now : ℚ) (around : Surroundings) (ledger : Ledger) :
    RestartSafetySnapshot :=
  let leases := leaseMetrics around.bindings ledger.leases
  let localPending := ledger.db.queue.countP blocksDetach
  let operations := pendingOperations around
  let remote := remoteSessions around.bindings
  let native := nativeSchedules around.runtimeSchedules
  let windows := nativeTriggerWindows around.schedules
  { capturedAt := now, activeLeases := leases, localPending, pendingOperations := operations
    remoteSessions := remote, nativeSchedules := native, nativeTriggerWindows := windows
    blockers := restartBlockers leases localPending operations remote native windows
      around.ingressDepth
    ingressDepth := around.ingressDepth }

/-! ## When the blockers are empty -/

theorem blocker_eq_nil {name : String} {count : Nat} : blocker name count = [] ↔ count = 0 := by
  unfold blocker
  split
  next zero => simp [zero]
  next positive => simp [positive]

theorem restartBlockers_eq_nil {leases : LeaseMetrics} {localPending pendingOperations
    remoteSessions nativeSchedules nativeTriggerWindows ingressDepth : Nat} :
    restartBlockers leases localPending pendingOperations remoteSessions nativeSchedules
        nativeTriggerWindows ingressDepth = [] ↔
      ingressDepth = 0 ∧ leases.total = 0 ∧ localPending = 0 ∧ pendingOperations = 0 ∧
        remoteSessions = 0 ∧ nativeSchedules = 0 ∧ nativeTriggerWindows = 0 := by
  simp only [restartBlockers, List.append_eq_nil_iff, blocker_eq_nil, and_assoc]

theorem blockers_of_lease {now : ℚ} {around : Surroundings} {ledger : Ledger}
    {lease : LivenessLease} (member : lease ∈ ledger.leases)
    (counted : counts around.bindings lease = true) :
    (snapshotConnection now around ledger).blockers ≠ [] := by
  intro empty
  have none := (restartBlockers_eq_nil.mp empty).2.1
  have kinds : ∀ kind, lease.kind = kind →
      0 < ledger.leases.countP fun lease => counts around.bindings lease ∧ lease.kind = kind := by
    intro kind same
    rw [List.countP_pos_iff]
    exact ⟨lease, member, by simp [counted, same]⟩
  simp only [leaseMetrics] at none
  have some := kinds lease.kind rfl
  cases kind : lease.kind <;> rw [kind] at some <;> omega

theorem blockers_of_item {now : ℚ} {around : Surroundings} {ledger : Ledger} {item : QueueItem}
    (member : item ∈ ledger.db.queue) (unfinished : blocksDetach item = true) :
    (snapshotConnection now around ledger).blockers ≠ [] := by
  intro empty
  have none := (restartBlockers_eq_nil.mp empty).2.2.1
  exact List.countP_eq_zero.mp none item member unfinished

end Copilotd.Source.Ops.RestartSnapshot
