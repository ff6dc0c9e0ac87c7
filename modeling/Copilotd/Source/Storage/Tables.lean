import Mathlib.Algebra.Order.Ring.Rat
import Copilotd.Base.Table

/-!
# Session-owned tables

Rows of the tables that `storage/leases.py` settles at an owner takeover
(`migrations/0001_initial.sql`).  Each row keeps the key columns and the columns
that the modelled statements read or write; descriptive columns (prompts,
payloads, titles) are left out.  Timestamps are exact rationals.
-/
namespace Copilotd.Source.Storage

/-- `core/mailbox.py: OperationState`. -/
inductive OperationState where
  | pending | started | confirmed | rejected | unknown
  deriving DecidableEq

def OperationState.value : OperationState → String
  | .pending => "pending"
  | .started => "started"
  | .confirmed => "confirmed"
  | .rejected => "rejected"
  | .unknown => "unknown"

/-- A row of `session_operations`. -/
structure OperationRow where
  operationId : String
  sdkSessionId : String
  runtimeGeneration : Int
  ownerFenceToken : Int
  kind : String
  idempotencyKey : String
  inputHash : String
  state : OperationState
  resultRef : Option String := none
  errorCode : Option String := none
  startedAt : Option ℚ := none
  settledAt : Option ℚ := none
  createdAt : ℚ

/-- The values the code writes to `submissions.state`. -/
inductive SubmissionState where
  | localQueued | submitting | submitted | submittedUnknown | observedActive | loopIdle
  | continuationExpected | semanticComplete | semanticBlocked | observedAborted
  | outcomeUnknown | rejected | cancelled | contentUnavailable
  deriving DecidableEq

structure SubmissionRow where
  submissionId : String
  sdkSessionId : String
  state : SubmissionState
  terminalAt : Option ℚ := none

/-- The values the code writes to `message_queue.state`. -/
inductive QueueState where
  | localQueued | submitting | submitted | submittedUnknown | outcomeUnknown
  | rejected | failed | cancelled | contentUnavailable
  deriving DecidableEq

structure QueueRow where
  id : String
  state : QueueState
  updatedAt : ℚ

/-- `background_observations.observed_state`; a status the runtime reports under
another name is kept as text. -/
inductive ObservedState where
  | running | idle | unknown | completed
  | reported (status : String)
  deriving DecidableEq

structure BackgroundRow where
  sdkSessionId : String
  sourceEventId : String
  observedState : ObservedState
  terminalEvidence : Option String := none
  lastProgressAt : ℚ

/-- `pending_interactions.state`. -/
inductive InteractionState where
  | pending | resolved | expired | contentUnavailable
  deriving DecidableEq

structure InteractionRow where
  interactionId : String
  sdkSessionId : String
  ownerFenceToken : Int
  state : InteractionState
  updatedAt : ℚ

/-- `runtime_schedules.state`. -/
inductive RuntimeScheduleState where
  | active | triggered | unknown | cancelled
  deriving DecidableEq

structure RuntimeScheduleRow where
  sdkSessionId : String
  runtimeScheduleId : String
  state : RuntimeScheduleState
  updatedAt : ℚ

/-- `liveness_leases.state`. -/
inductive LivenessState where
  | active | released | orphaned
  deriving DecidableEq

structure LivenessRow where
  sdkSessionId : String
  leaseId : String
  ownerFenceToken : Int
  state : LivenessState
  refreshedAt : ℚ
  releasedAt : Option ℚ := none

/-- The tables whose rows an owner lease takeover settles. -/
structure SessionTables where
  operations : List OperationRow := []
  submissions : List SubmissionRow := []
  messageQueue : List QueueRow := []
  backgroundObservations : List BackgroundRow := []
  pendingInteractions : List InteractionRow := []
  runtimeSchedules : List RuntimeScheduleRow := []
  livenessLeases : List LivenessRow := []

end Copilotd.Source.Storage
