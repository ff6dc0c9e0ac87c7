import Copilotd.Source.Core.ScheduleRuns
import Copilotd.Source.Core.StartupRecovery

/-!
# Schedule runs at startup and in the reducer's finalization

Source: `core/recovery.py` (the four `schedule_runs` statements of
`StartupRecoveryInventory.run`) and `core/reducer.py`
(`_finalize_schedule_run_from_reducer`).

The conditions of the four statements are those of `StartupRecovery`, read off the
columns of these tables.  A column that none of them reads is left blank.
-/
namespace Copilotd.Source.Core.Scheduler

open Base.Table
open Source.Storage (SubmissionState)

/-! ## The columns -/

def ScheduleRunState.column : ScheduleRunState → StartupRecovery.RunStatus
  | .claimed => .claimed
  | .submitting => .submitting
  | .retryWait => .retryWait
  | .dispatchUnknown => .dispatchUnknown
  | .accepted => .accepted
  | .waiting => .waiting
  | .outcomeUnknown => .outcomeUnknown
  | .pending => .other "pending"
  | .semanticComplete => .other "semantic_complete"
  | .blocked => .other "blocked"
  | .failed => .other "failed"
  | .cancelled => .other "cancelled"
  | .targetUnknown => .other "target_unknown"

def RunRow.columns (row : RunRow) : StartupRecovery.ScheduleRun :=
  { runId := row.runId
    scheduleId := ""
    status := row.status.column
    leaseOwner := row.leaseOwner
    leaseExpiresAt := row.leaseExpiresAt
    sessionCreateStartedAt := row.sessionCreateStartedAt
    sendStartedAt := row.sendStartedAt
    acceptedMessageId := row.acceptedMessageId
    resultThreadId := row.resultThreadId
    resultSessionId := row.resultSessionId
    resultSubmissionId := row.resultSubmissionId }

/-- The statements tell the two unknown states from the others only. -/
def submissionColumn : SubmissionState → StartupRecovery.SubmissionState
  | .submittedUnknown => .submittedUnknown
  | .outcomeUnknown => .outcomeUnknown
  | _ => .other ""

def Submission.columns (row : Submission) : StartupRecovery.Submission :=
  { submissionId := row.submissionId
    sdkSessionId := row.sdkSessionId
    state := submissionColumn row.state
    scheduleRunId := row.scheduleRunId
    acceptedMessageId := row.acceptedMessageId
    observedUserEventId := row.observedUserEventId }

def CreationIntent.columns (intent : CreationIntent) : StartupRecovery.CreationIntent :=
  { ofSchedule := true
    sourceId := intent.sourceId
    sdkSessionId := intent.sdkSessionId
    threadId := intent.threadId
    state := if intent.live then .attached else .other "" }

def Db.columns (db : Db) : StartupRecovery.Db :=
  { runs := db.runs.map RunRow.columns
    queue := db.queue.map fun item =>
      { id := item.id, state := .other "", scheduleRunId := item.scheduleRunId }
    submissions := db.submissions.map Submission.columns
    intents := db.intents.map CreationIntent.columns }

/-! ## Startup recovery -/

/-- What `target_unknown_runs` sets. -/
def RunRow.resumeTarget (row : RunRow) (now : ℚ) : RunRow :=
  { row with
    status := .retryWait
    retryAt := some now
    leaseOwner := none
    leaseExpiresAt := none
    errorCategory := none
    errorCode := some "resume_unreconciled_target"
    updatedAt := now }

def RunRow.withStatus (row : RunRow) (status : ScheduleRunState) (now : ℚ) : RunRow :=
  { row with status, updatedAt := now }

/-- What `retry_wait_runs` sets. -/
def RunRow.releaseClaim (row : RunRow) (now : ℚ) : RunRow :=
  { row with status := .retryWait, leaseOwner := none, leaseExpiresAt := none, updatedAt := now }

/-- The `schedule_runs` statements of `StartupRecoveryInventory.run`, in their order. -/
def startupRecovery (now : ℚ) (db : Db) : Db :=
  let db := db.updateRuns (fun row => db.columns.lostTarget now row.columns)
    (fun row => row.resumeTarget now)
  let db := db.updateRuns (fun row => db.columns.lostDispatch now row.columns)
    (fun row => row.withStatus .dispatchUnknown now)
  let db := db.updateRuns (fun row => row.columns.lostClaim now) (fun row => row.releaseClaim now)
  db.updateRuns (fun row => db.columns.lostOutcome row.columns)
    (fun row => row.withStatus .outcomeUnknown now)

/-! ## The reducer's finalization -/

/-- `_finalize_schedule_run_from_reducer`; the error category stays as it is. -/
def finalizeFromReducer (runId : String) (status : ScheduleRunState)
    (completionBasis errorCode : Option String) (now : ℚ) (db : Db) : Db :=
  match db.run runId with
  | none => db
  | some row =>
    if row.renderIntentId ≠ none ∧ row.status ≠ .accepted then db
    else db.updateRuns (fun other => other.runId = runId)
      fun other => other.finalized status completionBasis other.errorCategory errorCode now

end Copilotd.Source.Core.Scheduler
