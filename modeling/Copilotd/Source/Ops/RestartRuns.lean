import Copilotd.Base.Run
import Copilotd.Source.Core.RecoveredRuns

/-!
# Schedule runs across a restart

Source: `ops/service.py` (`_TERMINAL_SCHEDULE_RUN_STATES`, the `schedule_runs`
statements of `prepare_force` and `_mark_post_commit_producer_unknown`, the trigger
windows of `_snapshot_connection`, the branches of `recover_for_replacement`).

The other tables of these transactions do not meet `schedule_runs`.  What they and the
admission fence decide is part of the label: whether `prepare_force` commits, and which
branch `recover_for_replacement` takes.
-/
namespace Copilotd.Source.Ops

open Source.Core.Scheduler

/-- The text in the column `status`. -/
def statusValue : ScheduleRunState → String
  | .pending => "pending"
  | .claimed => "claimed"
  | .submitting => "submitting"
  | .accepted => "accepted"
  | .waiting => "waiting"
  | .semanticComplete => "semantic_complete"
  | .blocked => "blocked"
  | .failed => "failed"
  | .outcomeUnknown => "outcome_unknown"
  | .cancelled => "cancelled"
  | .targetUnknown => "target_unknown"
  | .dispatchUnknown => "dispatch_unknown"
  | .retryWait => "retry_wait"

def terminalScheduleRunStates : List String :=
  ["cancelled", "completed", "failed", "outcome_unknown", "target_unknown", "dispatch_unknown"]

/-- `claimed_at`, `session_create_started_at` or `send_started_at` is set. -/
def begun (row : RunRow) : Bool :=
  row.claimedAt ≠ none ∨ row.sessionCreateStartedAt ≠ none ∨ row.sendStartedAt ≠ none

/-- The `WHERE` clause that the three statements share. -/
def triggerWindow (row : RunRow) : Bool :=
  statusValue row.status ∉ terminalScheduleRunStates ∧ begun row

/-- `native_trigger_windows` of `_snapshot_connection`. -/
def nativeTriggerWindows (db : Db) : Nat := db.runs.countP triggerWindow

/-- The statement `triggers` of `prepare_force`, which is also the one of
`_mark_post_commit_producer_unknown`. -/
def markTriggersUnknown (now : ℚ) (db : Db) : Db :=
  db.updateRuns triggerWindow fun row => row.withStatus .outcomeUnknown now

/-- How `recover_for_replacement` goes on after its checks. -/
inductive Adoption where
  /-- No fence, or an exception: the transaction is rolled back. -/
  | unchanged
  /-- A committed fence whose producer count, journal and markers are as acknowledged. -/
  | accounted
  /-- A committed fence with a violation, or one that was never committed. -/
  | unaccounted
  deriving DecidableEq

inductive Step where
  /-- The scheduler, its reducer handlers, and writers of other tables. -/
  | scheduler (event : Event)
  | finalizeFromReducer (runId : String) (status : ScheduleRunState)
      (completionBasis errorCode : Option String) (now : ℚ)
  | startupRecovery (now : ℚ)
  | prepareForce (capturedAt : ℚ) (commits : Bool)
  | recoverForReplacement (adoption : Adoption) (now : ℚ)
  | safetySnapshot

def apply (db : Db) : Step → Db
  | .scheduler event => db.react event
  | .finalizeFromReducer runId status completionBasis errorCode now =>
    finalizeFromReducer runId status completionBasis errorCode now db
  | .startupRecovery now => startupRecovery now db
  | .prepareForce capturedAt commits =>
    if commits then markTriggersUnknown capturedAt db else db
  | .recoverForReplacement adoption now =>
    if adoption = .unaccounted then markTriggersUnknown now db else db
  | .safetySnapshot => db

def step (db : Db) (label : Step) : Option Db := some (apply db label)

end Copilotd.Source.Ops
