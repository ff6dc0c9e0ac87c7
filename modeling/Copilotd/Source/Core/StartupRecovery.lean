import Mathlib.Algebra.Order.Ring.Rat
import Copilotd.Base.Dict
import Copilotd.Base.Table
import Copilotd.Source.Core.Bindings

/-!
# The startup recovery inventory

Source: `core/recovery.py` (`StartupRecoveryInventory.run`) and
`core/volatile_content.py` (`get`, `delete`).

Every column that a statement reads or writes, in the tables of sessions, submissions,
interactions, protocol requests, leases and schedules.  Left out: the tables that only
receive a mark (reactions, background observations, projections, restart intents) and
the report with its counts.  A text column is an enumeration of the texts that the
statements name, and `other`.  The hash of `opaque_content_key` is a parameter.
-/
namespace Copilotd.Source.Core.StartupRecovery

open Base Base.Table Source.Core.Bindings

/-! ## Rows -/

inductive SubmissionState where
  | localQueued | submitting | submitted | submittedUnknown | observedActive | loopIdle
  | continuationExpected | outcomeUnknown | rejected
  | other (text : String)
  deriving DecidableEq

inductive SubmissionOrigin where
  | appSchedule
  | other (text : String)
  deriving DecidableEq

structure Submission where
  submissionId : String
  sdkSessionId : String
  origin : SubmissionOrigin := .other "app_message"
  state : SubmissionState
  scheduleRunId : Option String := none
  acceptedMessageId : Option String := none
  observedUserEventId : Option String := none
  completionBasis : Option String := none
  terminalAt : Option ℚ := none
  deriving DecidableEq

inductive QueueState where
  | localQueued | blockedConfigUnknown | blockedRemoteTransition | blockedModeDrift
  | blockedModelDrift | blockedAgentDrift | blockedSessionConfigDrift | contentUnavailable
  | other (text : String)
  deriving DecidableEq

structure QueueItem where
  id : String
  state : QueueState
  promptContentKey : Option String := none
  promptHash : Option String := none
  scheduleRunId : Option String := none
  updatedAt : ℚ := 0
  deriving DecidableEq

structure Schedule where
  id : String
  deleted : Bool := false
  sourceChannelId : Option String := none
  sourceMessageId : Option String := none
  deriving DecidableEq

inductive RunStatus where
  | claimed | dispatching | submitting | retryWait | dispatchUnknown | accepted | waiting
  | outcomeUnknown
  | other (text : String)
  deriving DecidableEq

structure ScheduleRun where
  runId : String
  scheduleId : String
  status : RunStatus
  leaseOwner : Option String := none
  leaseExpiresAt : Option ℚ := none
  retryAt : Option ℚ := none
  sessionCreateStartedAt : Option ℚ := none
  sendStartedAt : Option ℚ := none
  acceptedMessageId : Option String := none
  resultThreadId : Option String := none
  resultSessionId : Option String := none
  resultSubmissionId : Option String := none
  errorCategory : Option String := none
  errorCode : Option String := none
  errorDetail : Option String := none
  updatedAt : ℚ := 0
  deriving DecidableEq

inductive InteractionState where
  | pending | contentUnavailable | expired
  | other (text : String)
  deriving DecidableEq

structure Interaction where
  interactionId : String
  sdkSessionId : String
  state : InteractionState
  contentKey : Option String := none
  requestHash : Option String := none
  updatedAt : ℚ := 0
  deriving DecidableEq

inductive LivenessKind where
  | submission | interaction
  | other (text : String)
  deriving DecidableEq

inductive LivenessState where
  | active | released | orphaned
  | other (text : String)
  deriving DecidableEq

structure Liveness where
  sdkSessionId : String
  kind : LivenessKind
  sourceId : String
  state : LivenessState
  refreshedAt : ℚ := 0
  releasedAt : Option ℚ := none
  deriving DecidableEq

inductive ResponseState where
  | pending | responding | contentUnavailable | unknown
  | other (text : String)
  deriving DecidableEq

structure ProtocolRequest where
  requestId : String
  responseState : ResponseState
  responseAttemptId : Option String := none
  updatedAt : ℚ := 0
  deriving DecidableEq

inductive EffectState where
  | pending | claimed | started | unknown
  | other (text : String)
  deriving DecidableEq

/-- A row of `session_operations`, `protocol_response_attempts` or
`config_reload_claims`: an effect that was carried out under a fence. -/
structure FencedEffect where
  id : String
  sdkSessionId : String
  ownerFenceToken : Option Nat
  state : EffectState
  errorCode : Option String := none
  settledAt : Option ℚ := none
  deriving DecidableEq

structure OwnerLease where
  sdkSessionId : String
  fenceToken : Nat
  expiresAt : ℚ
  deriving DecidableEq

inductive Reading where
  | unknown
  | known (text : String)
  deriving DecidableEq

/-- What a binding knows of its runtime. -/
structure RuntimeColumns where
  runtimeMode : Reading := .unknown
  modeReconciliationState : Reading := .unknown
  modeDrift : Bool := false
  runtimeModelConfig : Option String := none
  modelReconciliationState : Reading := .unknown
  modelDrift : Bool := false
  runtimeProjectConfigVersion : Option Nat := none
  runtimeSessionConfigVersion : Option Nat := none
  runtimeSessionConfigHash : Option String := none
  sessionConfigState : Reading := .unknown
  sessionConfigDrift : Bool := false
  managedSettingsState : Reading := .unknown
  managedPermissionsBlocked : Bool := false
  deriving DecidableEq

structure BindingRow where
  sdkSessionId : String
  binding : SessionBinding
  permissionPosture : Reading := .unknown
  permissionVerifiedAt : Option ℚ := none
  runtime : RuntimeColumns := {}
  updatedAt : ℚ := 0
  deriving DecidableEq

inductive RuntimeScheduleState where
  | active | unknown
  | other (text : String)
  deriving DecidableEq

structure RuntimeSchedule where
  sdkSessionId : String
  state : RuntimeScheduleState
  updatedAt : ℚ := 0
  deriving DecidableEq

inductive CreationState where
  | threadCreated | creating | attached | unknown
  | other (text : String)
  deriving DecidableEq

structure CreationIntent where
  ofSchedule : Bool
  sourceId : String
  sdkSessionId : String
  threadId : Option String := none
  state : CreationState
  updatedAt : ℚ := 0
  deriving DecidableEq

structure Db where
  submissions : List Submission := []
  queue : List QueueItem := []
  schedules : List Schedule := []
  runs : List ScheduleRun := []
  interactions : List Interaction := []
  liveness : List Liveness := []
  requests : List ProtocolRequest := []
  operations : List FencedEffect := []
  attempts : List FencedEffect := []
  reloads : List FencedEffect := []
  owners : List OwnerLease := []
  bindings : List BindingRow := []
  runtimeSchedules : List RuntimeSchedule := []
  intents : List CreationIntent := []
  deriving DecidableEq

/-! ## Contents -/

/-- An entry of the content store; `value` is `none` for Python's `None`. -/
structure ContentEntry where
  value : Option String
  sha256 : String

abbrev Contents := List (String × ContentEntry)

/-- `get` with an expected hash. -/
def Contents.read (contents : Contents) (key expectedHash : Option String) : Option String := do
  let key ← key.filter (· ≠ "")
  let entry ← Dict.get key contents
  guard (∀ hash, expectedHash = some hash → entry.sha256 = hash)
  entry.value

/-- `delete` of each key. -/
def Contents.deleteAll (contents : Contents) (keys : List String) : Contents :=
  contents.filter fun entry => entry.1 ∉ keys

/-! ## What is unavailable -/

def QueueItem.waits (item : QueueItem) : Bool :=
  item.state ∈ [.localQueued, .blockedConfigUnknown, .blockedRemoteTransition, .blockedModeDrift,
    .blockedModelDrift, .blockedAgentDrift, .blockedSessionConfigDrift]

/-- `source_recoverable`: the prompt can be read from the schedule's message again. -/
def Db.sourceRecoverable (db : Db) (item : QueueItem) : Bool :=
  db.submissions.any fun submission =>
    submission.submissionId = item.id && submission.origin = .appSchedule &&
      submission.state = .localQueued &&
      db.runs.any fun run =>
        some run.runId = item.scheduleRunId && run.status ∈ [.claimed, .submitting, .retryWait] &&
          run.sendStartedAt.isNone && run.acceptedMessageId.isNone &&
          db.schedules.any fun schedule =>
            schedule.id = run.scheduleId && !schedule.deleted && schedule.sourceChannelId.isSome &&
              schedule.sourceMessageId.isSome

/-- The queue items that `unavailable_submissions` names. -/
def Db.lostItem (db : Db) (contents : Contents) (item : QueueItem) : Bool :=
  item.waits && (contents.read item.promptContentKey item.promptHash).isNone &&
    !db.sourceRecoverable item

def Db.unavailableSubmissions (db : Db) (contents : Contents) : List String :=
  (db.queue.filter fun item => db.lostItem contents item).map QueueItem.id

def Interaction.lost (contents : Contents) (interaction : Interaction) : Bool :=
  interaction.state = .pending &&
    (contents.read interaction.contentKey interaction.requestHash).isNone

def Db.unavailableInteractions (db : Db) (contents : Contents) : List String :=
  (db.interactions.filter fun interaction => interaction.lost contents).map
    Interaction.interactionId

/-- The sessions whose owner lease is over. -/
def Db.expired (db : Db) (now : ℚ) : List String :=
  (db.owners.filter fun owner => owner.expiresAt ≤ now).map OwnerLease.sdkSessionId

/-! ## The statements -/

def QueueItem.lose (now : ℚ) (item : QueueItem) : QueueItem :=
  { item with state := .contentUnavailable, updatedAt := now }

def Submission.lose (now : ℚ) (row : Submission) : Submission :=
  { row with
    state := .rejected
    completionBasis := some "content_unavailable"
    terminalAt := row.terminalAt.or (some now) }

def Liveness.settle (state : LivenessState) (now : ℚ) (row : Liveness) : Liveness :=
  { row with state, refreshedAt := now, releasedAt := some now }

def Interaction.settle (state : InteractionState) (now : ℚ) (row : Interaction) : Interaction :=
  { row with state, updatedAt := now }

def ProtocolRequest.settle (state : ResponseState) (now : ℚ) (row : ProtocolRequest) :
    ProtocolRequest :=
  { row with responseState := state, updatedAt := now }

/-- The five statements on what has lost its content. -/
def Db.loseContent (db : Db) (now : ℚ) (submissions interactions : List String) : Db :=
  { db with
    queue := updateWhere (fun item => item.id ∈ submissions) (QueueItem.lose now) db.queue
    submissions :=
      updateWhere (fun row => row.submissionId ∈ submissions ∧ row.state = .localQueued)
        (Submission.lose now) db.submissions
    interactions :=
      updateWhere (fun row => row.interactionId ∈ interactions ∧ row.state = .pending)
        (Interaction.settle .contentUnavailable now) db.interactions
    liveness :=
      updateWhere
        (fun row => row.kind = .interaction ∧ row.sourceId ∈ interactions ∧ row.state = .active)
        (Liveness.settle .released now)
        (updateWhere
          (fun row => row.kind = .submission ∧ row.sourceId ∈ submissions ∧ row.state = .active)
          (Liveness.settle .released now) db.liveness) }

/-- The protocol responses that are still open. -/
def Db.closeResponses (db : Db) (now : ℚ) : Db :=
  { db with
    requests :=
      updateWhere (fun row => row.responseState ∈ [.pending, .responding])
        (ProtocolRequest.settle .contentUnavailable now) db.requests }

def BindingRow.recoverTerminal (now : ℚ) (row : BindingRow) : BindingRow :=
  { row with
    binding := row.binding.unknown .startupTerminalRecovery
    permissionPosture := .unknown
    permissionVerifiedAt := none
    updatedAt := now }

/-- The active bindings whose attachment is terminal. -/
def Db.recoverTerminals (db : Db) (now : ℚ) : Db :=
  { db with
    bindings :=
      updateWhere
        (fun row => row.binding.bindingIntent = .active ∧ row.binding.attachmentState = .terminal)
        (BindingRow.recoverTerminal now) db.bindings }

/-- An owner lease that holds the effect's session under its fence. -/
def Db.owned (db : Db) (now : ℚ) (effect : FencedEffect) : Bool :=
  db.owners.any fun owner =>
    owner.sdkSessionId = effect.sdkSessionId && some owner.fenceToken = effect.ownerFenceToken &&
      decide (now < owner.expiresAt)

def FencedEffect.lose (now : ℚ) (effect : FencedEffect) : FencedEffect :=
  { effect with
    state := .unknown
    errorCode := some "startup_recovery"
    settledAt := effect.settledAt.or (some now) }

/-- The effects in one of the states that no owner holds. -/
def Db.loseEffects (db : Db) (now : ℚ) (states : List EffectState)
    (effects : List FencedEffect) : List FencedEffect :=
  updateWhere (fun effect => effect.state ∈ states ∧ !db.owned now effect)
    (FencedEffect.lose now) effects

def Db.loseOperations (db : Db) (now : ℚ) : Db :=
  { db with operations := db.loseEffects now [.pending, .started] db.operations }

def Db.loseAttempts (db : Db) (now : ℚ) : Db :=
  { db with attempts := db.loseEffects now [.started] db.attempts }

def Db.loseReloads (db : Db) (now : ℚ) : Db :=
  { db with reloads := db.loseEffects now [.claimed, .started] db.reloads }

/-- The responses whose attempt is unknown. -/
def Db.loseResponses (db : Db) (now : ℚ) : Db :=
  { db with
    requests :=
      updateWhere
        (fun row => row.responseState = .responding ∧ db.attempts.any fun attempt =>
          some attempt.id = row.responseAttemptId ∧ attempt.state = .unknown)
        (ProtocolRequest.settle .unknown now) db.requests }

/-! ### Expired owners -/

/-- The states of a submission that an owner was carrying out. -/
def activeStates : List SubmissionState :=
  [.submitting, .submitted, .submittedUnknown, .observedActive, .loopIdle, .continuationExpected]

/-- The `CASE` of the statement. -/
def lostState (state : SubmissionState) : SubmissionState :=
  if state ∈ [.submitting, .submitted] then .submittedUnknown else .outcomeUnknown

def Submission.loseOwner (now : ℚ) (row : Submission) : Submission :=
  { row with state := lostState row.state, terminalAt := row.terminalAt.or (some now) }

def RuntimeSchedule.lose (now : ℚ) (row : RuntimeSchedule) : RuntimeSchedule :=
  { row with state := .unknown, updatedAt := now }

def BindingRow.loseOwner (now : ℚ) (row : BindingRow) : BindingRow :=
  { row with
    binding :=
      { row.binding with
        attachmentState := .recoveryUnknown
        rowVersion := row.binding.rowVersion + 1 }
    permissionPosture := .unknown
    runtime := {}
    updatedAt := now }

def Db.loseSubmissions (db : Db) (now : ℚ) (expired : List String) : Db :=
  { db with
    submissions :=
      updateWhere (fun row => row.sdkSessionId ∈ expired ∧ row.state ∈ activeStates)
        (Submission.loseOwner now) db.submissions }

/-- The other statements on the sessions of expired owners. -/
def Db.loseSessions (db : Db) (now : ℚ) (expired : List String) : Db :=
  { db with
    interactions :=
      updateWhere (fun row => row.sdkSessionId ∈ expired ∧ row.state = .pending)
        (Interaction.settle .expired now) db.interactions
    liveness :=
      updateWhere (fun row => row.sdkSessionId ∈ expired ∧ row.state = .active)
        (Liveness.settle .orphaned now) db.liveness
    runtimeSchedules :=
      updateWhere (fun row => row.sdkSessionId ∈ expired ∧ row.state = .active)
        (RuntimeSchedule.lose now) db.runtimeSchedules
    bindings :=
      updateWhere
        (fun row => row.sdkSessionId ∈ expired ∧
          row.binding.attachmentState ∈
            [.creating, .resuming, .attached, .disconnecting, .terminal])
        (BindingRow.loseOwner now) db.bindings }

/-! ### Creation intents and schedule runs -/

def CreationIntent.lose (now : ℚ) (row : CreationIntent) : CreationIntent :=
  { row with state := .unknown, updatedAt := now }

/-- A creation that neither an owner nor its schedule run still holds. -/
def Db.lostCreation (db : Db) (now : ℚ) (intent : CreationIntent) : Bool :=
  intent.state = .creating &&
    !(db.owners.any fun owner =>
      owner.sdkSessionId = intent.sdkSessionId && decide (now < owner.expiresAt)) &&
    !(db.runs.any fun run =>
      intent.ofSchedule && run.runId = intent.sourceId &&
        run.leaseExpiresAt.any fun expires => decide (now < expires))

def Db.loseCreations (db : Db) (now : ℚ) : Db :=
  { db with
    intents :=
      updateWhere (fun row => db.lostCreation now row) (CreationIntent.lose now) db.intents }

/-- `COALESCE(lease_expires_at, 0) <= ?`. -/
def ScheduleRun.leaseOver (run : ScheduleRun) (now : ℚ) : Bool := run.leaseExpiresAt.getD 0 ≤ now

/-- `target_unknown_runs`. -/
def Db.lostTarget (db : Db) (now : ℚ) (run : ScheduleRun) : Bool :=
  run.status ∈ [.claimed, .dispatching, .submitting] && run.leaseOver now &&
    run.sessionCreateStartedAt.isSome && run.sendStartedAt.isNone && run.resultThreadId.isNone &&
    !(db.queue.any fun item => item.scheduleRunId = some run.runId) &&
    !(db.intents.any fun intent =>
      intent.ofSchedule && intent.sourceId = run.runId && intent.threadId.isSome &&
        some intent.sdkSessionId = run.resultSessionId &&
        intent.state ∈ [.threadCreated, .creating, .attached, .unknown])

def ScheduleRun.resumeTarget (now : ℚ) (run : ScheduleRun) : ScheduleRun :=
  { run with
    status := .retryWait
    retryAt := some now
    leaseOwner := none
    leaseExpiresAt := none
    errorCategory := none
    errorCode := some "resume_unreconciled_target"
    errorDetail := none
    updatedAt := now }

/-- `dispatch_unknown_runs`. -/
def Db.lostDispatch (db : Db) (now : ℚ) (run : ScheduleRun) : Bool :=
  run.status ∈ [.dispatching, .submitting] && run.leaseOver now && run.sendStartedAt.isSome &&
    run.acceptedMessageId.isNone &&
    !(db.submissions.any fun submission =>
      submission.scheduleRunId = some run.runId &&
        (submission.acceptedMessageId.isSome || submission.observedUserEventId.isSome))

def ScheduleRun.settle (status : RunStatus) (now : ℚ) (run : ScheduleRun) : ScheduleRun :=
  { run with status, updatedAt := now }

/-- `retry_wait_runs`. -/
def ScheduleRun.lostClaim (now : ℚ) (run : ScheduleRun) : Bool :=
  run.status ∈ [.claimed, .dispatching, .submitting] && run.sendStartedAt.isNone &&
    run.sessionCreateStartedAt.isNone && run.leaseOver now

def ScheduleRun.retry (now : ℚ) (run : ScheduleRun) : ScheduleRun :=
  { run with status := .retryWait, leaseOwner := none, leaseExpiresAt := none, updatedAt := now }

/-- `outcome_unknown_runs`. -/
def Db.lostOutcome (db : Db) (run : ScheduleRun) : Bool :=
  run.status ∈ [.accepted, .waiting] &&
    db.submissions.any fun submission =>
      some submission.submissionId = run.resultSubmissionId &&
        submission.state ∈ [.submittedUnknown, .outcomeUnknown]

def Db.resumeTargets (db : Db) (now : ℚ) : Db :=
  { db with
    runs :=
      updateWhere (fun run => db.lostTarget now run) (ScheduleRun.resumeTarget now) db.runs }

def Db.loseDispatches (db : Db) (now : ℚ) : Db :=
  { db with
    runs :=
      updateWhere (fun run => db.lostDispatch now run)
        (ScheduleRun.settle .dispatchUnknown now) db.runs }

def Db.retryClaims (db : Db) (now : ℚ) : Db :=
  { db with runs := updateWhere (ScheduleRun.lostClaim now) (ScheduleRun.retry now) db.runs }

def Db.loseOutcomes (db : Db) (now : ℚ) : Db :=
  { db with
    runs :=
      updateWhere (fun run => db.lostOutcome run) (ScheduleRun.settle .outcomeUnknown now)
        db.runs }

/-! ## The run -/

section
variable (opaqueContentKey : String → String → String → String)

def Db.deletedKeys (db : Db) (submissions interactions : List String) : List String :=
  let queued := db.queue.filter fun item => item.waits && item.id ∈ submissions
  let pending := db.interactions.filter fun row =>
    row.state = .pending && row.interactionId ∈ interactions
  (queued.filterMap fun item => item.promptContentKey.filter (· ≠ "")) ++
    pending.flatMap fun row =>
      (row.contentKey.filter (· ≠ "")).toList ++
        [opaqueContentKey "interaction-response" row.sdkSessionId row.interactionId]

/-- The transaction. -/
def Db.recover (db : Db) (now : ℚ) (submissions interactions : List String) : Db :=
  let expired := db.expired now
  let db := db.loseContent now submissions interactions
  let db := db.closeResponses now
  let db := db.recoverTerminals now
  let db := db.loseOperations now
  let db := db.loseAttempts now
  let db := db.loseReloads now
  let db := db.loseResponses now
  let db := db.loseSubmissions now expired
  let db := db.loseSessions now expired
  let db := db.loseCreations now
  let db := db.resumeTargets now
  let db := db.loseDispatches now
  let db := db.retryClaims now
  db.loseOutcomes now

def run (now : ℚ) (state : Db × Contents) : Db × Contents :=
  let (db, contents) := state
  let submissions := db.unavailableSubmissions contents
  let interactions := db.unavailableInteractions contents
  (db.recover now submissions interactions,
    contents.deleteAll (db.deletedKeys opaqueContentKey submissions interactions))

end

end Copilotd.Source.Core.StartupRecovery
