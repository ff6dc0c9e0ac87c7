import Copilotd.Source.Storage.Tables

/-!
# Schedule runs

Source: `core/scheduler.py` (`ScheduleRepository.claim_next`, `renew_run`,
`mark_target_started`, `record_target`, `enqueue`, `transition_queued_submission_error`,
`retry_or_fail`, `finalize`, `recover`, `queued_runs_for_redrive`,
`reconcile_submissions`) and the handlers of `copilotd.submission.submitting` and
`copilotd.submission.accepted` (`core/reducer.py`), over `schedule_runs`,
`message_queue` and `submissions`.

Every operation is one database transaction; an exception rolls it back.  The
verdicts that the statements read off other tables (whether the target's binding
is ready, whether the restart drain is on) are arguments.  A `uuid5` is modelled
by the name it is computed from.  Left out: prompts, the attempt and event logs,
liveness leases, reactions, and the render intent beyond its id.
-/
namespace Copilotd.Source.Core.Scheduler

open Base.Table
open Source.Storage (QueueState SubmissionState)

inductive ScheduleRunState where
  | pending | claimed | submitting | accepted | waiting | semanticComplete | blocked | failed
  | outcomeUnknown | cancelled | targetUnknown | dispatchUnknown | retryWait
  deriving DecidableEq

def ScheduleRunState.terminal : ScheduleRunState → Bool
  | .semanticComplete | .blocked | .failed | .outcomeUnknown | .cancelled | .targetUnknown
  | .dispatchUnknown => true
  | .pending | .claimed | .submitting | .accepted | .waiting | .retryWait => false

inductive ErrorCategory where
  | input | capability | target | config | attachment | remote | runtime | discord | storage
  | internal

/-- `SchedulerDispatchError`. -/
structure DispatchError where
  category : ErrorCategory
  code : String
  retryable : Bool := false
  blocked : Bool := false
  targetUnknown : Bool := false
  dispatchUnknown : Bool := false

inductive SchedulerError where
  | conflict (message : String)
  | notFound (runId : String)
  | dispatch (error : DispatchError)
  | value (message : String)
  | integrity (table : String)
  | runtime (message : String)

/-- A row of `schedule_runs`. -/
structure RunRow where
  runId : String
  plannedAtUtc : ℚ
  createdAt : ℚ
  status : ScheduleRunState := .pending
  attempt : Nat := 0
  fenceToken : Int := 0
  leaseOwner : Option String := none
  leaseExpiresAt : Option ℚ := none
  retryAt : Option ℚ := none
  claimedAt : Option ℚ := none
  targetStartedAt : Option ℚ := none
  sessionCreateStartedAt : Option ℚ := none
  creationIntentId : Option String := none
  queuedAt : Option ℚ := none
  dispatchKey : Option String := none
  sendStartedAt : Option ℚ := none
  acceptedMessageId : Option String := none
  acceptedAt : Option ℚ := none
  waitingAt : Option ℚ := none
  resultProjectId : Option String := none
  resultThreadId : Option String := none
  resultSessionId : Option String := none
  resultSubmissionId : Option String := none
  temporaryAttachment : Bool := false
  renderIntentId : Option String := none
  completionBasis : Option String := none
  errorCategory : Option ErrorCategory := none
  errorCode : Option String := none
  terminalAt : Option ℚ := none
  cancelledAt : Option ℚ := none
  lastProgressAt : Option ℚ := none
  updatedAt : ℚ

/-- A row of `message_queue`. -/
structure QueueItem where
  id : String
  threadId : String
  scheduleRunId : Option String
  state : QueueState := .localQueued
  promptContentKey : Option String := none
  promptHash : Option String := none
  dispatchAttempt : Nat := 0
  createdAt : ℚ
  updatedAt : ℚ

structure Submission where
  submissionId : String
  sdkSessionId : String
  scheduleRunId : Option String := none
  state : SubmissionState := .localQueued
  acceptedMessageId : Option String := none
  observedUserEventId : Option String := none
  terminalAt : Option ℚ := none

/-- A row of `session_creation_intents` with `source_kind = 'schedule'`; `live` says
that its state is `thread_created`, `creating`, `attached` or `unknown`. -/
structure CreationIntent where
  sourceId : String
  threadId : Option String
  projectId : Option String
  sdkSessionId : String
  live : Bool

structure Db where
  runs : List RunRow := []
  queue : List QueueItem := []
  submissions : List Submission := []
  intents : List CreationIntent := []
  /-- `scheduler_state.worker_state = 'draining'`. -/
  draining : Bool := false

structure ScheduledTarget where
  projectId : Option String := none
  threadId : String
  sdkSessionId : String
  temporaryAttachment : Bool := false

def scheduleMaxAttempts : Nat := 6

def scheduleRetryDelays : List ℚ := [5, 30, 120, 600, 1800]

def submissionId (runId : String) : String := "copilotd:schedule-run:" ++ runId ++ ":submission"

/-- SQL `COALESCE` of a column and a new value. -/
def coalesce {α : Type} (column : Option α) (value : Option α) : Option α := column.or value

def Db.updateRuns (db : Db) (hit : RunRow → Bool) (set : RunRow → RunRow) : Db :=
  { db with runs := updateWhere hit set db.runs }

def Db.run (db : Db) (runId : String) : Option RunRow := lookup RunRow.runId runId db.runs

/-- The lease columns name this owner and fence. -/
def RunRow.heldBy (row : RunRow) (ownerId : String) (fenceToken : Int) : Bool :=
  row.leaseOwner = some ownerId ∧ row.fenceToken = fenceToken

/-- `COALESCE(lease_expires_at, 0) <= now`. -/
def RunRow.leaseOver (row : RunRow) (now : ℚ) : Bool := row.leaseExpiresAt.getD 0 ≤ now

/-! ## Claiming and holding a run -/

/-- An item of the run whose state is none of `excluded`. -/
def Db.queuedItem (db : Db) (runId : String) (excluded : List QueueState) : Option QueueItem :=
  db.queue.find? fun item => item.scheduleRunId = some runId ∧ item.state ∉ excluded

/-- The `WHERE` clause of `claim_next`. -/
def Db.claimable (db : Db) (now : ℚ) (row : RunRow) : Bool :=
  match row.status with
  | .pending => true
  | .retryWait => row.retryAt.getD 0 ≤ now
  | .claimed => row.leaseOver now ∧ row.targetStartedAt = none ∧ row.sendStartedAt = none
  | .submitting =>
    row.leaseOver now ∧ row.sendStartedAt = none ∧
      db.queuedItem row.runId [.cancelled, .failed] = none
  | _ => false

/-- `ORDER BY planned_at_utc, created_at, run_id`. -/
def RunRow.before (a b : RunRow) : Bool :=
  a.plannedAtUtc < b.plannedAtUtc ∨
    (a.plannedAtUtc = b.plannedAtUtc ∧
      (a.createdAt < b.createdAt ∨ (a.createdAt = b.createdAt ∧ a.runId < b.runId)))

/-- `LIMIT 1` of the ordered rows. -/
def firstRun : List RunRow → Option RunRow
  | [] => none
  | row :: rows =>
    match firstRun rows with
    | none => some row
    | some other => if other.before row then some other else some row

theorem firstRun_mem {rows : List RunRow} {row : RunRow} (first : firstRun rows = some row) :
    row ∈ rows := by
  induction rows generalizing row with
  | nil => cases first
  | cons head tail ih =>
    unfold firstRun at first
    split at first
    · cases first
      exact List.mem_cons_self ..
    · next other inTail =>
      split at first
      · cases first
        exact List.mem_cons_of_mem _ (ih inTail)
      · cases first
        exact List.mem_cons_self ..

/-- The unconditional `UPDATE` at the end of `_finalize_in_transaction`. -/
def RunRow.finalized (row : RunRow) (status : ScheduleRunState) (completionBasis : Option String)
    (errorCategory : Option ErrorCategory) (errorCode : Option String) (now : ℚ) : RunRow :=
  { row with
    status, completionBasis, errorCategory, errorCode
    renderIntentId := some ("copilotd:schedule-run:" ++ row.runId ++ ":final-render")
    leaseOwner := none
    leaseExpiresAt := none
    terminalAt := coalesce row.terminalAt (some now)
    cancelledAt := if status = .cancelled then some now else row.cancelledAt
    lastProgressAt := some now
    updatedAt := now }

/-- `dispatch_observed` of `_finalize_in_transaction`. -/
def Db.dispatchObserved (db : Db) (row : RunRow) : Bool :=
  db.submissions.any fun submission =>
    some submission.submissionId = row.resultSubmissionId ∧
      (submission.acceptedMessageId ≠ none ∨ submission.observedUserEventId ≠ none)

def Db.forcedRestart (db : Db) (row : RunRow) (now : ℚ) : Db :=
  let sent := row.sendStartedAt.isSome || db.dispatchObserved row
  { db with
    queue := updateWhere
      (fun item => item.scheduleRunId = some row.runId ∧
        item.state ∉ [.submitted, .failed, .cancelled])
      (fun item =>
        { item with
          state := if sent then .submittedUnknown else .cancelled
          updatedAt := now })
      db.queue
    submissions := updateWhere
      (fun submission => some submission.submissionId = row.resultSubmissionId ∧
        submission.state ∈ [.localQueued, .submitting, .submitted, .submittedUnknown,
          .observedActive, .loopIdle, .continuationExpected])
      (fun submission =>
        { submission with
          state :=
            if sent || row.acceptedMessageId.isSome then .outcomeUnknown else .cancelled
          terminalAt := coalesce submission.terminalAt (some now) })
      db.submissions }

/-- `_finalize_in_transaction`; `expected` is the pair of expected owner and fence. -/
def Db.finalizeInTransaction (db : Db) (runId : String) (status : ScheduleRunState)
    (completionBasis : Option String) (errorCategory : Option ErrorCategory)
    (errorCode : Option String) (now : ℚ) (expected : Option (String × Int)) :
    Except SchedulerError Db :=
  match db.run runId with
  | none => .error (.notFound runId)
  | some row =>
    if expected.any fun pair => ¬ row.heldBy pair.1 pair.2 then
      .error (.conflict "schedule run fence was lost before terminal finalization")
    else if row.status.terminal ∧ row.renderIntentId ≠ none then .ok db
    else
      let status :=
        if errorCode = some "forced_restart" ∧ status = .dispatchUnknown ∧
            (db.dispatchObserved row ∨ row.acceptedMessageId ≠ none) then .outcomeUnknown
        else status
      let finalized := db.updateRuns (fun other => other.runId = runId)
        fun other => other.finalized status completionBasis errorCategory errorCode now
      .ok (if errorCode = some "forced_restart" then finalized.forcedRestart row now
        else finalized)

/-- An expired claim is taken over within the same attempt. -/
def RunRow.nextAttempt (row : RunRow) : Nat :=
  if row.status = .claimed then row.attempt else row.attempt + 1

def claimNext (ownerId : String) (now leaseSeconds : ℚ) (db : Db) :
    Except SchedulerError (Db × Option RunRow) :=
  if db.draining then .ok (db, none)
  else
    match firstRun (db.runs.filter (db.claimable now)) with
    | none => .ok (db, none)
    | some row =>
      if row.nextAttempt > scheduleMaxAttempts then do
        let after ← db.finalizeInTransaction row.runId .failed none (some .runtime)
          (some "retry_exhausted") now none
        .ok (after, none)
      else
        let after := db.updateRuns
          (fun other => other.runId = row.runId ∧ other.status = row.status)
          fun other => { other with
            status := .claimed
            leaseOwner := some ownerId
            leaseExpiresAt := some (now + leaseSeconds)
            fenceToken := other.fenceToken + 1
            attempt := row.nextAttempt
            claimedAt := coalesce other.claimedAt (some now)
            retryAt := none
            lastProgressAt := some now
            updatedAt := now }
        .ok (after, after.run row.runId)

def renewRun (runId ownerId : String) (fenceToken : Int) (now leaseSeconds : ℚ) (db : Db) : Db :=
  db.updateRuns
    (fun row => row.runId = runId ∧ row.heldBy ownerId fenceToken ∧
      row.status ∈ [.claimed, .submitting])
    fun row => { row with
      leaseExpiresAt := some (now + leaseSeconds), lastProgressAt := some now, updatedAt := now }

/-- `resultSessionId` is the one of the caller's snapshot of the run. -/
def markTargetStarted (runId ownerId : String) (fenceToken : Int) (newSession : Bool)
    (resultSessionId : Option String) (now : ℚ) (db : Db) : Except SchedulerError Db :=
  let hit := fun row : RunRow =>
    row.runId = runId ∧ row.heldBy ownerId fenceToken ∧ row.status = .claimed
  let sessionId :=
    if newSession then some ("copilotd:schedule-run:" ++ runId ++ ":session")
    else resultSessionId
  if rowcount hit db.runs ≠ 1 then
    .error (.conflict "schedule run fence was lost before target preparation")
  else
    .ok (db.updateRuns hit fun row => { row with
      status := .submitting
      targetStartedAt := coalesce row.targetStartedAt (some now)
      sessionCreateStartedAt :=
        if newSession then coalesce row.sessionCreateStartedAt (some now)
        else row.sessionCreateStartedAt
      creationIntentId :=
        if newSession then coalesce row.creationIntentId (some ("schedule:" ++ runId))
        else row.creationIntentId
      resultSessionId := coalesce row.resultSessionId sessionId
      lastProgressAt := some now
      updatedAt := now })

def recordTarget (runId ownerId : String) (fenceToken : Int) (target : ScheduledTarget) (now : ℚ)
    (db : Db) : Except SchedulerError Db :=
  let hit := fun row : RunRow =>
    row.runId = runId ∧ row.heldBy ownerId fenceToken ∧ row.status ∈ [.claimed, .submitting] ∧
      (row.resultThreadId = none ∨ row.resultThreadId = some target.threadId) ∧
      (row.resultSessionId = none ∨ row.resultSessionId = some target.sdkSessionId)
  if rowcount hit db.runs ≠ 1 then
    .error (.conflict "schedule target conflicts with durable run target")
  else
    .ok (db.updateRuns hit fun row => { row with
      resultProjectId := coalesce row.resultProjectId target.projectId
      resultThreadId := coalesce row.resultThreadId (some target.threadId)
      resultSessionId := coalesce row.resultSessionId (some target.sdkSessionId)
      temporaryAttachment := row.temporaryAttachment || target.temporaryAttachment
      lastProgressAt := some now
      updatedAt := now })

/-! ## Queueing a run -/

/-- The item that makes `enqueue` return early. -/
def Db.existingItem (db : Db) (runId : String) : Option QueueItem :=
  db.queuedItem runId [.cancelled, .submitted, .failed]

def QueueItem.conflicts (item : QueueItem) (promptHash : String) : Bool :=
  item.promptContentKey.isSome && item.promptHash.any fun digest => digest ≠ promptHash

/-- `ready` is the verdict on the target's binding. -/
def enqueue (runId ownerId : String) (fenceToken : Int) (target : ScheduledTarget)
    (promptHash : String) (ready : Bool) (now : ℚ) (db : Db) : Except SchedulerError Db :=
  if db.draining then .error (.conflict "scheduler is draining for restart")
  else
    match db.run runId with
    | none => .error (.notFound runId)
    | some current =>
      match db.existingItem runId with
      | some existing =>
        if existing.conflicts promptHash then
          .error (.conflict "queued schedule prompt hash conflicts with live content")
        else
          -- Neither the fence nor the status is in this statement.
          .ok (db.updateRuns (fun row => row.runId = runId) fun row => { row with
            status := .submitting
            resultSubmissionId := some existing.id
            leaseOwner := none
            leaseExpiresAt := none
            lastProgressAt := some now
            updatedAt := now })
      | none =>
        if ¬ current.heldBy ownerId fenceToken ∨
            current.status ∉ [ScheduleRunState.claimed, .submitting] then
          .error (.conflict "schedule run fence was lost before queue insertion")
        else if ¬ ready then
          .error (.dispatch { category := .target, code := "target_not_ready_at_enqueue"
                              retryable := true })
        else if db.submissions.any fun submission =>
            submission.submissionId = submissionId runId ∨
              submission.scheduleRunId = some runId then
          .error (.integrity "submissions")
        else if db.queue.any fun item => item.id = submissionId runId then
          .error (.integrity "message_queue")
        else
          let queued : Db := { db with
            submissions := db.submissions ++
              [{ submissionId := submissionId runId, sdkSessionId := target.sdkSessionId
                 scheduleRunId := some runId }]
            queue := db.queue ++
              [{ id := submissionId runId, threadId := target.threadId
                 scheduleRunId := some runId
                 promptContentKey := some ("submission-prompt:" ++ submissionId runId)
                 promptHash := some promptHash, createdAt := now, updatedAt := now }] }
          .ok (queued.updateRuns
            (fun row => row.runId = runId ∧ row.heldBy ownerId fenceToken)
            fun row => { row with
              status := .submitting
              queuedAt := coalesce row.queuedAt (some now)
              resultProjectId := coalesce row.resultProjectId target.projectId
              resultThreadId := coalesce row.resultThreadId (some target.threadId)
              resultSessionId := coalesce row.resultSessionId (some target.sdkSessionId)
              resultSubmissionId := some (submissionId runId)
              dispatchKey := coalesce row.dispatchKey (some ("schedule:" ++ runId))
              leaseOwner := none
              leaseExpiresAt := none
              lastProgressAt := some now
              updatedAt := now })

/-! ## Failing and finishing a run -/

/-- The state an error leads to; `attempt` is the run's attempt number. -/
def DispatchError.state (error : DispatchError) (attempt : Nat) : ScheduleRunState :=
  if error.targetUnknown then .targetUnknown
  else if error.dispatchUnknown then .dispatchUnknown
  else if error.blocked then .blocked
  else if ¬ error.retryable ∨ attempt ≥ scheduleMaxAttempts then .failed
  else .retryWait

def RunRow.waitRetry (row : RunRow) (error : DispatchError) (retryAt now : ℚ) : RunRow :=
  { row with
    status := .retryWait
    retryAt := some retryAt
    errorCategory := some error.category
    errorCode := some error.code
    leaseOwner := none
    leaseExpiresAt := none
    lastProgressAt := some now
    updatedAt := now }

def finalize (runId : String) (status : ScheduleRunState) (completionBasis : Option String)
    (errorCategory : Option ErrorCategory) (errorCode : Option String) (now : ℚ)
    (expected : Option (String × Int)) (db : Db) : Except SchedulerError Db :=
  if ¬ status.terminal then .error (.value "schedule final state must be terminal")
  else db.finalizeInTransaction runId status completionBasis errorCategory errorCode now expected

/-- Index `-1`, at attempt 0, is the last delay. -/
def retryDelay (attempt : Nat) : ℚ :=
  if attempt = 0 then 1800 else scheduleRetryDelays.getD (min (attempt - 1) 4) 0

/-- `attempt` is the one of the caller's snapshot. -/
def retryOrFail (runId ownerId : String) (fenceToken : Int) (attempt : Nat)
    (error : DispatchError) (now : ℚ) (db : Db) : Except SchedulerError Db :=
  let state := error.state attempt
  if state.terminal then
    finalize runId state none (some error.category) (some error.code) now
      (some (ownerId, fenceToken)) db
  else
    let hit := fun row : RunRow =>
      row.runId = runId ∧ row.heldBy ownerId fenceToken ∧ row.sendStartedAt = none
    if rowcount hit db.runs ≠ 1 then
      .error (.conflict "run cannot retry after its dispatch boundary")
    else .ok (db.updateRuns hit fun row => row.waitRetry error (now + retryDelay attempt) now)

/-- `transition_queued_submission_error`; `fenceToken` is the one of the snapshot. -/
def transitionQueuedSubmissionError (runId : String) (fenceToken : Int) (error : DispatchError)
    (ownerId : Option String) (contentUnavailable : Bool) (now : ℚ) (db : Db) :
    Except SchedulerError Db :=
  match db.run runId with
  | none => .error (.notFound runId)
  | some current =>
    if current.status.terminal then .ok db
    else if ownerId.any fun owner => ¬ current.heldBy owner fenceToken then
      .error (.conflict "schedule run fence was lost before queue error transition")
    else if ownerId = none ∧ current.leaseOwner ≠ none ∧
        (current.leaseExpiresAt.any fun expires => now < expires) then .ok db
    else if current.sendStartedAt ≠ none then
      .error (.conflict "queued submission crossed its dispatch boundary")
    else
      let state := error.state current.attempt
      if state = .retryWait then
        let delay := scheduleRetryDelays.getD (min (max current.attempt 1 - 1) 4) 0
        let hit := fun row : RunRow =>
          row.runId = current.runId ∧ row.fenceToken = current.fenceToken ∧
            row.status ∈ [.claimed, .submitting, .retryWait] ∧ row.sendStartedAt = none
        if rowcount hit db.runs ≠ 1 then
          .error (.conflict "queued submission cannot enter retry wait")
        -- The queue item stays as it is.
        else .ok (db.updateRuns hit fun row => row.waitRetry error (now + delay) now)
      else do
        let after ← db.finalizeInTransaction current.runId state none (some error.category)
          (some error.code) now (ownerId.map fun owner => (owner, current.fenceToken))
        .ok { after with
          queue := updateWhere
            (fun item => item.scheduleRunId = some current.runId ∧
              item.state ∉ [.submitted, .cancelled, .failed, .contentUnavailable])
            (fun item =>
              { item with
                state := if contentUnavailable then .contentUnavailable else .failed
                updatedAt := now })
            after.queue
          submissions := updateWhere
            (fun submission => submission.state = .localQueued ∧
              after.queue.any fun item =>
                item.id = submission.submissionId ∧ item.scheduleRunId = some current.runId)
            (fun submission =>
              { submission with
                state := .rejected
                terminalAt := coalesce submission.terminalAt (some now) })
            after.submissions }

/-! ## The reducer's side of the queue item -/

/-- A `copilotd.submission.submitting` event with the verdicts on the drain and on
the session's binding. -/
structure SubmittingEvent where
  submissionId : String
  sdkSessionId : String
  dispatchAttempt : Nat := 0
  draining : Bool := false
  ready : Bool := true
  receivedAt : ℚ

def SubmittingEvent.claims (event : SubmittingEvent) (submission : Submission) : Bool :=
  submission.submissionId = event.submissionId ∧
    submission.sdkSessionId = event.sdkSessionId ∧ submission.state = .localQueued

def SubmittingEvent.takes (event : SubmittingEvent) (item : QueueItem) : Bool :=
  item.id = event.submissionId ∧ item.state = .localQueued

def reduceSubmitting (event : SubmittingEvent) (now : ℚ) (db : Db) : Except SchedulerError Db :=
  if event.draining ∨ ¬ event.ready then
    .ok { db with
      queue := updateWhere
        (fun item => event.takes item ∧ item.dispatchAttempt = event.dispatchAttempt)
        (fun item => { item with dispatchAttempt := item.dispatchAttempt + 1, updatedAt := now })
        db.queue }
  else if rowcount event.claims db.submissions = 0 then .ok db
  else if rowcount event.takes db.queue ≠ 1 then
    .error (.runtime ("submission queue state diverged while claiming " ++ event.submissionId))
  else
    .ok
      { db with
        submissions := updateWhere event.claims
          (fun submission => { submission with state := .submitting }) db.submissions
        queue := updateWhere event.takes
          (fun item => { item with state := .submitting, updatedAt := now }) db.queue
        runs := updateWhere
          (fun row => row.resultSubmissionId = some event.submissionId ∧
            row.status ∈ [.claimed, .submitting])
          (fun row => { row with
            status := .submitting
            sendStartedAt := coalesce row.sendStartedAt (some event.receivedAt)
            lastProgressAt := some now
            updatedAt := now })
          db.runs }

/-- A `copilotd.submission.accepted` event.  Splitting off a submission that the
runtime observed under another id only rewrites `submissions`. -/
structure AcceptedEvent where
  submissionId : String
  sdkSessionId : String
  messageId : String
  receivedAt : ℚ

/-- The queue states an acceptance settles. -/
def AcceptedEvent.takes (event : AcceptedEvent) (item : QueueItem) : Bool :=
  item.id = event.submissionId ∧ item.state ∈ [.localQueued, .submitting, .submittedUnknown]

def AcceptedEvent.admitted (event : AcceptedEvent) (db : Db) : Bool :=
  (lookup Submission.submissionId event.submissionId db.submissions).any fun submission =>
    submission.sdkSessionId = event.sdkSessionId ∧ submission.state ≠ .rejected ∧
      submission.acceptedMessageId.all fun messageId => messageId = event.messageId

def reduceAccepted (event : AcceptedEvent) (now : ℚ) (db : Db) : Db :=
  if event.admitted db then
    { db with
      submissions := updateWhere
        (fun submission => submission.submissionId = event.submissionId ∧
          submission.state ∈ [.localQueued, .submitting, .submitted, .submittedUnknown,
            .observedActive, .loopIdle, .continuationExpected, .semanticComplete,
            .semanticBlocked, .observedAborted])
        (fun submission => { submission with
          state :=
            if submission.state ∈ [.localQueued, .submitting, .submittedUnknown] then .submitted
            else submission.state
          acceptedMessageId := coalesce submission.acceptedMessageId (some event.messageId)
          terminalAt :=
            if submission.state = .submittedUnknown then none else submission.terminalAt })
        db.submissions
      runs := updateWhere
        (fun row => row.resultSubmissionId = some event.submissionId ∧
          row.status ∈ [.claimed, .submitting, .accepted])
        (fun row => { row with
          status := .accepted
          acceptedMessageId := coalesce row.acceptedMessageId (some event.messageId)
          acceptedAt := coalesce row.acceptedAt (some event.receivedAt)
          lastProgressAt := some now
          updatedAt := now })
        db.runs
      queue := updateWhere event.takes
        (fun item => { item with state := .submitted, updatedAt := now }) db.queue }
  else db

/-! ## Recovery -/

/-- `ORDER BY created_at DESC LIMIT 1` of the run's items that were not cancelled or
failed. -/
def Db.latestItem (db : Db) (runId : String) : Option QueueItem :=
  (db.queue.filter fun item =>
      item.scheduleRunId = some runId ∧ item.state ∉ [QueueState.cancelled, .failed]).foldl
    (fun best item =>
      match best with
      | none => some item
      | some other => if item.createdAt > other.createdAt then some item else best)
    none

/-- Any queue item of the run. -/
def Db.hasItem (db : Db) (runId : String) : Bool :=
  db.queue.any fun item => item.scheduleRunId = some runId

def Db.intentOf (db : Db) (row : RunRow) : Option CreationIntent :=
  db.intents.find? fun intent => intent.sourceId = row.runId

/-- The statement `queued` of the recovery transaction. -/
def Db.recoverQueued (db : Db) (now : ℚ) : Db :=
  db.updateRuns
    (fun row => row.status ∈ [.claimed, .submitting, .retryWait] ∧ row.leaseOver now ∧
      (db.queuedItem row.runId [.cancelled, .failed]).isSome)
    fun row => { row with
      status := if row.status = .retryWait ∧ row.retryAt.getD 0 > now then .retryWait
        else .submitting
      leaseOwner := none
      leaseExpiresAt := none
      resultSubmissionId := coalesce row.resultSubmissionId
        ((db.latestItem row.runId).map QueueItem.id)
      resultThreadId := coalesce row.resultThreadId
        ((db.latestItem row.runId).map QueueItem.threadId)
      resultSessionId := coalesce row.resultSessionId
        ((db.latestItem row.runId).bind fun item =>
          (lookup Submission.submissionId item.id db.submissions).map Submission.sdkSessionId)
      lastProgressAt := some now
      updatedAt := now }

def Db.recoverDispatchUnknown (db : Db) (now : ℚ) : Db :=
  db.updateRuns
    (fun row => row.status ∈ [.claimed, .submitting] ∧ row.leaseOver now ∧
      row.sendStartedAt ≠ none ∧
      ¬ db.submissions.any fun submission =>
        submission.scheduleRunId = some row.runId ∧
          (submission.acceptedMessageId ≠ none ∨ submission.observedUserEventId ≠ none))
    fun row => { row with
      status := .dispatchUnknown
      leaseOwner := none
      leaseExpiresAt := none
      errorCategory := some .runtime
      errorCode := some "startup_send_boundary"
      terminalAt := some now
      updatedAt := now }

/-- The common part of the statements that put a run back to `retry_wait`. -/
def RunRow.resumeRetry (row : RunRow) (code : String) (now : ℚ) : RunRow :=
  { row with
    status := .retryWait
    retryAt := some now
    leaseOwner := none
    leaseExpiresAt := none
    errorCategory := none
    errorCode := some code
    lastProgressAt := some now
    updatedAt := now }

def Db.recoverReconciledTarget (db : Db) (now : ℚ) : Db :=
  db.updateRuns
    (fun row => row.status ∈ [.claimed, .submitting, .targetUnknown] ∧
      (row.status = .targetUnknown ∨ row.leaseOver now) ∧
      row.sessionCreateStartedAt ≠ none ∧ row.resultThreadId = none ∧ row.sendStartedAt = none ∧
      row.renderIntentId = none ∧
      (db.intentOf row).any (fun intent => intent.threadId ≠ none ∧
        some intent.sdkSessionId = row.resultSessionId ∧ intent.live) ∧
      ¬ db.hasItem row.runId)
    fun row => { row.resumeRetry "resume_creation_intent" now with
      resultThreadId := (db.intentOf row).bind CreationIntent.threadId
      resultProjectId := coalesce row.resultProjectId
        ((db.intentOf row).bind CreationIntent.projectId) }

def Db.recoverTargetUnknown (db : Db) (now : ℚ) : Db :=
  db.updateRuns
    (fun row => row.status ∈ [.claimed, .submitting] ∧ row.leaseOver now ∧
      row.sessionCreateStartedAt ≠ none ∧ row.resultThreadId = none ∧ row.sendStartedAt = none ∧
      ¬ db.hasItem row.runId)
    fun row => row.resumeRetry "resume_unreconciled_target" now

def Db.recoverKnownTarget (db : Db) (now : ℚ) : Db :=
  db.updateRuns
    (fun row => row.status ∈ [.claimed, .submitting] ∧ row.leaseOver now ∧
      row.sessionCreateStartedAt ≠ none ∧ row.resultThreadId ≠ none ∧
      row.resultSessionId ≠ none ∧ row.sendStartedAt = none ∧ ¬ db.hasItem row.runId)
    fun row => row.resumeRetry "resume_known_target" now

def Db.recoverRetryWait (db : Db) (now : ℚ) : Db :=
  db.updateRuns
    (fun row => row.status ∈ [.claimed, .submitting] ∧ row.leaseOver now ∧
      row.sendStartedAt = none ∧ row.sessionCreateStartedAt = none ∧ ¬ db.hasItem row.runId)
    fun row => { row with
      status := .retryWait, leaseOwner := none, leaseExpiresAt := none
      retryAt := some now, updatedAt := now }

def Db.recoverOutcomeUnknown (db : Db) (now : ℚ) : Db :=
  db.updateRuns
    (fun row => row.status ∈ [.accepted, .waiting] ∧
      db.submissions.any fun submission =>
        some submission.submissionId = row.resultSubmissionId ∧
          submission.state ∈ [.submittedUnknown, .outcomeUnknown])
    fun row => { row with
      status := .outcomeUnknown
      errorCategory := some .runtime
      errorCode := some "startup_submission_unknown"
      terminalAt := some now
      updatedAt := now }

/-- The run statements of the recovery transaction, in their order. -/
def recover (now : ℚ) (db : Db) : Db :=
  { (((((((db.recoverQueued now).recoverDispatchUnknown now).recoverReconciledTarget
      now).recoverTargetUnknown now).recoverKnownTarget now).recoverRetryWait
      now).recoverOutcomeUnknown now) with draining := false }

/-- The `UPDATE` of `queued_runs_for_redrive`. -/
def redrive (now : ℚ) (db : Db) : Db :=
  db.updateRuns
    (fun row => row.status ∈ [.claimed, .submitting] ∧ row.leaseOwner ≠ none ∧
      row.leaseOver now ∧ row.sendStartedAt = none ∧
      db.queue.any fun item => item.scheduleRunId = some row.runId ∧
        item.state = .localQueued ∧
        (lookup Submission.submissionId item.id db.submissions).any fun submission =>
          submission.state = .localQueued)
    fun row => { row with
      status := .submitting, leaseOwner := none, leaseExpiresAt := none
      lastProgressAt := some now, updatedAt := now }

/-- The `UPDATE` of `reconcile_submissions` for a submission that is still running. -/
def reconcile (runId : String) (status : ScheduleRunState) (acceptedMessageId : Option String)
    (now : ℚ) (db : Db) : Db :=
  db.updateRuns
    (fun row => row.runId = runId ∧ row.status ∈ [.submitting, .accepted, .waiting])
    fun row => { row with
      status
      acceptedMessageId := coalesce row.acceptedMessageId acceptedMessageId
      acceptedAt := if status = .accepted then coalesce row.acceptedAt (some now)
        else row.acceptedAt
      waitingAt := if status = .waiting then coalesce row.waitingAt (some now)
        else row.waitingAt
      lastProgressAt := some now
      updatedAt := now }

/-! ## The repository -/

/-- A call of the repository.  `plan` is the insertion of a planned run. -/
inductive Operation where
  | plan (runId : String) (plannedAtUtc now : ℚ)
  | claimNext (ownerId : String) (now leaseSeconds : ℚ)
  | renewRun (runId ownerId : String) (fenceToken : Int) (now leaseSeconds : ℚ)
  | markTargetStarted (runId ownerId : String) (fenceToken : Int) (newSession : Bool)
      (resultSessionId : Option String) (now : ℚ)
  | recordTarget (runId ownerId : String) (fenceToken : Int) (target : ScheduledTarget) (now : ℚ)
  | enqueue (runId ownerId : String) (fenceToken : Int) (target : ScheduledTarget)
      (promptHash : String) (ready : Bool) (now : ℚ)
  | retryOrFail (runId ownerId : String) (fenceToken : Int) (attempt : Nat)
      (error : DispatchError) (now : ℚ)
  | finalize (runId : String) (status : ScheduleRunState) (completionBasis : Option String)
      (errorCategory : Option ErrorCategory) (errorCode : Option String) (now : ℚ)
      (expected : Option (String × Int))

/-- `ON CONFLICT(schedule_id, planned_key) DO NOTHING`. -/
def plan (runId : String) (plannedAtUtc now : ℚ) (db : Db) : Db :=
  match db.run runId with
  | some _ => db
  | none =>
    { db with
      runs := db.runs ++
        [{ runId, plannedAtUtc, createdAt := now, lastProgressAt := some now, updatedAt := now }] }

/-- The result of a transaction; an exception leaves the database as it was. -/
def committed (db : Db) : Except SchedulerError Db → Db
  | .ok after => after
  | .error _ => db

def Db.apply (db : Db) : Operation → Db
  | .plan runId plannedAtUtc now => plan runId plannedAtUtc now db
  | .claimNext ownerId now leaseSeconds =>
    committed db ((claimNext ownerId now leaseSeconds db).map Prod.fst)
  | .renewRun runId ownerId fenceToken now leaseSeconds =>
    renewRun runId ownerId fenceToken now leaseSeconds db
  | .markTargetStarted runId ownerId fenceToken newSession resultSessionId now =>
    committed db (markTargetStarted runId ownerId fenceToken newSession resultSessionId now db)
  | .recordTarget runId ownerId fenceToken target now =>
    committed db (recordTarget runId ownerId fenceToken target now db)
  | .enqueue runId ownerId fenceToken target promptHash ready now =>
    committed db (enqueue runId ownerId fenceToken target promptHash ready now db)
  | .retryOrFail runId ownerId fenceToken attempt error now =>
    committed db (retryOrFail runId ownerId fenceToken attempt error now db)
  | .finalize runId status completionBasis errorCategory errorCode now expected =>
    committed db (finalize runId status completionBasis errorCategory errorCode now expected db)

/-! ## The repository beside the reducer and the recovery -/

/-- A transaction on the tables.  The last three stand for other components, which
rewrite `submissions`, the creation intents and the worker state at will. -/
inductive Event where
  | operation (operation : Operation)
  | queuedError (runId : String) (fenceToken : Int) (error : DispatchError)
      (ownerId : Option String) (contentUnavailable : Bool) (now : ℚ)
  | submitting (event : SubmittingEvent) (now : ℚ)
  | accepted (event : AcceptedEvent) (now : ℚ)
  | recover (now : ℚ)
  | redrive (now : ℚ)
  | reconcile (runId : String) (waiting : Bool) (acceptedMessageId : Option String) (now : ℚ)
  | setSubmissions (submissions : List Submission)
  | setIntents (intents : List CreationIntent)
  | setDraining (draining : Bool)

def Db.react (db : Db) : Event → Db
  | .operation operation => db.apply operation
  | .queuedError runId fenceToken error ownerId contentUnavailable now =>
    committed db
      (transitionQueuedSubmissionError runId fenceToken error ownerId contentUnavailable now db)
  | .submitting event now => committed db (reduceSubmitting event now db)
  | .accepted event now => reduceAccepted event now db
  | .recover now => recover now db
  | .redrive now => redrive now db
  | .reconcile runId waiting acceptedMessageId now =>
    reconcile runId (if waiting then .waiting else .accepted) acceptedMessageId now db
  | .setSubmissions submissions => { db with submissions }
  | .setIntents intents => { db with intents }
  | .setDraining draining => { db with draining }

/-- The event gets as far as its updates. -/
def SubmittingEvent.succeeds (event : SubmittingEvent) (db : Db) : Bool :=
  !event.draining && event.ready && decide (rowcount event.claims db.submissions ≠ 0) &&
    decide (rowcount event.takes db.queue = 1)

/-- The runs whose queue item the event takes out of `local_queued` for sending. -/
def Db.dispatchedBy (db : Db) : Event → List String
  | .submitting event _ =>
    if event.succeeds db then (db.queue.filter event.takes).filterMap QueueItem.scheduleRunId
    else []
  | .accepted event _ =>
    if event.admitted db then
      (db.queue.filter fun item => item.id = event.submissionId ∧
        item.state = .localQueued).filterMap QueueItem.scheduleRunId
    else []
  | _ => []

end Copilotd.Source.Core.Scheduler
