import Copilotd.Base.Run
import Copilotd.Source.Storage.Tables

/-!
# Submissions and the message queue

Source: `core/reducer.py` (`_persist_transaction`, the submission and queue events,
`_split_observed_submission`, `_apply_user_message`, `_observe_submission`,
`_create_runtime_observed_submission`, `_apply_task_complete`, `_apply_autopilot_objective`,
`_apply_session_idle`, `_reopen_submission_for_task`, `_settle_linked_loop_idle_submissions`);
the writers outside the reducer are `core/session_runtime.py` 1321–1485 and 5559–5618,
`core/recovery.py` 48–154 and 286–306, `storage/leases.py` 247–275.

A row keeps the columns that one of these statements reads.  What a handler reads from
another table (the binding, the owner lease, the capability, the task links and snapshots,
the objective's submission) is part of the event.  Left out: columns that are only
written, the schedule runs, liveness leases, reactions and incidents; the rows of Fleet
runs, which have no queue row; events of a replaced generation, which `require_binding_fence`
skips before the journal.
-/
namespace Copilotd.Source.Core.Submissions

open Base.Table
open Source.Storage (SubmissionState)

/-! ## Rows -/

/-- The suffix of a `blocked_…` state. -/
inductive BlockReason where
  | configUnknown | remoteTransition | modeDrift | modelDrift | agentDrift
  | sessionConfigDrift | attachmentUnavailable | attachmentManifestMissing
  deriving DecidableEq

/-- `message_queue.state`. -/
inductive QueueState where
  | localQueued | submitting | submitted | submittedUnknown | outcomeUnknown | rejected
  | failed | cancelled | contentUnavailable
  | blocked (reason : BlockReason)
  deriving DecidableEq

/-- `submissions.task_completion_outcome`. -/
inductive TaskOutcome where
  | completed | continue | blocked
  deriving DecidableEq

structure Submission where
  submissionId : String
  sdkSessionId : String
  origin : String
  promptHash : Option String := none
  requestedMode : Option String := none
  correlationId : Option String := none
  attachmentCount : Nat := 0
  state : SubmissionState
  sourceOperationId : Option String := none
  sendStartedAt : Option ℚ := none
  acceptedMessageId : Option String := none
  acceptedAt : Option ℚ := none
  observedUserEventId : Option String := none
  observedAt : Option ℚ := none
  autopilotObjectiveId : Option String := none
  taskCompletionOutcome : Option TaskOutcome := none
  objectiveStatus : Option String := none
  createdAt : ℚ
  terminalAt : Option ℚ := none
  deriving DecidableEq

structure QueueItem where
  id : String
  threadId : String
  position : Nat
  state : QueueState
  dispatchAttempt : Nat := 0
  replacesId : Option String := none
  deriving DecidableEq

structure Segment where
  submissionId : String
  segmentIndex : Nat
  userEventId : String
  isContinuation : Bool
  state : SubmissionState
  deriving DecidableEq

structure JournalRow where
  sdkSessionId : String
  eventId : Option String
  internalEventId : Option String
  rawType : String
  deriving DecidableEq

structure Db where
  submissions : List Submission := []
  queue : List QueueItem := []
  segments : List Segment := []
  journal : List JournalRow := []
  deriving DecidableEq

/-- What stops the reducer. -/
inductive Failure where
  | queueDiverged (submissionId : String)
  | cannotReplace (submissionId : String)
  | missingEventId
  | integrity
  deriving DecidableEq

/-! ## Statements -/

/-- `SELECT … FROM submissions WHERE submission_id = ?`. -/
def Db.submission (db : Db) (submissionId : String) : Option Submission :=
  lookup Submission.submissionId submissionId db.submissions

/-- `… AND sdk_session_id = ?`. -/
def Db.submissionOf (db : Db) (sdkSessionId submissionId : String) : Option Submission :=
  (db.submission submissionId).filter (·.sdkSessionId = sdkSessionId)

/-- `SELECT … FROM message_queue WHERE id = ?`. -/
def Db.item (db : Db) (id : String) : Option QueueItem := lookup QueueItem.id id db.queue

def Db.updateSubmissions (hit : Submission → Bool) (set : Submission → Submission) (db : Db) :
    Db :=
  { db with submissions := updateWhere hit set db.submissions }

def Db.updateQueue (hit : QueueItem → Bool) (set : QueueItem → QueueItem) (db : Db) : Db :=
  { db with queue := updateWhere hit set db.queue }

def Db.updateSegments (hit : Segment → Bool) (set : Segment → Segment) (db : Db) : Db :=
  { db with segments := updateWhere hit set db.segments }

/-- `UPDATE message_queue SET state = ? WHERE id = ? AND state IN (…)`. -/
def Db.moveItem (id : String) (fromStates : List QueueState) (state : QueueState) (db : Db) : Db :=
  db.updateQueue (fun item => item.id = id ∧ item.state ∈ fromStates) ({ · with state })

/-- `INSERT INTO submissions … ON CONFLICT(submission_id) DO NOTHING`. -/
def Db.insertSubmission (row : Submission) (db : Db) : Db :=
  if (db.submission row.submissionId).isSome then db
  else { db with submissions := db.submissions ++ [row] }

/-- `INSERT INTO message_queue … ON CONFLICT(id) DO NOTHING`. -/
def Db.insertItem (item : QueueItem) (db : Db) : Db :=
  if (db.item item.id).isSome then db else { db with queue := db.queue ++ [item] }

/-- `SELECT COALESCE(MAX(position), 0) + 1 FROM message_queue WHERE thread_id = ?`. -/
def Db.nextPosition (db : Db) (threadId : String) : Nat :=
  ((db.queue.filter (·.threadId = threadId)).map (·.position)).foldl max 0 + 1

/-- `SELECT COALESCE(MAX(segment_index), 0) FROM submission_segments WHERE submission_id = ?`. -/
def Db.lastSegment (db : Db) (submissionId : String) : Nat :=
  ((db.segments.filter (·.submissionId = submissionId)).map (·.segmentIndex)).foldl max 0

/-- `INSERT INTO submission_segments … ON CONFLICT(user_event_id) DO NOTHING`. -/
def Db.insertSegment (segment : Segment) (db : Db) : Db :=
  if db.segments.any (·.userEventId = segment.userEventId) then db
  else { db with segments := db.segments ++ [segment] }

/-! ## The queue -/

structure QueuedData where
  submissionId : String
  threadId : String
  origin : String := "app_message"
  promptHash : String
  requestedMode : Option String := none
  correlationId : Option String := none
  attachmentCount : Nat := 0
  createdAt : ℚ
  /-- The binding is attached under this generation and fence and its project is open. -/
  admitted : Bool := true

def queued (sdkSessionId : String) (data : QueuedData) (db : Db) : Db :=
  if !data.admitted then db
  else
    (db.insertSubmission
      { submissionId := data.submissionId, sdkSessionId, origin := data.origin
        promptHash := some data.promptHash, requestedMode := data.requestedMode
        correlationId := data.correlationId, attachmentCount := data.attachmentCount
        state := .localQueued, createdAt := data.createdAt }).insertItem
      { id := data.submissionId, threadId := data.threadId
        position := db.nextPosition data.threadId, state := .localQueued }

structure SubmittingData where
  submissionId : String
  operationId : String
  dispatchAttempt : Nat := 0
  /-- No restart is draining and the binding and its owner lease are in force. -/
  ready : Bool := true

/-- `copilotd.submission.submitting`: the durable claim of an item.  An `UPDATE` over a
primary key touches a row exactly if the row of the key meets the rest of its `WHERE`. -/
def submitting (sdkSessionId : String) (data : SubmittingData) (receivedAt : ℚ) (db : Db) :
    Except Failure Db :=
  let claims (row : Submission) : Bool := row.submissionId = data.submissionId ∧
    row.sdkSessionId = sdkSessionId ∧ row.state = .localQueued
  let queuedItem (item : QueueItem) : Bool :=
    item.id = data.submissionId ∧ item.state = .localQueued
  if !data.ready then
    .ok (db.updateQueue
      (fun item => queuedItem item ∧ item.dispatchAttempt = data.dispatchAttempt)
      (fun item => { item with dispatchAttempt := item.dispatchAttempt + 1 }))
  else if !(db.submission data.submissionId).any claims then .ok db
  else if !(db.item data.submissionId).any queuedItem then
    .error (.queueDiverged data.submissionId)
  else
    .ok ((db.updateSubmissions claims (fun row => { row with
        state := .submitting, sourceOperationId := some data.operationId
        sendStartedAt := some receivedAt })).updateQueue queuedItem
      ({ · with state := .submitting }))

def cancelQueued (submissionIds : List String) (cancellable : List QueueState) (db : Db) : Db :=
  if submissionIds = [] ∨ cancellable = [] then db
  else
    (db.updateQueue (fun item => item.id ∈ submissionIds ∧ item.state ∈ cancellable)
      ({ · with state := .cancelled })).updateSubmissions
      (fun row => row.submissionId ∈ submissionIds ∧ row.state = .localQueued)
      ({ · with state := .cancelled })

def preSendDeferred (submissionId : String) (db : Db) : Db :=
  let defers (row : Submission) : Bool := row.submissionId = submissionId ∧
    row.state = .submitting ∧ row.acceptedMessageId = none ∧ row.observedUserEventId = none
  if !(db.submission submissionId).any defers then db
  else
    (db.updateSubmissions defers (fun row => { row with
        state := .localQueued, sourceOperationId := none, sendStartedAt := none
        terminalAt := none })).updateQueue
      (fun item => item.id = submissionId ∧ item.state = .submitting)
      (fun item => { item with
        state := .localQueued, dispatchAttempt := item.dispatchAttempt + 1 })

structure ReplacedData where
  oldId : String
  newId : String
  allowed : List QueueState
  promptHash : String
  requestedMode : String
  createdAt : ℚ
  deriving DecidableEq

/-- The old item is cancelled, whatever state its submission is in. -/
def retireItem (oldId : String) (db : Db) : Db :=
  (db.updateQueue (·.id = oldId) ({ · with state := .cancelled })).updateSubmissions
    (·.submissionId = oldId) ({ · with state := .cancelled })

/-- The statements of `copilotd.queue.replaced` once the old rows are found. -/
def replaceItem (data : ReplacedData) (item : QueueItem) (row : Submission) (db : Db) : Db :=
  ((retireItem data.oldId db).insertSubmission
    { submissionId := data.newId, sdkSessionId := row.sdkSessionId, origin := row.origin
      promptHash := some data.promptHash, requestedMode := some data.requestedMode
      correlationId := some ("queue-replacement:" ++ data.oldId)
      attachmentCount := row.attachmentCount, state := .localQueued
      createdAt := data.createdAt }).insertItem
    { id := data.newId, threadId := item.threadId, position := db.nextPosition item.threadId
      state := .localQueued, replacesId := some data.oldId }

/-- `copilotd.queue.replaced`. -/
def queueReplaced (data : ReplacedData) (db : Db) : Except Failure Db :=
  if data.allowed = [] then .ok db
  else
    match (db.item data.oldId).filter (·.state ∈ data.allowed), db.submission data.oldId with
    | some item, some row => .ok (replaceItem data item row db)
    | _, _ =>
      if (db.item data.newId).isSome then .ok db else .error (.cannotReplace data.oldId)

/-- `copilotd.queue.blocked`. -/
def queueBlocked (submissionId : String) (reason : BlockReason) (db : Db) : Db :=
  db.moveItem submissionId [.localQueued] (.blocked reason)

/-- The states `copilotd.submission.active_unknown`, a takeover and the startup recovery
settle. -/
def activeStates : List SubmissionState :=
  [.submitting, .submitted, .submittedUnknown, .observedActive, .loopIdle, .continuationExpected]

def activeUnknown (sdkSessionId : String) (db : Db) : Db :=
  db.updateSubmissions (fun row => row.sdkSessionId = sdkSessionId ∧ row.state ∈ activeStates)
    ({ · with state := .outcomeUnknown })

/-! ## Outcomes of a send -/

/-- `f"copilotd:{sdk_session_id}:runtime-observed:{user_event_id}"` under `uuid.uuid5`. -/
def runtimeObservedId (uuid5 : String → String) (sdkSessionId userEventId : String) : String :=
  uuid5 ("copilotd:" ++ sdkSessionId ++ ":runtime-observed:" ++ userEventId)

/-- The moved segments would share a primary key with segments the target already has. -/
def segmentsClash (db : Db) (source target : String) : Bool :=
  source ≠ target ∧ db.segments.any fun segment => segment.submissionId = source ∧
    db.segments.any fun other => other.submissionId = target ∧
      other.segmentIndex = segment.segmentIndex

/-- The row that `_split_observed_submission` inserts for the observed message. -/
def runtimeCopy (runtimeId : String) (row : Submission) : Submission :=
  { row with
    submissionId := runtimeId, origin := "runtime_observed", correlationId := none
    attachmentCount := 0, sourceOperationId := none, sendStartedAt := none
    createdAt := row.observedAt.getD row.createdAt }

/-- The submission of the application once its observation is taken away. -/
def clearObservation (appState : SubmissionState) (receivedAt : ℚ) (row : Submission) :
    Submission :=
  { row with
    state := appState, acceptedMessageId := none, acceptedAt := none
    observedUserEventId := none, observedAt := none, autopilotObjectiveId := none
    taskCompletionOutcome := none, objectiveStatus := none
    terminalAt := if appState = .rejected then some receivedAt else none }

def moveObservation (runtimeId : String) (appState : SubmissionState) (receivedAt : ℚ)
    (row : Submission) (db : Db) : Db :=
  ((db.insertSubmission (runtimeCopy runtimeId row)).updateSegments
    (·.submissionId = row.submissionId)
    ({ · with submissionId := runtimeId })).updateSubmissions
    (·.submissionId = row.submissionId) (clearObservation appState receivedAt)

/-- `_split_observed_submission`: the observation moves to a runtime-observed row. -/
def splitObservedSubmission (uuid5 : String → String) (sdkSessionId submissionId : String)
    (appState : SubmissionState) (receivedAt : ℚ) (db : Db) : Except Failure Db :=
  match db.submissionOf sdkSessionId submissionId with
  | none => .ok db
  | some row =>
    match row.observedUserEventId with
    | none => .ok db
    | some userEventId =>
      let runtimeId := runtimeObservedId uuid5 sdkSessionId userEventId
      if segmentsClash db submissionId runtimeId then .error .integrity
      else .ok (moveObservation runtimeId appState receivedAt row db)

/-- The states in which an acceptance is recorded.  `outcome_unknown` is not one of them. -/
def acceptableStates : List SubmissionState :=
  [.localQueued, .submitting, .submitted, .submittedUnknown, .observedActive, .loopIdle,
    .continuationExpected, .semanticComplete, .semanticBlocked, .observedAborted]

def recordAcceptance (messageId : String) (receivedAt : ℚ) (row : Submission) : Submission :=
  { row with
    state := if row.state ∈ [.localQueued, .submitting, .submittedUnknown] then .submitted
      else row.state
    acceptedMessageId := row.acceptedMessageId.or (some messageId)
    acceptedAt := row.acceptedAt.or (some receivedAt)
    terminalAt := if row.state = .submittedUnknown then none else row.terminalAt }

def recordAccepted (submissionId messageId : String) (receivedAt : ℚ) (db : Db) : Db :=
  (db.updateSubmissions
    (fun row => row.submissionId = submissionId ∧ row.state ∈ acceptableStates)
    (recordAcceptance messageId receivedAt)).moveItem submissionId
    [.localQueued, .submitting, .submittedUnknown] .submitted

/-- `copilotd.submission.accepted`; `exactMapping` is what `_capability_evidenced` answers for
`accepted_user_event_id_mapping`. -/
def accepted (uuid5 : String → String) (exactMapping : Bool)
    (sdkSessionId submissionId messageId : String) (receivedAt : ℚ) (db : Db) :
    Except Failure Db :=
  match db.submissionOf sdkSessionId submissionId with
  | none => .ok db
  | some row =>
    if row.state = .rejected then .ok db
    else
      let provisional :=
        if row.acceptedMessageId = none ∧ row.observedUserEventId.any (· ≠ messageId) ∧
            exactMapping then
          splitObservedSubmission uuid5 sdkSessionId submissionId .submitted receivedAt db
        else .ok db
      provisional.bind fun db =>
        if row.acceptedMessageId.any (· ≠ messageId) then .ok db
        else .ok (recordAccepted submissionId messageId receivedAt db)

/-- The submission was observed or its acceptance is recorded. -/
def Submission.evidenced (row : Submission) : Bool :=
  row.observedUserEventId.isSome || row.acceptedMessageId.isSome

def acceptanceUnknown (submissionId : String) (receivedAt : ℚ) (db : Db) : Db :=
  let settled := db.updateSubmissions
    (fun row => row.submissionId = submissionId ∧ row.state ≠ .rejected ∧ !row.evidenced)
    ({ · with state := .submittedUnknown, terminalAt := some receivedAt })
  settled.moveItem submissionId [.localQueued, .submitting]
    (if (settled.submission submissionId).any (·.evidenced) then .submitted
      else .submittedUnknown)

def rejected (uuid5 : String → String) (sdkSessionId submissionId : String) (receivedAt : ℚ)
    (db : Db) : Except Failure Db :=
  match db.submissionOf sdkSessionId submissionId with
  | none => .ok db
  | some row =>
    if row.state = .rejected then .ok db
    else if row.acceptedMessageId.isSome then
      .ok (db.moveItem submissionId [.localQueued, .submitting, .submittedUnknown] .submitted)
    else
      let settled :=
        if row.observedUserEventId.isSome then
          splitObservedSubmission uuid5 sdkSessionId submissionId .rejected receivedAt db
        else
          .ok (db.updateSubmissions (·.submissionId = submissionId)
            ({ · with state := .rejected, terminalAt := some receivedAt }))
      settled.bind fun db => .ok (db.moveItem submissionId
        [.localQueued, .submitting, .submitted, .submittedUnknown] .rejected)

/-! ## User messages -/

structure UserMessage where
  interactionId : Option String := none
  agentMode : Option String := none
  isAutopilotContinuation : Bool := false
  runtimeScheduleId : Option String := none
  /-- The hash of `content`, if it is a string. -/
  contentHash : Option String := none
  /-- The hash of `str(data.get("content", ""))`. -/
  promptHash : String := ""
  /-- The length of `attachments`, if it is a list. -/
  attachmentCount : Option Nat := none

/-- Submissions that a continuation or a task outcome may belong to. -/
def runningStates : List SubmissionState := [.observedActive, .loopIdle, .continuationExpected]

def continuationCandidates (sdkSessionId : String) (db : Db) : List Submission :=
  db.submissions.filter fun row => row.sdkSessionId = sdkSessionId ∧
    row.requestedMode = some "autopilot" ∧ row.state ∈ runningStates

def settledSendStates : List SubmissionState := [.submitted, .submittedUnknown, .outcomeUnknown]

/-- The rule `accepted_event_id_fixture`. -/
def matchesAcceptance (sdkSessionId eventId : String) (row : Submission) : Bool :=
  row.sdkSessionId = sdkSessionId ∧ row.acceptedMessageId = some eventId ∧
    row.observedUserEventId = none ∧ row.state ∈ settledSendStates

/-- The rule `interaction_id`. -/
def matchesInteraction (sdkSessionId : String) (message : UserMessage) (row : Submission) : Bool :=
  message.interactionId.isSome ∧ row.sdkSessionId = sdkSessionId ∧
    row.correlationId = message.interactionId ∧ row.observedUserEventId = none ∧
    row.state ∈ .submitting :: settledSendStates

/-- The rule `single_candidate_facts`: the query and the filter over its rows. -/
def matchesFacts (sdkSessionId : String) (message : UserMessage) (receivedAt : ℚ)
    (row : Submission) : Bool :=
  row.sdkSessionId = sdkSessionId ∧ row.observedUserEventId = none ∧
    (row.state = .submitting ∧ row.sendStartedAt.any (· ≤ receivedAt) ∨
      row.state ∈ settledSendStates ∧ row.acceptedAt.any (· ≤ receivedAt)) ∧
    message.contentHash.isSome ∧ row.promptHash = message.contentHash ∧
    (message.agentMode = none ∨ row.requestedMode = none ∨
      row.requestedMode = message.agentMode) ∧
    (message.attachmentCount = none ∨ message.attachmentCount = some row.attachmentCount)

/-- The candidates of the first rule that has any. -/
def correlationCandidates (exactMapping : Bool) (sdkSessionId eventId : String)
    (message : UserMessage) (receivedAt : ℚ) (db : Db) : List Submission :=
  let exact := db.submissions.filter fun row =>
    exactMapping && matchesAcceptance sdkSessionId eventId row
  let interaction := db.submissions.filter (matchesInteraction sdkSessionId message)
  if exact ≠ [] then exact
  else if interaction ≠ [] then interaction
  else db.submissions.filter (matchesFacts sdkSessionId message receivedAt)

def observeSubmission (sdkSessionId submissionId eventId : String) (continuation : Bool)
    (receivedAt : ℚ) (db : Db) : Db :=
  let observed := (db.updateSubmissions
    (fun row => row.submissionId = submissionId ∧ row.sdkSessionId = sdkSessionId)
    (fun row => { row with
      state := .observedActive
      observedUserEventId := row.observedUserEventId.or (some eventId)
      observedAt := row.observedAt.or (some receivedAt)
      terminalAt := none })).moveItem submissionId [.outcomeUnknown] .submitted
  observed.insertSegment
    { submissionId, segmentIndex := db.lastSegment submissionId + 1, userEventId := eventId
      isContinuation := continuation, state := .observedActive }

def createRuntimeObservedSubmission (uuid5 : String → String) (sdkSessionId eventId : String)
    (message : UserMessage) (receivedAt : ℚ) (db : Db) : Db :=
  let submissionId := runtimeObservedId uuid5 sdkSessionId eventId
  observeSubmission sdkSessionId submissionId eventId false receivedAt
    (db.insertSubmission
      { submissionId, sdkSessionId, origin := "runtime_observed"
        promptHash := some message.promptHash, requestedMode := message.agentMode
        attachmentCount := message.attachmentCount.getD 0, state := .observedActive
        observedUserEventId := some eventId, observedAt := some receivedAt
        createdAt := receivedAt })

def applyUserMessage (uuid5 : String → String) (exactMapping : Bool)
    (sdkSessionId eventId : String) (message : UserMessage) (receivedAt : ℚ) (db : Db) : Db :=
  let runtimeObserved :=
    createRuntimeObservedSubmission uuid5 sdkSessionId eventId message receivedAt db
  let correlate :=
    match correlationCandidates exactMapping sdkSessionId eventId message receivedAt db with
    | [row] => observeSubmission sdkSessionId row.submissionId eventId false receivedAt db
    | _ => runtimeObserved
  if message.runtimeScheduleId.isSome then runtimeObserved
  else if message.isAutopilotContinuation then
    match continuationCandidates sdkSessionId db with
    | [row] => observeSubmission sdkSessionId row.submissionId eventId true receivedAt db
    | _ => correlate
  else correlate

/-! ## The end of a loop -/

/-- The state `session.idle` gives a running submission. -/
def idleState (aborted : Bool) (row : Submission) : SubmissionState :=
  if aborted then .observedAborted
  else if row.taskCompletionOutcome = some .continue then .continuationExpected
  else if row.taskCompletionOutcome = some .blocked ∨
      row.objectiveStatus ∈ [some "paused", some "cap_reached"] then .semanticBlocked
  else .loopIdle

/-- The statements of one table are keyed by the candidate, so the loop over the candidates
is one statement. -/
def settleLoops (sdkSessionId : String) (aborted : Bool) (receivedAt : ℚ) (db : Db) : Db :=
  let candidate (row : Submission) : Bool := row.sdkSessionId = sdkSessionId ∧
    row.state ∈ [.observedActive, .continuationExpected]
  (db.updateSegments
    (fun segment => (db.submission segment.submissionId).any candidate ∧
      segment.segmentIndex = db.lastSegment segment.submissionId ∧
      segment.state ∈ [.observedActive, .continuationExpected])
    (fun segment => { segment with
      state := ((db.submission segment.submissionId).map (idleState aborted)).getD
        segment.state })).updateSubmissions candidate fun row => { row with
    state := idleState aborted row
    terminalAt :=
      if idleState aborted row ∈ [.observedAborted, .semanticBlocked] then some receivedAt
      else row.terminalAt }

def sentStates : List SubmissionState := [.submitting, .submitted, .submittedUnknown]

/-- The submissions that `session.idle` finds without a user message. -/
def uncorrelated (sdkSessionId : String) (receivedAt : ℚ) (db : Db) (row : Submission) : Bool :=
  row.sdkSessionId = sdkSessionId ∧ row.observedUserEventId = none ∧
    row.createdAt ≤ receivedAt ∧ row.state ∈ sentStates ∧ (db.item row.submissionId).isSome

def applySessionIdle (sdkSessionId : String) (aborted : Bool) (receivedAt : ℚ) (db : Db) : Db :=
  let settled := settleLoops sdkSessionId aborted receivedAt db
  (settled.updateQueue
    (fun item => (settled.submission item.id).any (uncorrelated sdkSessionId receivedAt settled) ∧
      item.state ∈ [.submitting, .submitted, .submittedUnknown])
    ({ · with state := .outcomeUnknown })).updateSubmissions
    (uncorrelated sdkSessionId receivedAt settled)
    (fun row => { row with
      state := .outcomeUnknown, terminalAt := row.terminalAt.or (some receivedAt) })

def completeTask (outcome : Option TaskOutcome) (row : Submission) : Submission :=
  { row with
    taskCompletionOutcome := outcome.or row.taskCompletionOutcome
    state := if outcome = some .continue then .continuationExpected else row.state }

def applyTaskComplete (sdkSessionId : String) (outcome : Option TaskOutcome)
    (objectiveId : Option String) (db : Db) : Db :=
  let candidates := db.submissions.filter fun row => row.sdkSessionId = sdkSessionId ∧
    row.state ∈ runningStates ∧
    (if objectiveId.isSome then row.autopilotObjectiveId = objectiveId
      else row.requestedMode = some "autopilot")
  match candidates with
  | [candidate] =>
    let completed := db.updateSubmissions (·.submissionId = candidate.submissionId)
      (completeTask outcome)
    if outcome = some .continue then
      completed.updateSegments
        (fun segment => segment.submissionId = candidate.submissionId ∧
          segment.state = .observedActive)
        ({ · with state := .continuationExpected })
    else completed
  | _ => db

/-- The `UPDATE submissions` of `_apply_autopilot_objective`; `submissionId` is the one that
`autopilot_objectives` or the single running autopilot submission gives. -/
def applyAutopilotObjective (submissionId objectiveId : String) (status : Option String)
    (db : Db) : Db :=
  db.updateSubmissions (·.submissionId = submissionId)
    ({ · with autopilotObjectiveId := some objectiveId, objectiveStatus := status })

/-- The task links of a submission whose loop is idle and whose snapshots are quiet. -/
inductive Links where
  | absent | completed | failed

def quietState (links : Links) (row : Submission) : Option SubmissionState :=
  match links with
  | .failed => some .semanticBlocked
  | .completed => some .semanticComplete
  | .absent =>
    if row.requestedMode = some "autopilot" ∧ row.taskCompletionOutcome ≠ some .completed then none
    else some .semanticComplete

def settles (sdkSessionId : String) (quiet : List (String × Links)) (row : Submission) :
    Option SubmissionState :=
  if row.sdkSessionId = sdkSessionId ∧ row.state = .loopIdle then
    (quiet.lookup row.submissionId).bind (quietState · row)
  else none

/-- `_settle_linked_loop_idle_submissions`; `quiet` lists the submissions whose links and
snapshots pass its checks. -/
def settleLinkedLoopIdle (sdkSessionId : String) (quiet : List (String × Links)) (settledAt : ℚ)
    (db : Db) : Db :=
  (db.updateSegments
    (fun segment =>
      (db.submission segment.submissionId).any (settles sdkSessionId quiet · |>.isSome) ∧
      segment.segmentIndex = db.lastSegment segment.submissionId ∧ segment.state = .loopIdle)
    (fun segment => { segment with
      state := ((db.submission segment.submissionId).bind (settles sdkSessionId quiet)).getD
        segment.state })).updateSubmissions (settles sdkSessionId quiet · |>.isSome)
    fun row => { row with
      state := (settles sdkSessionId quiet row).getD row.state, terminalAt := some settledAt }

/-- `_reopen_submission_for_task`. -/
def reopenSubmission (sdkSessionId submissionId : String) (evidenceTime : ℚ) (db : Db) : Db :=
  let reopens (row : Submission) : Bool := row.submissionId = submissionId ∧
    row.sdkSessionId = sdkSessionId ∧ row.state = .semanticComplete ∧
    row.terminalAt.any (· ≤ evidenceTime)
  (db.updateSegments
    (fun segment => segment.submissionId = submissionId ∧
      (db.submission submissionId).any reopens ∧
      segment.segmentIndex = db.lastSegment submissionId ∧ segment.state = .semanticComplete)
    ({ · with state := .loopIdle })).updateSubmissions reopens
    ({ · with state := .loopIdle, terminalAt := none })

/-! ## Events and the journal -/

inductive Body where
  | queued (data : QueuedData)
  | submitting (data : SubmittingData)
  | cancelQueued (submissionIds : List String) (cancellable : List QueueState)
  | preSendDeferred (submissionId : String)
  | queueReplaced (data : ReplacedData)
  | queueBlocked (submissionId : String) (reason : BlockReason)
  | activeUnknown
  | accepted (submissionId messageId : String)
  | acceptanceUnknown (submissionId : String)
  | rejected (submissionId : String)
  | userMessage (message : UserMessage)
  | sessionIdle (aborted : Bool)
  | taskComplete (outcome : Option TaskOutcome) (objectiveId : Option String)
  | autopilotObjective (submissionId objectiveId : String) (status : Option String)
  | quietSnapshot (quiet : List (String × Links)) (settledAt : ℚ)
  | taskEvidence (submissionId : String) (evidenceTime : ℚ)

def Body.rawType : Body → String
  | .queued _ => "copilotd.submission.queued"
  | .submitting _ => "copilotd.submission.submitting"
  | .cancelQueued .. => "copilotd.submission.cancel_queued"
  | .preSendDeferred _ => "copilotd.submission.pre_send_deferred"
  | .queueReplaced _ => "copilotd.queue.replaced"
  | .queueBlocked .. => "copilotd.queue.blocked"
  | .activeUnknown => "copilotd.submission.active_unknown"
  | .accepted .. => "copilotd.submission.accepted"
  | .acceptanceUnknown _ => "copilotd.submission.acceptance_unknown"
  | .rejected _ => "copilotd.submission.rejected"
  | .userMessage _ => "user.message"
  | .sessionIdle _ => "session.idle"
  | .taskComplete .. => "session.task_complete"
  | .autopilotObjective .. => "session.autopilot_objective_changed"
  | .quietSnapshot .. => "copilotd.snapshot.observed"
  | .taskEvidence .. => "copilotd.tasks.snapshot"

structure Event where
  sdkSessionId : String
  eventId : Option String := none
  internalEventId : Option String := none
  receivedAt : ℚ := 0
  exactMapping : Bool := false
  body : Body

def applyDomainState (uuid5 : String → String) (event : Event) (db : Db) : Except Failure Db :=
  match event.body with
  | .queued data => .ok (queued event.sdkSessionId data db)
  | .submitting data => submitting event.sdkSessionId data event.receivedAt db
  | .cancelQueued submissionIds cancellable => .ok (cancelQueued submissionIds cancellable db)
  | .preSendDeferred submissionId => .ok (preSendDeferred submissionId db)
  | .queueReplaced data => queueReplaced data db
  | .queueBlocked submissionId reason => .ok (queueBlocked submissionId reason db)
  | .activeUnknown => .ok (activeUnknown event.sdkSessionId db)
  | .accepted submissionId messageId =>
    accepted uuid5 event.exactMapping event.sdkSessionId submissionId messageId event.receivedAt db
  | .acceptanceUnknown submissionId => .ok (acceptanceUnknown submissionId event.receivedAt db)
  | .rejected submissionId => rejected uuid5 event.sdkSessionId submissionId event.receivedAt db
  | .userMessage message =>
    match event.eventId with
    | none => .error .missingEventId
    | some eventId => .ok (applyUserMessage uuid5 event.exactMapping event.sdkSessionId eventId
        message event.receivedAt db)
  | .sessionIdle aborted => .ok (applySessionIdle event.sdkSessionId aborted event.receivedAt db)
  | .taskComplete outcome objectiveId =>
    .ok (applyTaskComplete event.sdkSessionId outcome objectiveId db)
  | .autopilotObjective submissionId objectiveId status =>
    .ok (applyAutopilotObjective submissionId objectiveId status db)
  | .quietSnapshot quiet settledAt =>
    .ok (settleLinkedLoopIdle event.sdkSessionId quiet settledAt db)
  | .taskEvidence submissionId evidenceTime =>
    .ok (reopenSubmission event.sdkSessionId submissionId evidenceTime db)

/-- The unique indexes of `event_journal`. -/
def journaled (db : Db) (event : Event) : Bool :=
  db.journal.any fun row => row.sdkSessionId = event.sdkSessionId ∧
    (event.eventId.isSome ∧ row.eventId = event.eventId ∨
      event.internalEventId.isSome ∧ row.internalEventId = event.internalEventId)

def receipt (event : Event) : JournalRow :=
  { sdkSessionId := event.sdkSessionId, eventId := event.eventId
    internalEventId := event.internalEventId, rawType := event.body.rawType }

/-- `_persist_transaction` for one event: a duplicate touches none of these tables. -/
def persist (uuid5 : String → String) (event : Event) (db : Db) : Except Failure Db :=
  if journaled db event then .ok db
  else (applyDomainState uuid5 event db).bind fun applied =>
    .ok { applied with journal := applied.journal ++ [receipt event] }

/-! ## Writers outside the reducer -/

def markQueueContentUnavailable (submissionId : String) (now : ℚ) (db : Db) : Db :=
  (db.updateQueue
    (fun item => item.id = submissionId ∧
      item.state ∉ [.cancelled, .submitted, .failed, .contentUnavailable])
    ({ · with state := .contentUnavailable })).updateSubmissions
    (fun row => row.submissionId = submissionId ∧ row.state = .localQueued)
    (fun row => { row with state := .rejected, terminalAt := row.terminalAt.or (some now) })

/-- The rows are still those of the attempt that asks for them back. -/
def requeueMatches (operationId : String) (row : Submission) (item : QueueItem) : Bool :=
  if row.state = .localQueued ∧ item.state = .localQueued then row.sourceOperationId = none
  else
    (row.state = .submitting ∧ item.state = .submitting ∨
      row.state = .submittedUnknown ∧ item.state = .submittedUnknown) ∧
      row.sourceOperationId = some operationId

/-- `_requeue_pre_send_without_reducer`, in one transaction; `operationId` is what the join
over `session_operations` gives for the operation's key. -/
def requeuePreSend (sdkSessionId submissionId operationId : String) (dispatchAttempt : Nat)
    (db : Db) : Bool × Db :=
  match db.submissionOf sdkSessionId submissionId, db.item submissionId with
  | some row, some item =>
    if dispatchAttempt < item.dispatchAttempt ∧ row.state = .localQueued ∧
        item.state = .localQueued then (true, db)
    else if item.dispatchAttempt ≠ dispatchAttempt ∨ row.evidenced then (false, db)
    else if !requeueMatches operationId row item then (false, db)
    else
      (true, (db.updateSubmissions (·.submissionId = submissionId) (fun row => { row with
          state := .localQueued, sourceOperationId := none, sendStartedAt := none
          terminalAt := none })).updateQueue (·.id = submissionId)
        (fun item => { item with
          state := .localQueued, dispatchAttempt := item.dispatchAttempt + 1 }))
  | _, _ => (false, db)

def lostState (state : SubmissionState) : SubmissionState :=
  if state ∈ [.submitting, .submitted] then .submittedUnknown else .outcomeUnknown

def loseOwner (now : ℚ) (row : Submission) : Submission :=
  { row with state := lostState row.state, terminalAt := row.terminalAt.or (some now) }

/-- The queue states whose prompt the startup recovery looks for. -/
def recoverableStates : List QueueState :=
  [.localQueued, .blocked .configUnknown, .blocked .remoteTransition, .blocked .modeDrift,
    .blocked .modelDrift, .blocked .agentDrift, .blocked .sessionConfigDrift]

/-- `StartupRecoveryInventory.run` on these tables: `lost` are the items without a prompt,
`expired` the sessions whose owner lease has run out. -/
def startupRecovery (lost expired : List String) (now : ℚ) (db : Db) : Db :=
  let unavailable (id : String) : Bool :=
    id ∈ lost ∧ (db.item id).any (·.state ∈ recoverableStates)
  ((db.updateQueue (unavailable ·.id) ({ · with state := .contentUnavailable })).updateSubmissions
    (fun row => unavailable row.submissionId ∧ row.state = .localQueued)
    (fun row => { row with
      state := .rejected, terminalAt := row.terminalAt.or (some now) })).updateSubmissions
    (fun row => row.sdkSessionId ∈ expired ∧ row.state ∈ activeStates) (loseOwner now)

/-- The takeover of an owner lease on these tables. -/
def takeover (sdkSessionId : String) (now : ℚ) (db : Db) : Db :=
  let settled := db.updateSubmissions
    (fun row => row.sdkSessionId = sdkSessionId ∧ row.state ∈ activeStates) (loseOwner now)
  settled.updateQueue
    (fun item => (settled.submissionOf sdkSessionId item.id).any
        (·.state = .submittedUnknown) ∧ item.state = .submitting)
    ({ · with state := .submittedUnknown })

/-- `SELECT COUNT(*) FROM message_queue …` of `detach_blockers`. -/
def blocksDetach (item : QueueItem) : Bool :=
  item.state ∉ [.cancelled, .submitted, .submittedUnknown, .failed]

def localQueue (threadId : String) (db : Db) : Nat :=
  db.queue.countP fun item => item.threadId = threadId ∧ blocksDetach item

inductive Writer where
  | reduce (event : Event)
  | contentUnavailable (submissionId : String) (now : ℚ)
  | requeue (sdkSessionId submissionId operationId : String) (dispatchAttempt : Nat)
  | recover (lost expired : List String) (now : ℚ)
  | takeover (sdkSessionId : String) (now : ℚ)

/-- One transaction.  A failed event leaves no trace, and the reducer takes no other. -/
def write (uuid5 : String → String) (db : Db) : Writer → Option Db
  | .reduce event => (persist uuid5 event db).toOption
  | .contentUnavailable submissionId now => some (markQueueContentUnavailable submissionId now db)
  | .requeue sdkSessionId submissionId operationId dispatchAttempt =>
    some (requeuePreSend sdkSessionId submissionId operationId dispatchAttempt db).2
  | .recover lost expired now => some (startupRecovery lost expired now db)
  | .takeover sdkSessionId now => some (takeover sdkSessionId now db)

theorem persist_of_write {uuid5 : String → String} {db after : Db} {event : Event}
    (done : write uuid5 db (.reduce event) = some after) : persist uuid5 event db = .ok after := by
  simp only [write] at done
  cases persisted : persist uuid5 event db with
  | error failure =>
    rw [persisted] at done
    cases done
  | ok result =>
    rw [persisted] at done
    cases done
    rfl

/-! ## What a statement leaves -/

section Statements

variable (db : Db)

@[simp] theorem updateSubmissions_queue (hit : Submission → Bool) (set : Submission → Submission) :
    (db.updateSubmissions hit set).queue = db.queue := rfl

@[simp] theorem updateSubmissions_segments (hit : Submission → Bool)
    (set : Submission → Submission) : (db.updateSubmissions hit set).segments = db.segments := rfl

@[simp] theorem updateSubmissions_journal (hit : Submission → Bool)
    (set : Submission → Submission) : (db.updateSubmissions hit set).journal = db.journal := rfl

@[simp] theorem updateSegments_queue (hit : Segment → Bool) (set : Segment → Segment) :
    (db.updateSegments hit set).queue = db.queue := rfl

@[simp] theorem updateSegments_journal (hit : Segment → Bool) (set : Segment → Segment) :
    (db.updateSegments hit set).journal = db.journal := rfl

@[simp] theorem moveItem_submissions (id : String) (fromStates : List QueueState)
    (state : QueueState) : (db.moveItem id fromStates state).submissions = db.submissions := rfl

@[simp] theorem moveItem_segments (id : String) (fromStates : List QueueState)
    (state : QueueState) : (db.moveItem id fromStates state).segments = db.segments := rfl

@[simp] theorem moveItem_journal (id : String) (fromStates : List QueueState)
    (state : QueueState) : (db.moveItem id fromStates state).journal = db.journal := rfl

@[simp] theorem insertSubmission_queue (row : Submission) :
    (db.insertSubmission row).queue = db.queue := by
  unfold Db.insertSubmission
  split <;> rfl

@[simp] theorem insertSubmission_segments (row : Submission) :
    (db.insertSubmission row).segments = db.segments := by
  unfold Db.insertSubmission
  split <;> rfl

@[simp] theorem insertSubmission_journal (row : Submission) :
    (db.insertSubmission row).journal = db.journal := by
  unfold Db.insertSubmission
  split <;> rfl

@[simp] theorem insertItem_submissions (item : QueueItem) :
    (db.insertItem item).submissions = db.submissions := by
  unfold Db.insertItem
  split <;> rfl

@[simp] theorem insertItem_segments (item : QueueItem) :
    (db.insertItem item).segments = db.segments := by
  unfold Db.insertItem
  split <;> rfl

@[simp] theorem insertItem_journal (item : QueueItem) :
    (db.insertItem item).journal = db.journal := by
  unfold Db.insertItem
  split <;> rfl

@[simp] theorem insertSegment_submissions (segment : Segment) :
    (db.insertSegment segment).submissions = db.submissions := by
  unfold Db.insertSegment
  split <;> rfl

@[simp] theorem insertSegment_queue (segment : Segment) :
    (db.insertSegment segment).queue = db.queue := by
  unfold Db.insertSegment
  split <;> rfl

@[simp] theorem insertSegment_journal (segment : Segment) :
    (db.insertSegment segment).journal = db.journal := by
  unfold Db.insertSegment
  split <;> rfl

@[simp] theorem observeSubmission_journal (sdkSessionId submissionId eventId : String)
    (continuation : Bool) (receivedAt : ℚ) :
    (observeSubmission sdkSessionId submissionId eventId continuation receivedAt db).journal =
      db.journal := by
  simp [observeSubmission]

@[simp] theorem moveObservation_journal (runtimeId : String) (appState : SubmissionState)
    (receivedAt : ℚ) (row : Submission) :
    (moveObservation runtimeId appState receivedAt row db).journal = db.journal := by
  simp [moveObservation]

end Statements

theorem bind_ok {α β : Type} {step : Except Failure α} {next : α → Except Failure β} {value : β}
    (done : step.bind next = .ok value) :
    ∃ result, step = .ok result ∧ next result = .ok value := by
  cases step with
  | error failure => cases done
  | ok result => exact ⟨result, rfl, done⟩

variable {submissionId sdkSessionId : String}

theorem submissionOf_eq_some {db : Db} {row : Submission} :
    db.submissionOf sdkSessionId submissionId = some row ↔
      db.submission submissionId = some row ∧ row.sdkSessionId = sdkSessionId := by
  simp [Db.submissionOf, Option.filter_eq_some_iff]

variable {uuid5 : String → String} {receivedAt : ℚ} {after : Db}

theorem split_cases {appState : SubmissionState} {db : Db}
    (done : splitObservedSubmission uuid5 sdkSessionId submissionId appState receivedAt db =
      .ok after) :
    after = db ∨ ∃ row userEventId, db.submission submissionId = some row ∧
      row.sdkSessionId = sdkSessionId ∧ row.observedUserEventId = some userEventId ∧
      after = moveObservation (runtimeObservedId uuid5 sdkSessionId userEventId) appState
        receivedAt row db := by
  unfold splitObservedSubmission at done
  split at done
  · cases done
    exact .inl rfl
  next row found =>
    obtain ⟨looked, session⟩ := submissionOf_eq_some.mp found
    split at done
    · cases done
      exact .inl rfl
    next userEventId observed =>
      dsimp only at done
      split at done
      · cases done
      · cases done
        exact .inr ⟨row, userEventId, looked, session, observed, rfl⟩

theorem accepted_cases {exactMapping : Bool} {messageId : String} {db : Db}
    (done : accepted uuid5 exactMapping sdkSessionId submissionId messageId receivedAt db =
      .ok after) :
    after = db ∨ ∃ row, db.submission submissionId = some row ∧
      row.sdkSessionId = sdkSessionId ∧ row.state ≠ .rejected ∧
      row.acceptedMessageId.all (· = messageId) = true ∧
      (after = recordAccepted submissionId messageId receivedAt db ∨
        ∃ userEventId, row.observedUserEventId = some userEventId ∧ userEventId ≠ messageId ∧
          after = recordAccepted submissionId messageId receivedAt
            (moveObservation (runtimeObservedId uuid5 sdkSessionId userEventId) .submitted
              receivedAt row db)) := by
  unfold accepted at done
  split at done
  · cases done
    exact .inl rfl
  next row found =>
    obtain ⟨looked, session⟩ := submissionOf_eq_some.mp found
    split at done
    · cases done
      exact .inl rfl
    next unsettled =>
      obtain ⟨mid, splits, rest⟩ := bind_ok done
      split at splits
      next provisional =>
        rw [provisional.1] at rest
        cases rest
        refine .inr ⟨row, looked, session, unsettled, by simp [provisional.1], ?_⟩
        obtain rfl | ⟨same, userEventId, also, _, observed, rfl⟩ := split_cases splits
        · exact .inl rfl
        · rw [looked] at also
          cases also
          refine .inr ⟨userEventId, observed, ?_, rfl⟩
          simpa [observed] using provisional.2.1
      · cases splits
        split at rest
        · cases rest
          exact .inl rfl
        next agrees =>
          cases rest
          refine .inr ⟨row, looked, session, unsettled, ?_, .inl rfl⟩
          cases accepted : row.acceptedMessageId with
          | none => rfl
          | some other => simpa [accepted] using agrees

theorem rejected_cases {db : Db}
    (done : rejected uuid5 sdkSessionId submissionId receivedAt db = .ok after) :
    after = db ∨ ∃ row, db.submission submissionId = some row ∧
      row.sdkSessionId = sdkSessionId ∧ row.state ≠ .rejected ∧
      (row.acceptedMessageId.isSome ∧
          after = db.moveItem submissionId [.localQueued, .submitting, .submittedUnknown]
            .submitted ∨
        row.acceptedMessageId = none ∧ row.observedUserEventId = none ∧
          after = (db.updateSubmissions (·.submissionId = submissionId)
            ({ · with state := .rejected, terminalAt := some receivedAt })).moveItem submissionId
            [.localQueued, .submitting, .submitted, .submittedUnknown] .rejected ∨
        ∃ userEventId, row.acceptedMessageId = none ∧
          row.observedUserEventId = some userEventId ∧
          after = (moveObservation (runtimeObservedId uuid5 sdkSessionId userEventId) .rejected
            receivedAt row db).moveItem submissionId
            [.localQueued, .submitting, .submitted, .submittedUnknown] .rejected) := by
  unfold rejected at done
  split at done
  · cases done
    exact .inl rfl
  next row found =>
    obtain ⟨looked, session⟩ := submissionOf_eq_some.mp found
    split at done
    · cases done
      exact .inl rfl
    next unsettled =>
      refine .inr ⟨row, looked, session, unsettled, ?_⟩
      split at done
      next wasAccepted =>
        cases done
        exact .inl ⟨wasAccepted, rfl⟩
      next unaccepted =>
        have none : row.acceptedMessageId = none := by simpa using unaccepted
        obtain ⟨mid, settles, rest⟩ := bind_ok done
        cases rest
        split at settles
        next observed =>
          obtain ⟨userEventId, carried⟩ := Option.isSome_iff_exists.mp observed
          rw [splitObservedSubmission, found] at settles
          simp only [carried] at settles
          split at settles
          · cases settles
          · cases settles
            exact .inr (.inr ⟨userEventId, none, carried, rfl⟩)
        next unobserved =>
          cases settles
          exact .inr (.inl ⟨none, by simpa using unobserved, rfl⟩)

end Copilotd.Source.Core.Submissions
