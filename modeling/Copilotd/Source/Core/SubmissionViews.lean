import Copilotd.Source.Core.Submissions

/-!
# What one transaction does to one submission

A view is the pair of rows that one id selects in `submissions` and `message_queue`.
`Change` lists the moves of a view, each with the writer that makes it and what the writer
requires of the rows; `change_of_write` says that a transaction makes no other.
-/
namespace Copilotd.Source.Core.Submissions

open Base.Table
open Source.Storage (SubmissionState)

/-! ## Lookups -/

variable {row : Submission}

theorem submission_key {db : Db} {id : String} (found : db.submission id = some row) :
    row.submissionId = id :=
  lookup_some_key found

theorem item_key {db : Db} {id : String} {item : QueueItem} (found : db.item id = some item) :
    item.id = id :=
  lookup_some_key found

@[simp] theorem clearObservation_key (appState : SubmissionState) (receivedAt : ℚ)
    (row : Submission) : (clearObservation appState receivedAt row).submissionId =
      row.submissionId := rfl

@[simp] theorem runtimeCopy_key (runtimeId : String) (row : Submission) :
    (runtimeCopy runtimeId row).submissionId = runtimeId := rfl

@[simp] theorem recordAcceptance_key (messageId : String) (receivedAt : ℚ) (row : Submission) :
    (recordAcceptance messageId receivedAt row).submissionId = row.submissionId := rfl

@[simp] theorem completeTask_key (outcome : Option TaskOutcome) (row : Submission) :
    (completeTask outcome row).submissionId = row.submissionId := rfl

@[simp] theorem loseOwner_key (now : ℚ) (row : Submission) :
    (loseOwner now row).submissionId = row.submissionId := rfl

variable {set : QueueItem → QueueItem}

section Lookups

variable (db : Db) (id : String)

@[simp] theorem submission_updateQueue (hit : QueueItem → Bool) (set : QueueItem → QueueItem) :
    (db.updateQueue hit set).submission id = db.submission id := rfl

@[simp] theorem submission_updateSegments (hit : Segment → Bool) (set : Segment → Segment) :
    (db.updateSegments hit set).submission id = db.submission id := rfl

@[simp] theorem submission_moveItem (target : String) (fromStates : List QueueState)
    (state : QueueState) : (db.moveItem target fromStates state).submission id =
      db.submission id := rfl

@[simp] theorem submission_insertItem (item : QueueItem) :
    (db.insertItem item).submission id = db.submission id := by
  rw [Db.submission, insertItem_submissions, Db.submission]

@[simp] theorem submission_insertSegment (segment : Segment) :
    (db.insertSegment segment).submission id = db.submission id := by
  rw [Db.submission, insertSegment_submissions, Db.submission]

@[simp] theorem item_updateSubmissions (hit : Submission → Bool)
    (set : Submission → Submission) : (db.updateSubmissions hit set).item id = db.item id := rfl

@[simp] theorem item_updateSegments (hit : Segment → Bool) (set : Segment → Segment) :
    (db.updateSegments hit set).item id = db.item id := rfl

@[simp] theorem item_insertSubmission (row : Submission) :
    (db.insertSubmission row).item id = db.item id := by
  rw [Db.item, insertSubmission_queue, Db.item]

@[simp] theorem item_insertSegment (segment : Segment) :
    (db.insertSegment segment).item id = db.item id := by
  rw [Db.item, insertSegment_queue, Db.item]

@[simp] theorem submission_updateSubmissions {hit : Submission → Bool}
    {set : Submission → Submission}
    (same : ∀ row, (set row).submissionId = row.submissionId) :
    (db.updateSubmissions hit set).submission id =
      (db.submission id).map fun row => if hit row then set row else row :=
  lookup_updateWhere same id db.submissions

@[simp] theorem item_updateQueue {hit : QueueItem → Bool} (same : ∀ item, (set item).id = item.id) :
    (db.updateQueue hit set).item id =
      (db.item id).map fun item => if hit item then set item else item :=
  lookup_updateWhere same id db.queue

theorem item_moveItem (target : String) (fromStates : List QueueState) (state : QueueState) :
    (db.moveItem target fromStates state).item id =
      (db.item id).map fun item =>
        if id = target ∧ item.state ∈ fromStates then { item with state } else item := by
  unfold Db.moveItem
  rw [item_updateQueue _ _ (by intro item; rfl)]
  cases found : db.item id with
  | none => rfl
  | some item => simp [item_key found]

theorem submission_insertSubmission (row : Submission) :
    (db.insertSubmission row).submission id =
      (db.submission id).or (if row.submissionId = id then some row else none) := by
  unfold Db.insertSubmission
  split
  next present =>
    by_cases same : row.submissionId = id
    · rw [same] at present
      obtain ⟨old, found⟩ := Option.isSome_iff_exists.mp present
      rw [found, Option.some_or]
    · rw [if_neg same, Option.or_none]
  next absent =>
    rw [Db.submission, Db.submission, lookup_append]
    by_cases same : row.submissionId = id
    · simp [lookup, same]
    · simp [lookup, same]

theorem item_insertItem (item : QueueItem) :
    (db.insertItem item).item id =
      (db.item id).or (if item.id = id then some item else none) := by
  unfold Db.insertItem
  split
  next present =>
    by_cases same : item.id = id
    · rw [same] at present
      obtain ⟨old, found⟩ := Option.isSome_iff_exists.mp present
      rw [found, Option.some_or]
    · rw [if_neg same, Option.or_none]
  next absent =>
    rw [Db.item, Db.item, lookup_append]
    by_cases same : item.id = id
    · simp [lookup, same]
    · simp [lookup, same]

theorem submission_map_congr {set other : Submission → Submission}
    (agree : ∀ row, row.submissionId = id → set row = other row) :
    (db.submission id).map set = (db.submission id).map other := by
  cases found : db.submission id with
  | none => rfl
  | some row => rw [Option.map_some, Option.map_some, agree row (submission_key found)]

theorem item_map_congr {other : QueueItem → QueueItem}
    (agree : ∀ item, item.id = id → set item = other item) :
    (db.item id).map set = (db.item id).map other := by
  cases found : db.item id with
  | none => rfl
  | some item => rw [Option.map_some, Option.map_some, agree item (item_key found)]

theorem submission_map_other {set : Submission → Submission}
    (fixed : ∀ row, row.submissionId = id → set row = row) :
    (db.submission id).map set = db.submission id := by
  rw [submission_map_congr db id fixed, Option.map_id']

theorem item_map_other
    (fixed : ∀ item, item.id = id → set item = item) : (db.item id).map set = db.item id := by
  rw [item_map_congr db id fixed, Option.map_id']

end Lookups

/-! ## Changes -/

/-- The rows of one id. -/
structure View where
  row : Option Submission
  item : Option QueueItem

def Db.view (db : Db) (id : String) : View := ⟨db.submission id, db.item id⟩

def Submission.fresh (row : Submission) : Prop :=
  row.state = .localQueued ∧ row.evidenced = false ∧ row.sourceOperationId = none

/-- The fields no statement on an existing row outside the claim's own touches. -/
structure SameSource (row after : Submission) : Prop where
  session : after.sdkSessionId = row.sdkSessionId
  source : after.sourceOperationId = row.sourceOperationId

def dequeue (row : Submission) : Submission :=
  { row with
    state := .localQueued, sourceOperationId := none, sendStartedAt := none, terminalAt := none }

def requeueItem (item : QueueItem) : QueueItem :=
  { item with state := .localQueued, dispatchAttempt := item.dispatchAttempt + 1 }

def moveIf (fromStates : List QueueState) (state : QueueState) (item : QueueItem) : QueueItem :=
  if item.state ∈ fromStates then { item with state } else item

inductive Change (db : Db) (id : String) : Writer → View → View → Prop where
  | kept (writer : Writer) (view : View) : Change db id writer view view
  | inserted {event : Event} {view : View} {row : Submission} {item : QueueItem}
      (body : (∃ data, event.body = .queued data ∧ id = data.submissionId) ∨
        ∃ data, event.body = .queueReplaced data ∧ id = data.newId)
      (new : row.fresh) (queued : item.state = .localQueued) :
      Change db id (.reduce event) view ⟨view.row.or (some row), view.item.or (some item)⟩
  | retired {event : Event} {data : ReplacedData} {row : Submission} {item : QueueItem}
      (body : event.body = .queueReplaced data) (old : id = data.oldId)
      (allowed : item.state ∈ data.allowed) :
      Change db id (.reduce event) ⟨some row, some item⟩
        ⟨some { row with state := .cancelled }, some { item with state := .cancelled }⟩
  | postponed {event : Event} {data : SubmittingData} {row : Option Submission} {item : QueueItem}
      (body : event.body = .submitting data) (unready : data.ready = false) :
      Change db id (.reduce event) ⟨row, some item⟩
        ⟨row, some { item with dispatchAttempt := item.dispatchAttempt + 1 }⟩
  | claimed {event : Event} {data : SubmittingData} {row : Submission} {item : QueueItem}
      (body : event.body = .submitting data) (target : id = data.submissionId)
      (session : row.sdkSessionId = event.sdkSessionId)
      (waiting : row.state = .localQueued) (queued : item.state = .localQueued) :
      Change db id (.reduce event) ⟨some row, some item⟩
        ⟨some { row with
          state := .submitting, sourceOperationId := some data.operationId
          sendStartedAt := some event.receivedAt }, some { item with state := .submitting }⟩
  | cancelled {event : Event} {ids : List String} {states : List QueueState} {view : View}
      (body : event.body = .cancelQueued ids states) (listed : id ∈ ids) :
      Change db id (.reduce event) view
        ⟨view.row.map fun row =>
          if row.state = .localQueued then { row with state := .cancelled } else row,
        view.item.map (moveIf states .cancelled)⟩
  | deferred {event : Event} {row : Submission} {item : Option QueueItem}
      (body : event.body = .preSendDeferred id) (sending : row.state = .submitting)
      (unevidenced : row.evidenced = false) :
      Change db id (.reduce event) ⟨some row, item⟩
        ⟨some (dequeue row), item.map fun item =>
          if item.state = .submitting then requeueItem item else item⟩
  | requeued {sdkSessionId operationId : String} {dispatchAttempt : Nat} {row : Submission}
      {item : QueueItem} (attempt : item.dispatchAttempt = dispatchAttempt)
      (unevidenced : row.evidenced = false)
      (own : requeueMatches operationId row item = true) :
      Change db id (.requeue sdkSessionId id operationId dispatchAttempt) ⟨some row, some item⟩
        ⟨some (dequeue row), some (requeueItem item)⟩
  | blocked {event : Event} {reason : BlockReason} {row : Option Submission} {item : QueueItem}
      (body : event.body = .queueBlocked id reason) (queued : item.state = .localQueued) :
      Change db id (.reduce event) ⟨row, some item⟩
        ⟨row, some { item with state := .blocked reason }⟩
  | forgotten {event : Event} {row : Submission} {item : Option QueueItem}
      (body : event.body = .activeUnknown) (session : row.sdkSessionId = event.sdkSessionId)
      (active : row.state ∈ activeStates) :
      Change db id (.reduce event) ⟨some row, item⟩
        ⟨some { row with state := .outcomeUnknown }, item⟩
  | accepted {event : Event} {messageId : String} {row : Submission} {item : Option QueueItem}
      (body : event.body = .accepted id messageId) :
      Change db id (.reduce event) ⟨some row, item⟩
        ⟨some (if row.state ∈ acceptableStates then recordAcceptance messageId event.receivedAt row
          else row),
        item.map (moveIf [.localQueued, .submitting, .submittedUnknown] .submitted)⟩
  | corrected {event : Event} {messageId : String} {row : Submission} {item : Option QueueItem}
      (body : event.body = .accepted id messageId) :
      Change db id (.reduce event) ⟨some row, item⟩
        ⟨some (recordAcceptance messageId event.receivedAt
          (clearObservation .submitted event.receivedAt row)),
        item.map (moveIf [.localQueued, .submitting, .submittedUnknown] .submitted)⟩
  | copied {event : Event} {carrier : String} {row : Submission} {item : Option QueueItem}
      (body : (∃ submissionId messageId, event.body = .accepted submissionId messageId) ∨
        ∃ submissionId, event.body = .rejected submissionId)
      (stored : db.submission carrier = some row) (observed : row.observedUserEventId.isSome) :
      Change db id (.reduce event) ⟨none, item⟩ ⟨some (runtimeCopy id row), item⟩
  | doubted {event : Event} {view : View} (body : event.body = .acceptanceUnknown id) :
      Change db id (.reduce event) view
        ⟨view.row.map fun row =>
          if row.state ≠ .rejected ∧ row.evidenced = false then
            { row with state := .submittedUnknown, terminalAt := some event.receivedAt }
          else row,
        view.item.map (moveIf [.localQueued, .submitting]
          (if view.row.any (·.evidenced) then .submitted else .submittedUnknown))⟩
  | refused {event : Event} {row : Submission} {item : Option QueueItem}
      (body : event.body = .rejected id) (accepted : row.acceptedMessageId.isSome) :
      Change db id (.reduce event) ⟨some row, item⟩
        ⟨some row, item.map (moveIf [.localQueued, .submitting, .submittedUnknown] .submitted)⟩
  | rejected {event : Event} {row after : Submission} {item : Option QueueItem}
      (body : event.body = .rejected id) (session : row.sdkSessionId = event.sdkSessionId)
      (unaccepted : row.acceptedMessageId = none) (unsettled : row.state ≠ .rejected)
      (same : SameSource row after) (state : after.state = .rejected) :
      Change db id (.reduce event) ⟨some row, item⟩
        ⟨some after,
        item.map (moveIf [.localQueued, .submitting, .submitted, .submittedUnknown] .rejected)⟩
  | observed {event : Event} {message : UserMessage} {row after : Submission}
      {item : Option QueueItem} (body : event.body = .userMessage message)
      (same : SameSource row after) (state : after.state = .observedActive)
      (evidenced : after.evidenced = true) :
      Change db id (.reduce event) ⟨some row, item⟩
        ⟨some after, item.map (moveIf [.outcomeUnknown] .submitted)⟩
  | noticed {event : Event} {message : UserMessage} {row : Option Submission}
      {item : Option QueueItem} (body : event.body = .userMessage message) :
      Change db id (.reduce event) ⟨row, item⟩
        ⟨row, item.map (moveIf [.outcomeUnknown] .submitted)⟩
  | created {event : Event} {message : UserMessage} {row : Submission} {item : Option QueueItem}
      (body : event.body = .userMessage message) (state : row.state = .observedActive)
      (evidenced : row.evidenced = true) :
      Change db id (.reduce event) ⟨none, item⟩
        ⟨some row, item.map (moveIf [.outcomeUnknown] .submitted)⟩
  | idled {event : Event} {aborted : Bool} {row after : Submission} {item : Option QueueItem}
      (body : event.body = .sessionIdle aborted)
      (running : row.state ∈ [.observedActive, .continuationExpected])
      (same : SameSource row after) (evidence : after.evidenced = row.evidenced)
      (state : after.state = idleState aborted row) :
      Change db id (.reduce event) ⟨some row, item⟩ ⟨some after, item⟩
  | orphaned {event : Event} {aborted : Bool} {row after : Submission} {item : QueueItem}
      (body : event.body = .sessionIdle aborted) (session : row.sdkSessionId = event.sdkSessionId)
      (unobserved : row.observedUserEventId = none) (created : row.createdAt ≤ event.receivedAt)
      (sent : row.state ∈ sentStates) (same : SameSource row after)
      (evidence : after.evidenced = row.evidenced) (state : after.state = .outcomeUnknown) :
      Change db id (.reduce event) ⟨some row, some item⟩
        ⟨some after,
        some (moveIf [.submitting, .submitted, .submittedUnknown] .outcomeUnknown item)⟩
  | tasked {event : Event} {row after : Submission} {item : Option QueueItem}
      (body : (∃ outcome objectiveId, event.body = .taskComplete outcome objectiveId) ∨
        ∃ submissionId objectiveId status,
          event.body = .autopilotObjective submissionId objectiveId status)
      (same : SameSource row after) (evidence : after.evidenced = row.evidenced)
      (state : after.state = row.state ∨ after.state = .continuationExpected) :
      Change db id (.reduce event) ⟨some row, item⟩ ⟨some after, item⟩
  | settled {event : Event} {quiet : List (String × Links)} {settledAt : ℚ}
      {row after : Submission} {item : Option QueueItem}
      (body : event.body = .quietSnapshot quiet settledAt)
      (settles : settles event.sdkSessionId quiet row = some after.state)
      (same : SameSource row after) (evidence : after.evidenced = row.evidenced) :
      Change db id (.reduce event) ⟨some row, item⟩ ⟨some after, item⟩
  | reopened {event : Event} {submissionId : String} {evidenceTime : ℚ} {row after : Submission}
      {item : Option QueueItem} (body : event.body = .taskEvidence submissionId evidenceTime)
      (complete : row.state = .semanticComplete) (same : SameSource row after)
      (evidence : after.evidenced = row.evidenced) (state : after.state = .loopIdle) :
      Change db id (.reduce event) ⟨some row, item⟩ ⟨some after, item⟩
  | contentLost {now : ℚ} {view : View} :
      Change db id (.contentUnavailable id now) view
        ⟨view.row.map fun row =>
          if row.state = .localQueued then
            { row with state := .rejected, terminalAt := row.terminalAt.or (some now) }
          else row,
        view.item.map fun item =>
          if item.state ∉ [.cancelled, .submitted, .failed, .contentUnavailable] then
            { item with state := .contentUnavailable }
          else item⟩
  | recovered {lost expired : List String} {now : ℚ} {view : View} (gone : Bool)
      (means : gone = true ↔ id ∈ lost ∧ view.item.any (·.state ∈ recoverableStates)) :
      Change db id (.recover lost expired now) view
        ⟨view.row.map fun row =>
          if gone ∧ row.state = .localQueued then
            { row with state := .rejected, terminalAt := row.terminalAt.or (some now) }
          else if row.sdkSessionId ∈ expired ∧ row.state ∈ activeStates then loseOwner now row
          else row,
        view.item.map fun item =>
          if gone then { item with state := .contentUnavailable } else item⟩
  | takenOver {sdkSessionId : String} {now : ℚ} {view : View} :
      Change db id (.takeover sdkSessionId now) view
        ⟨view.row.map fun row =>
          if row.sdkSessionId = sdkSessionId ∧ row.state ∈ activeStates then loseOwner now row
          else row,
        view.item.map fun item =>
          if view.row.any (fun row => row.sdkSessionId = sdkSessionId ∧
              row.state ∈ [.submitting, .submitted]) ∧ item.state = .submitting then
            { item with state := .submittedUnknown } else item⟩

/-! ## Every transaction is a change -/

variable {writer : Writer} {result view : View}

theorem Change.of_eq {db : Db} {id : String} {row : Option Submission} {item : Option QueueItem}
    (change : Change db id writer view result) (rows : row = result.row)
    (items : item = result.item) :
    Change db id writer view ⟨row, item⟩ := by
  rw [rows, items]
  exact change

variable {uuid5 : String → String} {db after : Db} {event : Event} (id : String)

theorem change_queued {data : QueuedData} (body : event.body = .queued data) :
    Change db id (.reduce event) (db.view id) ((queued event.sdkSessionId data db).view id) := by
  unfold queued
  split
  · exact .kept _ _
  · simp only [Db.view, submission_insertItem, submission_insertSubmission, item_insertItem,
      item_insertSubmission]
    by_cases target : data.submissionId = id
    · rw [if_pos target, if_pos target]
      exact .inserted (.inl ⟨data, body, target.symm⟩) ⟨rfl, rfl, rfl⟩ rfl
    · rw [if_neg target, if_neg target, Option.or_none, Option.or_none]
      exact .kept _ _

theorem change_submitting {data : SubmittingData} (body : event.body = .submitting data)
    (done : submitting event.sdkSessionId data event.receivedAt db = .ok after) :
    Change db id (.reduce event) (db.view id) (after.view id) := by
  unfold submitting at done
  dsimp only at done
  split at done
  next unready =>
    cases done
    simp only [Db.view, submission_updateQueue, item_updateQueue, implies_true]
    cases db.item id with
    | none => exact .kept _ _
    | some item =>
      rw [Option.map_some]
      split
      · exact .postponed body (by simpa using unready)
      · exact .kept _ _
  next ready =>
    split at done
    · cases done
      exact .kept _ _
    next claims =>
      split at done
      · cases done
      next queued =>
        simp only [Except.ok.injEq] at done
        subst done
        by_cases target : id = data.submissionId
        · subst target
          simp only [Bool.not_eq_true', Bool.not_eq_false, Option.any_eq_true] at claims queued
          obtain ⟨row, found, claim⟩ := claims
          obtain ⟨item, also, waiting⟩ := queued
          simp only [Db.view, submission_updateQueue, item_updateSubmissions,
            submission_updateSubmissions, item_updateQueue, implies_true, found, also,
            Option.map_some, if_pos claim, if_pos waiting]
          simp only [decide_eq_true_eq] at claim waiting
          exact .claimed body rfl claim.2.1 claim.2.2 waiting.2
        · simp only [Db.view, submission_updateQueue, item_updateSubmissions,
            submission_updateSubmissions, item_updateQueue, implies_true]
          rw [submission_map_other, item_map_other]
          · exact .kept _ _
          · intro item key
            simp [key, target]
          · intro row key
            simp [key, target]

theorem change_cancelQueued {ids : List String} {states : List QueueState}
    (body : event.body = .cancelQueued ids states) :
    Change db id (.reduce event) (db.view id) ((cancelQueued ids states db).view id) := by
  unfold cancelQueued
  split
  · exact .kept _ _
  · simp only [Db.view, submission_updateQueue, item_updateSubmissions,
      submission_updateSubmissions, item_updateQueue, implies_true]
    by_cases listed : id ∈ ids
    · refine (Change.cancelled body listed).of_eq ?_ ?_
      · apply submission_map_congr
        intro row key
        simp [key, listed]
      · apply item_map_congr
        intro item key
        simp [key, listed, moveIf]
    · rw [submission_map_other, item_map_other]
      · exact .kept _ _
      · intro item key
        simp [key, listed]
      · intro row key
        simp [key, listed]

theorem evidenced_eq_false : row.evidenced = false ↔
    row.acceptedMessageId = none ∧ row.observedUserEventId = none := by
  simp [Submission.evidenced, and_comm]

variable {submissionId : String}

theorem change_preSendDeferred (body : event.body = .preSendDeferred submissionId) :
    Change db id (.reduce event) (db.view id) ((preSendDeferred submissionId db).view id) := by
  unfold preSendDeferred
  dsimp only
  split
  · exact .kept _ _
  next defers =>
    simp only [Db.view, submission_updateQueue, item_updateSubmissions,
      submission_updateSubmissions, item_updateQueue, implies_true]
    by_cases target : id = submissionId
    · subst target
      simp only [Bool.not_eq_true', Bool.not_eq_false, Option.any_eq_true] at defers
      obtain ⟨row, found, sending⟩ := defers
      rw [found, Option.map_some, if_pos sending]
      simp only [decide_eq_true_eq] at sending
      refine (Change.deferred body sending.2.1
        (evidenced_eq_false.mpr sending.2.2)).of_eq rfl ?_
      apply item_map_congr
      intro item key
      simp [key, requeueItem]
    · rw [submission_map_other, item_map_other]
      · exact .kept _ _
      · intro item key
        simp [key, target]
      · intro row key
        simp [key, target]

theorem submission_retireItem (oldId : String) : (retireItem oldId db).submission id =
    (db.submission id).map fun row =>
      if id = oldId then { row with state := .cancelled } else row := by
  simp only [retireItem, submission_updateQueue, submission_updateSubmissions, implies_true]
  apply submission_map_congr
  intro row key
  simp [key]

theorem item_retireItem (oldId : String) : (retireItem oldId db).item id =
    (db.item id).map fun item =>
      if id = oldId then { item with state := .cancelled } else item := by
  simp only [retireItem, item_updateSubmissions, item_updateQueue, implies_true]
  apply item_map_congr
  intro item key
  simp [key]

theorem change_queueReplaced {data : ReplacedData} (body : event.body = .queueReplaced data)
    (done : queueReplaced data db = .ok after) :
    Change db id (.reduce event) (db.view id) (after.view id) := by
  unfold queueReplaced at done
  split at done
  · cases done
    exact .kept _ _
  · split at done
    next item row also found =>
      simp only [Except.ok.injEq] at done
      subst done
      simp only [Option.filter_eq_some_iff, decide_eq_true_eq] at also
      simp only [replaceItem, Db.view, submission_insertItem, submission_insertSubmission,
        item_insertItem, item_insertSubmission, submission_retireItem, item_retireItem]
      by_cases old : id = data.oldId
      · -- the old item has both rows, so nothing is inserted under its own id
        subst old
        simp only [found, also.1, Option.map_some, Option.some_or, if_true]
        exact .retired body rfl also.2
      · simp only [if_neg old, Option.map_id']
        by_cases new : data.newId = id
        · rw [if_pos new, if_pos new]
          exact .inserted (.inr ⟨data, body, new.symm⟩) ⟨rfl, rfl, rfl⟩ rfl
        · rw [if_neg new, if_neg new, Option.or_none, Option.or_none]
          exact .kept _ _
    · split at done
      · cases done
        exact .kept _ _
      · cases done

theorem change_queueBlocked {reason : BlockReason}
    (body : event.body = .queueBlocked submissionId reason) :
    Change db id (.reduce event) (db.view id) ((queueBlocked submissionId reason db).view id) := by
  simp only [queueBlocked, Db.view, submission_moveItem, item_moveItem]
  cases found : db.item id with
  | none => exact .kept _ _
  | some item =>
    rw [Option.map_some]
    split
    next blocks =>
      obtain ⟨target, queued⟩ := blocks
      subst target
      exact .blocked body (by simpa using queued)
    · exact .kept _ _

theorem change_activeUnknown (body : event.body = .activeUnknown) :
    Change db id (.reduce event) (db.view id)
      ((activeUnknown event.sdkSessionId db).view id) := by
  simp only [activeUnknown, Db.view, item_updateSubmissions, submission_updateSubmissions,
    implies_true]
  cases found : db.submission id with
  | none => exact .kept _ _
  | some row =>
    rw [Option.map_some]
    split
    next active =>
      simp only [decide_eq_true_eq] at active
      exact .forgotten body active.1 active.2
    · exact .kept _ _

theorem item_map_moveIf (target : String) (fromStates : List QueueState) (state : QueueState)
    (same : id = target) : (db.moveItem target fromStates state).item id =
      (db.item id).map (moveIf fromStates state) := by
  rw [item_moveItem]
  apply item_map_congr
  intro item _
  simp [same, moveIf]

theorem item_moveItem_other {target : String} (fromStates : List QueueState) (state : QueueState)
    (other : id ≠ target) : (db.moveItem target fromStates state).item id = db.item id := by
  rw [item_moveItem]
  apply item_map_other
  intro item _
  simp [other]

variable {appState : SubmissionState} {runtimeId : String} {receivedAt : ℚ}

theorem submission_clear (found : db.submission submissionId = some row) :
    (moveObservation runtimeId appState receivedAt row db).submission id =
      if id = submissionId then some (clearObservation appState receivedAt row)
      else (db.submission id).or (if runtimeId = id then some (runtimeCopy runtimeId row)
        else none) := by
  have key := submission_key found
  rw [moveObservation, submission_updateSubmissions _ _ (clearObservation_key appState receivedAt),
    submission_updateSegments, submission_insertSubmission, runtimeCopy_key]
  by_cases target : id = submissionId
  · subst target
    simp [found, key]
  · rw [if_neg target]
    cases old : db.submission id with
    | some other => simp [submission_key old, target, key]
    | none =>
      by_cases runtime : runtimeId = id
      · simp [runtime, key, target]
      · simp [runtime]

@[simp] theorem item_moveObservation (runtimeId : String) (appState : SubmissionState)
    (receivedAt : ℚ) (row : Submission) :
    (moveObservation runtimeId appState receivedAt row db).item id = db.item id := by
  simp [moveObservation]

theorem submission_recordAccepted (submissionId messageId : String) (receivedAt : ℚ) :
    (recordAccepted submissionId messageId receivedAt db).submission id =
      (db.submission id).map fun row =>
        if id = submissionId ∧ row.state ∈ acceptableStates then
          recordAcceptance messageId receivedAt row
        else row := by
  rw [recordAccepted, submission_moveItem,
    submission_updateSubmissions _ _ (recordAcceptance_key messageId receivedAt)]
  apply submission_map_congr
  intro row key
  simp [key]

theorem item_recordAccepted (submissionId messageId : String) (receivedAt : ℚ) :
    (recordAccepted submissionId messageId receivedAt db).item id =
      (db.moveItem submissionId [.localQueued, .submitting, .submittedUnknown] .submitted).item
        id := rfl

theorem change_copied
    (body : (∃ submissionId messageId, event.body = .accepted submissionId messageId) ∨
      ∃ submissionId, event.body = .rejected submissionId)
    (found : db.submission submissionId = some row) (observed : row.observedUserEventId.isSome)
    (other : id ≠ submissionId) :
    Change db id (.reduce event) (db.view id)
      ⟨(moveObservation runtimeId appState receivedAt row db).submission id, db.item id⟩ := by
  rw [submission_clear id found, if_neg other]
  cases present : db.submission id with
  | some old =>
    rw [Option.some_or, ← present]
    exact .kept _ _
  | none =>
    rw [Option.none_or, Db.view, present]
    split
    next runtime =>
      subst runtime
      exact .copied body found observed
    · exact .kept _ _

variable {exactMapping : Bool}

theorem change_accepted {messageId : String}
    (body : event.body = .accepted submissionId messageId)
    (done : accepted uuid5 exactMapping event.sdkSessionId submissionId messageId
      event.receivedAt db = .ok after) :
    Change db id (.reduce event) (db.view id) (after.view id) := by
  obtain rfl | ⟨row, found, _, _, _, rfl | ⟨userEventId, observed, _, rfl⟩⟩ :=
    accepted_cases done
  · exact .kept _ _
  · simp only [Db.view, submission_recordAccepted, item_recordAccepted]
    by_cases target : id = submissionId
    · subst target
      rw [item_map_moveIf id _ _ _ rfl, found]
      exact (Change.accepted body).of_eq (by simp) rfl
    · rw [item_moveItem_other id _ _ target, submission_map_other]
      · exact .kept _ _
      · intro other _
        simp [target]
  · by_cases target : id = submissionId
    · subst target
      simp only [Db.view, submission_recordAccepted, item_recordAccepted,
        item_map_moveIf id _ _ _ rfl, item_moveObservation, submission_clear id found, found]
      exact (Change.corrected body).of_eq
        (by simp [clearObservation, acceptableStates]) rfl
    · simp only [Db.view, submission_recordAccepted, item_recordAccepted,
        item_moveItem_other id _ _ target, item_moveObservation]
      rw [submission_map_other]
      · exact change_copied id (.inl ⟨submissionId, messageId, body⟩) found
          (by simp [observed]) target
      · intro other _
        simp [target]

theorem change_acceptanceUnknown (body : event.body = .acceptanceUnknown submissionId) :
    Change db id (.reduce event) (db.view id)
      ((acceptanceUnknown submissionId event.receivedAt db).view id) := by
  simp only [acceptanceUnknown, Db.view, submission_moveItem, submission_updateSubmissions,
    implies_true]
  by_cases target : id = submissionId
  · subst target
    rw [item_map_moveIf id _ _ _ rfl, item_updateSubmissions]
    refine (Change.doubted body).of_eq ?_ ?_
    · apply submission_map_congr
      intro row key
      simp [key]
    · -- whether the submission is evidenced does not change
      cases found : db.submission id with
      | none => rfl
      | some row =>
        by_cases settles : row.state ≠ .rejected ∧ row.evidenced = false
        · have unevidenced := evidenced_eq_false.mp settles.2
          simp [submission_key found, settles, Submission.evidenced, unevidenced]
        · simp [submission_key found, settles]
  · rw [item_moveItem_other id _ _ target, item_updateSubmissions, submission_map_other]
    · exact .kept _ _
    · intro row key
      simp [key, target]

theorem change_rejected (body : event.body = .rejected submissionId)
    (done : rejected uuid5 event.sdkSessionId submissionId event.receivedAt db = .ok after) :
    Change db id (.reduce event) (db.view id) (after.view id) := by
  obtain rfl | ⟨row, found, session, unsettled,
    ⟨accepted, rfl⟩ | ⟨unaccepted, _, rfl⟩ | ⟨userEventId, unaccepted, observed, rfl⟩⟩ :=
    rejected_cases done
  · exact .kept _ _
  · simp only [Db.view, submission_moveItem]
    by_cases target : id = submissionId
    · subst target
      rw [item_map_moveIf id _ _ _ rfl, found]
      exact .refused body accepted
    · rw [item_moveItem_other id _ _ target]
      exact .kept _ _
  · simp only [Db.view, submission_moveItem, submission_updateSubmissions, implies_true]
    by_cases target : id = submissionId
    · subst target
      rw [item_map_moveIf id _ _ _ rfl, item_updateSubmissions, found, Option.map_some,
        if_pos (by simp [submission_key found])]
      exact .rejected body session unaccepted unsettled ⟨rfl, rfl⟩ rfl
    · rw [item_moveItem_other id _ _ target, item_updateSubmissions, submission_map_other]
      · exact .kept _ _
      · intro other key
        simp [key, target]
  · simp only [Db.view, submission_moveItem]
    by_cases target : id = submissionId
    · subst target
      rw [item_map_moveIf id _ _ _ rfl, item_moveObservation, submission_clear id found,
        if_pos rfl, found]
      exact .rejected body session unaccepted unsettled ⟨rfl, rfl⟩ rfl
    · rw [item_moveItem_other id _ _ target, item_moveObservation]
      exact change_copied id (.inr ⟨submissionId, body⟩) found (by simp [observed]) target

/-! User messages -/

/-- The row of `_observe_submission`. -/
def observeRow (eventId : String) (receivedAt : ℚ) (row : Submission) : Submission :=
  { row with
    state := .observedActive
    observedUserEventId := row.observedUserEventId.or (some eventId)
    observedAt := row.observedAt.or (some receivedAt)
    terminalAt := none }

theorem evidenced_observeRow (eventId : String) (receivedAt : ℚ) (row : Submission) :
    (observeRow eventId receivedAt row).evidenced = true := by
  simp [observeRow, Submission.evidenced]

theorem submission_observeSubmission (sdkSessionId submissionId eventId : String)
    (continuation : Bool) (receivedAt : ℚ) :
    (observeSubmission sdkSessionId submissionId eventId continuation receivedAt db).submission
        id =
      (db.submission id).map fun row =>
        if id = submissionId ∧ row.sdkSessionId = sdkSessionId then
          observeRow eventId receivedAt row
        else row := by
  simp only [observeSubmission, submission_insertSegment, submission_moveItem,
    submission_updateSubmissions, implies_true]
  apply submission_map_congr
  intro row key
  simp [key, observeRow]

theorem item_observeSubmission (sdkSessionId submissionId eventId : String)
    (continuation : Bool) (receivedAt : ℚ) :
    (observeSubmission sdkSessionId submissionId eventId continuation receivedAt db).item id =
      (db.moveItem submissionId [.outcomeUnknown] .submitted).item id := by
  simp only [observeSubmission, item_insertSegment, item_moveItem, item_updateSubmissions]

variable {message : UserMessage}

theorem change_observed (body : event.body = .userMessage message)
    (sdkSessionId submissionId eventId : String) (continuation : Bool) (receivedAt : ℚ) :
    Change db id (.reduce event) (db.view id)
      ((observeSubmission sdkSessionId submissionId eventId continuation receivedAt db).view
        id) := by
  simp only [Db.view, submission_observeSubmission, item_observeSubmission]
  by_cases target : id = submissionId
  · rw [item_map_moveIf id _ _ _ target]
    cases db.submission id with
    | none => exact .noticed body
    | some row =>
      rw [Option.map_some]
      split
      · exact .observed body ⟨rfl, rfl⟩ rfl (evidenced_observeRow ..)
      · exact .noticed body
  · rw [item_moveItem_other id _ _ target, submission_map_other]
    · exact .kept _ _
    · intro row _
      simp [target]

theorem change_created (body : event.body = .userMessage message) (eventId : String)
    (receivedAt : ℚ) :
    Change db id (.reduce event) (db.view id)
      ((createRuntimeObservedSubmission uuid5 event.sdkSessionId eventId message receivedAt
        db).view id) := by
  by_cases target : id = runtimeObservedId uuid5 event.sdkSessionId eventId
  · simp only [createRuntimeObservedSubmission, Db.view, submission_observeSubmission,
      item_observeSubmission, submission_insertSubmission, item_map_moveIf id _ _ _ target,
      item_insertSubmission]
    cases db.submission id with
    | none =>
      rw [Option.none_or, if_pos target.symm, Option.map_some, if_pos ⟨target, rfl⟩]
      exact .created body rfl (evidenced_observeRow ..)
    | some row =>
      rw [Option.some_or, Option.map_some]
      split
      · exact .observed body ⟨rfl, rfl⟩ rfl (evidenced_observeRow ..)
      · exact .noticed body
  · simp only [createRuntimeObservedSubmission, Db.view, submission_observeSubmission,
      item_observeSubmission, submission_insertSubmission, item_moveItem_other id _ _ target,
      item_insertSubmission, if_neg (Ne.symm target), Option.or_none]
    rw [submission_map_other]
    · exact .kept _ _
    · intro row _
      simp [target]

theorem change_userMessage {eventId : String} (body : event.body = .userMessage message) :
    Change db id (.reduce event) (db.view id)
      ((applyUserMessage uuid5 exactMapping event.sdkSessionId eventId message
        event.receivedAt db).view id) := by
  unfold applyUserMessage
  dsimp only
  split
  · exact change_created id body ..
  · split
    · split
      · exact change_observed id body ..
      · split
        · exact change_observed id body ..
        · exact change_created id body ..
    · split
      · exact change_observed id body ..
      · exact change_created id body ..

/-! The end of a loop -/

/-- The row of a running submission at `session.idle`. -/
def idleRow (aborted : Bool) (receivedAt : ℚ) (row : Submission) : Submission :=
  { row with
    state := idleState aborted row
    terminalAt :=
      if idleState aborted row ∈ [.observedAborted, .semanticBlocked] then some receivedAt
      else row.terminalAt }

theorem submission_settleLoops (sdkSessionId : String) (aborted : Bool) (receivedAt : ℚ) :
    (settleLoops sdkSessionId aborted receivedAt db).submission id =
      (db.submission id).map fun row =>
        if row.sdkSessionId = sdkSessionId ∧
            row.state ∈ [.observedActive, .continuationExpected] then
          idleRow aborted receivedAt row
        else row := by
  simp only [settleLoops, submission_updateSubmissions, submission_updateSegments, implies_true]
  apply submission_map_congr
  intro row _
  simp [idleRow]

@[simp] theorem item_settleLoops (sdkSessionId : String) (aborted : Bool) (receivedAt : ℚ) :
    (settleLoops sdkSessionId aborted receivedAt db).item id = db.item id := rfl

theorem idleState_not_sent (aborted : Bool) (row : Submission) :
    idleState aborted row ∉ sentStates := by
  unfold idleState sentStates
  split
  · simp
  · split
    · simp
    · split <;> simp

/-- The rows of an uncorrelated submission. -/
def orphanRow (receivedAt : ℚ) (row : Submission) : Submission :=
  { row with state := .outcomeUnknown, terminalAt := row.terminalAt.or (some receivedAt) }

theorem view_applySessionIdle (sdkSessionId : String) (aborted : Bool) (receivedAt : ℚ)
    {settled : Option Submission}
    (loops : (settleLoops sdkSessionId aborted receivedAt db).submission id = settled)
    {orphan : Bool} (orphans : settled.any (uncorrelated sdkSessionId receivedAt
      (settleLoops sdkSessionId aborted receivedAt db)) = orphan) :
    (applySessionIdle sdkSessionId aborted receivedAt db).view id =
      ⟨settled.map fun row => if orphan then orphanRow receivedAt row else row,
        (db.item id).map fun item =>
          if orphan then moveIf [.submitting, .submitted, .submittedUnknown] .outcomeUnknown item
          else item⟩ := by
  simp only [applySessionIdle, Db.view, submission_updateSubmissions, submission_updateQueue,
    item_updateSubmissions, item_updateQueue, implies_true, item_settleLoops, loops]
  rw [View.mk.injEq]
  constructor
  · subst orphans
    cases settled with
    | none => rfl
    | some row => simp [orphanRow]
  · apply item_map_congr
    intro item key
    simp only [key, loops, orphans]
    cases orphan <;> simp [moveIf, key]

theorem change_sessionIdle {aborted : Bool} (body : event.body = .sessionIdle aborted) :
    Change db id (.reduce event) (db.view id)
      ((applySessionIdle event.sdkSessionId aborted event.receivedAt db).view id) := by
  have loops : (settleLoops event.sdkSessionId aborted event.receivedAt db).submission id = _ :=
    submission_settleLoops id event.sdkSessionId aborted event.receivedAt
  cases found : db.submission id with
  | none =>
    rw [view_applySessionIdle id _ _ _ loops rfl, Db.view, found]
    exact (Change.kept _ _).of_eq rfl (by simp)
  | some row =>
    rw [found, Option.map_some] at loops
    by_cases running : row.sdkSessionId = event.sdkSessionId ∧
        row.state ∈ [.observedActive, .continuationExpected]
    · rw [if_pos running] at loops
      have correlated : (some (idleRow aborted event.receivedAt row)).any
          (uncorrelated event.sdkSessionId event.receivedAt
            (settleLoops event.sdkSessionId aborted event.receivedAt db)) = false := by
        simp [uncorrelated, idleRow, idleState_not_sent]
      rw [view_applySessionIdle id _ _ _ loops correlated, Db.view, found]
      have idled : Change db id (.reduce event) ⟨some row, db.item id⟩
          ⟨some (idleRow aborted event.receivedAt row), db.item id⟩ :=
        .idled body running.2 ⟨rfl, rfl⟩ rfl rfl
      exact idled.of_eq rfl (by simp)
    · rw [if_neg running] at loops
      cases orphan : uncorrelated event.sdkSessionId event.receivedAt
          (settleLoops event.sdkSessionId aborted event.receivedAt db) row with
      | false =>
        rw [view_applySessionIdle id _ _ _ loops (by simpa using orphan), Db.view, found]
        exact (Change.kept _ _).of_eq rfl (by simp)
      | true =>
        rw [view_applySessionIdle id _ _ _ loops (by simpa using orphan), Db.view, found]
        obtain ⟨session, unobserved, created, sent, present⟩ := of_decide_eq_true orphan
        rw [item_settleLoops, submission_key found] at present
        obtain ⟨item, queued⟩ := Option.isSome_iff_exists.mp present
        rw [queued]
        exact .orphaned body session unobserved created sent ⟨rfl, rfl⟩ rfl rfl

theorem change_taskComplete {outcome : Option TaskOutcome} {objectiveId : Option String}
    (body : event.body = .taskComplete outcome objectiveId) :
    Change db id (.reduce event) (db.view id)
      ((applyTaskComplete event.sdkSessionId outcome objectiveId db).view id) := by
  have tasked : ∀ (hit : Submission → Bool), Change db id (.reduce event) (db.view id)
      ((db.updateSubmissions hit (completeTask outcome)).view id) := by
    intro hit
    rw [Db.view, Db.view, submission_updateSubmissions _ _ (completeTask_key outcome),
      item_updateSubmissions]
    cases db.submission id with
    | none => exact .kept _ _
    | some row =>
      rw [Option.map_some]
      split
      · refine .tasked (.inl ⟨outcome, objectiveId, body⟩) ⟨rfl, rfl⟩ rfl ?_
        rw [completeTask]
        split
        · exact .inr rfl
        · exact .inl rfl
      · exact .kept _ _
  unfold applyTaskComplete
  dsimp only
  split
  · split
    · exact tasked _
    · exact tasked _
  · exact .kept _ _

theorem change_autopilotObjective {objectiveId : String} {status : Option String}
    (body : event.body = .autopilotObjective submissionId objectiveId status) :
    Change db id (.reduce event) (db.view id)
      ((applyAutopilotObjective submissionId objectiveId status db).view id) := by
  simp only [applyAutopilotObjective, Db.view, submission_updateSubmissions,
    item_updateSubmissions, implies_true]
  cases db.submission id with
  | none => exact .kept _ _
  | some row =>
    rw [Option.map_some]
    split
    · exact .tasked (.inr ⟨submissionId, objectiveId, status, body⟩) ⟨rfl, rfl⟩ rfl (.inl rfl)
    · exact .kept _ _

variable {quiet : List (String × Links)}

theorem change_quietSnapshot {settledAt : ℚ} (body : event.body = .quietSnapshot quiet settledAt) :
    Change db id (.reduce event) (db.view id)
      ((settleLinkedLoopIdle event.sdkSessionId quiet settledAt db).view id) := by
  simp only [settleLinkedLoopIdle, Db.view, submission_updateSubmissions,
    submission_updateSegments, item_updateSubmissions, item_updateSegments, implies_true]
  cases db.submission id with
  | none => exact .kept _ _
  | some row =>
    rw [Option.map_some]
    cases state : settles event.sdkSessionId quiet row with
    | none => exact (Change.kept _ _).of_eq (by simp) rfl
    | some settled =>
      have change : Change db id (.reduce event) ⟨some row, db.item id⟩
          ⟨some { row with state := settled, terminalAt := some settledAt }, db.item id⟩ :=
        .settled body state ⟨rfl, rfl⟩ rfl
      exact change.of_eq (by simp) rfl

theorem change_taskEvidence {evidenceTime : ℚ}
    (body : event.body = .taskEvidence submissionId evidenceTime) :
    Change db id (.reduce event) (db.view id)
      ((reopenSubmission event.sdkSessionId submissionId evidenceTime db).view id) := by
  simp only [reopenSubmission, Db.view, submission_updateSubmissions,
    submission_updateSegments, item_updateSubmissions, item_updateSegments, implies_true]
  cases db.submission id with
  | none => exact .kept _ _
  | some row =>
    rw [Option.map_some]
    split
    next reopens =>
      simp only [decide_eq_true_eq] at reopens
      exact .reopened body reopens.2.2.1 ⟨rfl, rfl⟩ rfl rfl
    · exact .kept _ _

/-! Writers outside the reducer -/

theorem change_contentUnavailable (submissionId : String) (now : ℚ) :
    Change db id (.contentUnavailable submissionId now) (db.view id)
      ((markQueueContentUnavailable submissionId now db).view id) := by
  simp only [markQueueContentUnavailable, Db.view, submission_updateSubmissions,
    submission_updateQueue, item_updateSubmissions, item_updateQueue, implies_true]
  by_cases target : id = submissionId
  · subst target
    refine Change.contentLost.of_eq ?_ ?_
    · apply submission_map_congr
      intro row key
      simp [key]
    · apply item_map_congr
      intro item key
      simp [key]
  · rw [submission_map_other, item_map_other]
    · exact .kept _ _
    · intro item key
      simp [key, target]
    · intro row key
      simp [key, target]

theorem change_requeue (sdkSessionId submissionId operationId : String) (dispatchAttempt : Nat) :
    Change db id (.requeue sdkSessionId submissionId operationId dispatchAttempt) (db.view id)
      ((requeuePreSend sdkSessionId submissionId operationId dispatchAttempt db).2.view id) := by
  unfold requeuePreSend
  split
  next row item found also =>
    obtain ⟨looked, _⟩ := submissionOf_eq_some.mp found
    split
    · exact .kept _ _
    · split
      · exact .kept _ _
      next current =>
        split
        · exact .kept _ _
        next own =>
          simp only [Db.view, submission_updateSubmissions, submission_updateQueue,
            item_updateSubmissions, item_updateQueue, implies_true]
          by_cases target : id = submissionId
          · subst target
            rw [looked, also, Option.map_some, Option.map_some,
              if_pos (by simp [submission_key looked]), if_pos (by simp [item_key also])]
            simp only [not_or, not_not, Bool.not_eq_true] at current
            exact .requeued current.1 current.2 (by simpa using own)
          · rw [submission_map_other, item_map_other]
            · exact .kept _ _
            · intro item key
              simp [key, target]
            · intro row key
              simp [key, target]
  · exact .kept _ _

theorem change_recover (lost expired : List String) (now : ℚ) :
    Change db id (.recover lost expired now) (db.view id)
      ((startupRecovery lost expired now db).view id) := by
  simp only [startupRecovery, Db.view,
    submission_updateSubmissions _ _ (loseOwner_key now), submission_updateSubmissions,
    submission_updateQueue, item_updateSubmissions, item_updateQueue, implies_true,
    Option.map_map]
  refine (Change.recovered (decide (id ∈ lost ∧
    (db.item id).any (·.state ∈ recoverableStates) = true)) (by simp)).of_eq ?_ ?_
  · apply submission_map_congr
    intro row key
    by_cases gone : (id ∈ lost ∧ (db.item id).any (·.state ∈ recoverableStates) = true) ∧
        row.state = .localQueued
    · simp [key, gone, activeStates]
    · simp [key, gone]
  · apply item_map_congr
    intro item key
    simp [key]

theorem change_takeover (sdkSessionId : String) (now : ℚ) :
    Change db id (.takeover sdkSessionId now) (db.view id)
      ((takeover sdkSessionId now db).view id) := by
  simp only [takeover, Db.view, submission_updateSubmissions _ _ (loseOwner_key now),
    submission_updateQueue, item_updateSubmissions, item_updateQueue, implies_true]
  refine Change.takenOver.of_eq ?_ ?_
  · simp
  · apply item_map_congr
    intro item key
    have leaves : ((db.updateSubmissions
        (fun row => row.sdkSessionId = sdkSessionId ∧ row.state ∈ activeStates)
        (loseOwner now)).submissionOf sdkSessionId id).any (·.state = .submittedUnknown) =
        (db.submission id).any fun row => row.sdkSessionId = sdkSessionId ∧
          row.state ∈ [.submitting, .submitted] := by
      rw [Db.submissionOf, submission_updateSubmissions _ _ (loseOwner_key now)]
      cases db.submission id with
      | none => rfl
      | some row =>
        cases state : row.state <;>
          by_cases session : row.sdkSessionId = sdkSessionId <;>
            simp [activeStates, loseOwner, lostState, state, session, Option.filter]
    simp only [key, leaves]
    simp

/-! The inversion -/

theorem change_applyDomainState (done : applyDomainState uuid5 event db = .ok after) :
    Change db id (.reduce event) (db.view id) (after.view id) := by
  unfold applyDomainState at done
  split at done
  next data body =>
    cases done
    exact change_queued id body
  next data body => exact change_submitting id body done
  next ids states body =>
    cases done
    exact change_cancelQueued id body
  next submissionId body =>
    cases done
    exact change_preSendDeferred id body
  next data body => exact change_queueReplaced id body done
  next submissionId reason body =>
    cases done
    exact change_queueBlocked id body
  next body =>
    cases done
    exact change_activeUnknown id body
  next submissionId messageId body => exact change_accepted id body done
  next submissionId body =>
    cases done
    exact change_acceptanceUnknown id body
  next submissionId body => exact change_rejected id body done
  next message body =>
    split at done
    · cases done
    · cases done
      exact change_userMessage id body
  next aborted body =>
    cases done
    exact change_sessionIdle id body
  next outcome objectiveId body =>
    cases done
    exact change_taskComplete id body
  next submissionId objectiveId status body =>
    cases done
    exact change_autopilotObjective id body
  next quiet settledAt body =>
    cases done
    exact change_quietSnapshot id body
  next submissionId evidenceTime body =>
    cases done
    exact change_taskEvidence id body

theorem change_persist (done : persist uuid5 event db = .ok after) :
    Change db id (.reduce event) (db.view id) (after.view id) := by
  unfold persist at done
  split at done
  · cases done
    exact .kept _ _
  · obtain ⟨applied, handled, rest⟩ := bind_ok done
    cases rest
    have change := change_applyDomainState id handled
    exact change

theorem change_of_write (done : write uuid5 db writer = some after) :
    Change db id writer (db.view id) (after.view id) := by
  cases writer with
  | reduce event => exact change_persist id (persist_of_write done)
  | contentUnavailable submissionId now =>
    cases done
    exact change_contentUnavailable id submissionId now
  | requeue sdkSessionId submissionId operationId dispatchAttempt =>
    cases done
    exact change_requeue id _ _ _ _
  | recover lost expired now =>
    cases done
    exact change_recover id _ _ _
  | takeover sdkSessionId now =>
    cases done
    exact change_takeover id _ _

/-! ## Submissions that were not sent -/

/-- A submission that waits for its send carries no evidence of one. -/
def Submission.unsent (row : Submission) : Prop :=
  row.state ∈ [.localQueued, .submitting] → row.evidenced = false

def Unsent (db : Db) : Prop := ∀ id row, db.submission id = some row → row.unsent

variable {state : SubmissionState}

theorem left_waiting (left : state ∉ [.localQueued, .submitting]) :
    state ≠ .localQueued ∧ state ≠ .submitting := by
  simpa using left

theorem acceptance_left (messageId : String) (receivedAt : ℚ) (row : Submission) :
    (if row.state ∈ acceptableStates then recordAcceptance messageId receivedAt row
      else row).state ∉ [.localQueued, .submitting] := by
  split
  · simp only [recordAcceptance]
    split
    · simp
    next other =>
      simp only [List.mem_cons, List.not_mem_nil, or_false, not_or] at other ⊢
      exact ⟨other.1, other.2.1⟩
  next other =>
    intro inside
    simp only [List.mem_cons, List.not_mem_nil, or_false] at inside
    rcases inside with waits | sends
    · simp [waits, acceptableStates] at other
    · simp [sends, acceptableStates] at other

theorem unsent_of_state (state : row.state ∉ [.localQueued, .submitting]) :
    row.unsent :=
  fun waits => absurd waits state

theorem settles_states {sdkSessionId : String}
    (settles : settles sdkSessionId quiet row = some state) :
    row.state = .loopIdle ∧ (state = .semanticComplete ∨ state = .semanticBlocked) := by
  unfold Submissions.settles at settles
  split at settles
  next idle =>
    refine ⟨idle.2, ?_⟩
    obtain ⟨links, _, quietly⟩ := Option.bind_eq_some_iff.mp settles
    unfold quietState at quietly
    split at quietly
    · cases quietly
      exact .inr rfl
    · cases quietly
      exact .inl rfl
    · split at quietly
      · cases quietly
      · cases quietly
        exact .inl rfl
  · cases settles

theorem idleState_not_waiting (aborted : Bool) (row : Submission) :
    idleState aborted row ∉ [.localQueued, .submitting] := by
  unfold idleState
  split
  · simp
  · split
    · simp
    · split <;> simp

theorem lostState_not_waiting (state : SubmissionState) :
    lostState state ∉ [.localQueued, .submitting] := by
  unfold lostState
  split <;> simp

theorem unsent_ite {condition : Prop} [Decidable condition] {other : Submission}
    (kept : row.unsent) (state : other.state ∉ [.localQueued, .submitting]) :
    (if condition then other else row).unsent := by
  split
  · exact unsent_of_state state
  · exact kept

theorem Change.unsent {id : String} (change : Change db id writer view result)
    (unsent : Unsent db) (before : ∀ row, view.row = some row → row.unsent) :
    ∀ row, result.row = some row → row.unsent := by
  intro row now
  cases change with
  | kept | postponed | blocked | refused | noticed => exact before row now
  | inserted body new queued =>
    rcases Option.or_eq_some_iff.mp now with old | ⟨_, fresh⟩
    · exact before row old
    · cases fresh
      exact fun _ => new.2.1
  | retired | forgotten =>
    cases now
    exact unsent_of_state (by simp)
  | claimed body target session waiting queued =>
    cases now
    intro _
    have unevidenced := before _ rfl (by simp [waiting])
    exact unevidenced
  | cancelled | doubted | contentLost =>
    obtain ⟨old, found, rfl⟩ := Option.map_eq_some_iff.mp now
    exact unsent_ite (before old found) (by simp)
  | deferred body sending unevidenced =>
    cases now
    exact fun _ => unevidenced
  | requeued attempt unevidenced =>
    cases now
    exact fun _ => unevidenced
  | accepted =>
    cases now
    exact unsent_of_state (acceptance_left _ _ _)
  | corrected =>
    cases now
    exact unsent_of_state (by simp [recordAcceptance, clearObservation])
  | copied body stored observed =>
    cases now
    intro waits
    have unevidenced := unsent _ _ stored waits
    rw [Submission.evidenced, observed] at unevidenced
    cases unevidenced
  | rejected body session unaccepted unsettled same state =>
    cases now
    exact unsent_of_state (by simp [state])
  | observed body same state =>
    cases now
    exact unsent_of_state (by simp [state])
  | created body state =>
    cases now
    exact unsent_of_state (by simp [state])
  | idled body running same evidence state =>
    cases now
    exact unsent_of_state (state ▸ idleState_not_waiting _ _)
  | orphaned body session unobserved created sent same evidence state =>
    cases now
    exact unsent_of_state (by simp [state])
  | tasked body same evidence state =>
    cases now
    intro waits
    rcases state with state | state
    · rw [evidence]
      exact before _ rfl (state ▸ waits)
    · simp [state] at waits
  | settled body settles same evidence =>
    cases now
    rcases (settles_states settles).2 with state | state
    · exact unsent_of_state (by simp [state])
    · exact unsent_of_state (by simp [state])
  | reopened body complete same evidence state =>
    cases now
    exact unsent_of_state (by simp [state])
  | recovered =>
    obtain ⟨old, found, rfl⟩ := Option.map_eq_some_iff.mp now
    exact unsent_ite (unsent_ite (before old found) (lostState_not_waiting _)) (by simp)
  | takenOver =>
    obtain ⟨old, found, rfl⟩ := Option.map_eq_some_iff.mp now
    exact unsent_ite (before old found) (lostState_not_waiting _)

theorem unsent_write (unsent : Unsent db) (done : write uuid5 db writer = some after) :
    Unsent after := by
  intro id row found
  exact (change_of_write id done).unsent unsent (unsent id) row found

theorem unsent_run {writers : List Writer}
    (reached : Copilotd.Base.Run.run (write uuid5) {} writers = some db) : Unsent db := by
  refine Copilotd.Base.Run.run_inv (fun _ _ _ unsent done => unsent_write unsent done) ?_ reached
  intro id row found
  cases found

/-! ## The primary key of the queue -/

def queueIds (db : Db) : List String := db.queue.map (·.id)

@[simp] theorem queueIds_updateSubmissions (hit : Submission → Bool)
    (set : Submission → Submission) : queueIds (db.updateSubmissions hit set) = queueIds db := rfl

@[simp] theorem queueIds_updateSegments (hit : Segment → Bool) (set : Segment → Segment) :
    queueIds (db.updateSegments hit set) = queueIds db := rfl

@[simp] theorem queueIds_insertSubmission (row : Submission) :
    queueIds (db.insertSubmission row) = queueIds db := by
  rw [queueIds, insertSubmission_queue, queueIds]

@[simp] theorem queueIds_insertSegment (segment : Segment) :
    queueIds (db.insertSegment segment) = queueIds db := by
  rw [queueIds, insertSegment_queue, queueIds]

@[simp] theorem queueIds_updateQueue {hit : QueueItem → Bool}
    (same : ∀ item, (set item).id = item.id) : queueIds (db.updateQueue hit set) = queueIds db :=
  map_updateWhere same db.queue

@[simp] theorem queueIds_moveItem (target : String) (fromStates : List QueueState)
    (state : QueueState) : queueIds (db.moveItem target fromStates state) = queueIds db :=
  queueIds_updateQueue (by intro item; rfl)

@[simp] theorem queueIds_settleLoops (sdkSessionId : String) (aborted : Bool) (receivedAt : ℚ) :
    queueIds (settleLoops sdkSessionId aborted receivedAt db) = queueIds db := rfl

theorem nodup_insertItem (item : QueueItem) (keyed : (queueIds db).Nodup) :
    (queueIds (db.insertItem item)).Nodup := by
  unfold Db.insertItem
  split
  · exact keyed
  next absent =>
    have fresh : ∀ other ∈ db.queue, other.id ≠ item.id := by
      have none : db.item item.id = none := by simpa using absent
      exact lookup_eq_none.mp none
    exact nodup_insert keyed fresh

@[simp] theorem queueIds_moveObservation (runtimeId : String) (appState : SubmissionState)
    (receivedAt : ℚ) (row : Submission) :
    queueIds (moveObservation runtimeId appState receivedAt row db) = queueIds db := by
  simp [moveObservation]

@[simp] theorem queueIds_recordAccepted (submissionId messageId : String) (receivedAt : ℚ) :
    queueIds (recordAccepted submissionId messageId receivedAt db) = queueIds db :=
  queueIds_moveItem submissionId _ _

@[simp] theorem queueIds_observeSubmission (sdkSessionId submissionId eventId : String)
    (continuation : Bool) (receivedAt : ℚ) :
    queueIds (observeSubmission sdkSessionId submissionId eventId continuation receivedAt db) =
      queueIds db := by
  simp [observeSubmission]

theorem queueIds_applyUserMessage (exactMapping : Bool) (sdkSessionId eventId : String)
    (message : UserMessage) (receivedAt : ℚ) :
    queueIds (applyUserMessage uuid5 exactMapping sdkSessionId eventId message receivedAt db) =
      queueIds db := by
  have created : queueIds (createRuntimeObservedSubmission uuid5 sdkSessionId eventId message
      receivedAt db) = queueIds db := by
    simp [createRuntimeObservedSubmission]
  unfold applyUserMessage
  dsimp only
  split
  · exact created
  · split
    · split
      · exact queueIds_observeSubmission ..
      · split
        · exact queueIds_observeSubmission ..
        · exact created
    · split
      · exact queueIds_observeSubmission ..
      · exact created

theorem nodup_applyDomainState (keyed : (queueIds db).Nodup)
    (done : applyDomainState uuid5 event db = .ok after) : (queueIds after).Nodup := by
  unfold applyDomainState at done
  split at done
  · cases done
    unfold queued
    split
    · exact keyed
    · exact nodup_insertItem _ (by simpa using keyed)
  · unfold submitting at done
    dsimp only at done
    split at done
    · cases done
      simpa using keyed
    · split at done
      · cases done
        exact keyed
      · split at done
        · cases done
        · cases done
          simpa using keyed
  · cases done
    unfold cancelQueued
    split
    · exact keyed
    · simpa using keyed
  · cases done
    unfold preSendDeferred
    dsimp only
    split
    · exact keyed
    · simpa using keyed
  · unfold queueReplaced at done
    split at done
    · cases done
      exact keyed
    · split at done
      · cases done
        exact nodup_insertItem _ (by simpa [retireItem] using keyed)
      · split at done
        · cases done
          exact keyed
        · cases done
  · cases done
    simpa [queueBlocked] using keyed
  · cases done
    exact keyed
  · obtain rfl | ⟨row, _, _, _, _, rfl | ⟨userEventId, _, _, rfl⟩⟩ := accepted_cases done
    · exact keyed
    · simpa using keyed
    · simpa using keyed
  · cases done
    simpa [acceptanceUnknown] using keyed
  · obtain rfl | ⟨row, _, _, _, ⟨_, rfl⟩ | ⟨_, _, rfl⟩ | ⟨userEventId, _, _, rfl⟩⟩ :=
      rejected_cases done
    · exact keyed
    · simpa using keyed
    · simpa using keyed
    · simpa using keyed
  · split at done
    · cases done
    · cases done
      rw [queueIds_applyUserMessage]
      exact keyed
  · cases done
    simpa [applySessionIdle] using keyed
  · cases done
    unfold applyTaskComplete
    dsimp only
    split
    · split
      · exact keyed
      · exact keyed
    · exact keyed
  · cases done
    exact keyed
  · cases done
    exact keyed
  · cases done
    exact keyed

theorem nodup_write (keyed : (queueIds db).Nodup) (done : write uuid5 db writer = some after) :
    (queueIds after).Nodup := by
  cases writer with
  | reduce event =>
    have persisted := persist_of_write done
    unfold persist at persisted
    split at persisted
    · cases persisted
      exact keyed
    · obtain ⟨applied, handled, rest⟩ := bind_ok persisted
      cases rest
      have kept := nodup_applyDomainState keyed handled
      exact kept
  | contentUnavailable submissionId now =>
    cases done
    simpa [markQueueContentUnavailable] using keyed
  | requeue sdkSessionId submissionId operationId dispatchAttempt =>
    cases done
    unfold requeuePreSend
    split
    · split
      · exact keyed
      · split
        · exact keyed
        · split
          · exact keyed
          · simpa using keyed
    · exact keyed
  | recover lost expired now =>
    cases done
    simpa [startupRecovery] using keyed
  | takeover sdkSessionId now =>
    cases done
    simpa [takeover] using keyed

end Copilotd.Source.Core.Submissions
