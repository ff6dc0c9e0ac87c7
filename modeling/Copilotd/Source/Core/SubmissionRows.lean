import Copilotd.Source.Core.SubmissionViews

/-!
# Which rows a transaction adds, and which row it observes

No statement touches the columns that say whose submission a row is, and a transaction inserts
one submission at most, under a new key.  A user message observes one submission, and a finished
task continues one.
-/
namespace Copilotd.Source.Core.Submissions

open Base
open Source.Storage (SubmissionState)

variable {uuid5 : String → String}

/-! ## Whose submission a row is -/

/-- The columns that no statement touches. -/
def owner (row : Submission) : String × String × String :=
  (row.submissionId, row.origin, row.sdkSessionId)

def owners (db : Db) : List (String × String × String) := db.submissions.map owner

theorem find_owner (db : Db) (id : String) :
    (owners db).find? (fun columns => columns.1 = id) = (db.submission id).map owner := by
  unfold owners Db.submission Table.lookup
  rw [List.find?_map]
  rfl

/-- No row is added, or one under a new key. -/
inductive Grown (db after : Db) : Prop where
  | same (kept : owners after = owners db)
  | added (row : Submission) (new : db.submission row.submissionId = none)
      (more : owners after = owners db ++ [owner row])

/-- The primary key of `submissions`. -/
def Keyed (db : Db) : Prop := (db.submissions.map (·.submissionId)).Nodup

section Grown

variable {db mid after : Db}

theorem Grown.none : Grown db db := .same rfl

theorem Grown.then (grown : Grown db mid) (kept : owners after = owners mid) : Grown db after := by
  cases grown with
  | same before => exact .same (kept.trans before)
  | added row new more => exact .added row new (kept.trans more)

theorem Grown.behind (kept : owners mid = owners db) (grown : Grown mid after) :
    Grown db after := by
  cases grown with
  | same later => exact .same (later.trans kept)
  | added row new more =>
    refine .added row ?_ (by rw [more, kept])
    have before := find_owner db row.submissionId
    rw [← kept, find_owner, new, Option.map_none] at before
    exact Option.map_eq_none_iff.mp before.symm

theorem Grown.starts (grown : Grown db after) : owners db <+: owners after := by
  cases grown with
  | same kept =>
    exact kept ▸ List.prefix_rfl
  | added row new more => exact ⟨_, more.symm⟩

theorem Grown.kept {id : String} {row kept : Submission} (grown : Grown db after)
    (found : db.submission id = some row) (left : after.submission id = some kept) :
    owner kept = owner row := by
  obtain ⟨more, joined⟩ := grown.starts
  have before := find_owner db id
  have later := find_owner after id
  rw [found, Option.map_some] at before
  rw [left, ← joined, List.find?_append, before, Option.some_or, Option.map_some] at later
  exact (Option.some.inj later).symm

theorem keyed_owners : Keyed db ↔ ((owners db).map (·.1)).Nodup := by
  unfold Keyed owners
  rw [List.map_map]
  rfl

theorem Grown.keyed (grown : Grown db after) (keyed : Keyed db) : Keyed after := by
  rw [keyed_owners] at keyed ⊢
  cases grown with
  | same kept =>
    rw [kept]
    exact keyed
  | added row new more =>
    rw [more]
    refine Table.nodup_insert keyed ?_
    intro columns member same
    obtain ⟨other, there, rfl⟩ := List.mem_map.mp member
    exact Table.lookup_eq_none.mp new other there same

end Grown

section Owners

variable (db : Db)

theorem owners_update {hit : Submission → Bool} {set : Submission → Submission}
    (same : ∀ row, owner (set row) = owner row) :
    owners (db.updateSubmissions hit set) = owners db :=
  Table.map_updateWhere same db.submissions

theorem owners_updateQueue (hit : QueueItem → Bool) (set : QueueItem → QueueItem) :
    owners (db.updateQueue hit set) = owners db := rfl

theorem owners_moveItem (id : String) (fromStates : List QueueState) (state : QueueState) :
    owners (db.moveItem id fromStates state) = owners db := rfl

theorem grown_insert (row : Submission) : Grown db (db.insertSubmission row) := by
  unfold Db.insertSubmission
  split
  · exact .none
  next absent =>
    refine .added row (by simpa using absent) ?_
    rw [owners, List.map_append]
    rfl

theorem owners_insertItem (item : QueueItem) : owners (db.insertItem item) = owners db := by
  rw [owners, insertItem_submissions, owners]

theorem owners_observe (sdkSessionId submissionId eventId : String) (continuation : Bool)
    (receivedAt : ℚ) :
    owners (observeSubmission sdkSessionId submissionId eventId continuation receivedAt db) =
      owners db := by
  rw [observeSubmission, owners, insertSegment_submissions, moveItem_submissions]
  exact owners_update db (by intro row; rfl)

theorem grown_moveObservation (runtimeId : String) (appState : SubmissionState)
    (receivedAt : ℚ) (row : Submission) :
    Grown db (moveObservation runtimeId appState receivedAt row db) := by
  refine (grown_insert db (runtimeCopy runtimeId row)).then ?_
  unfold moveObservation
  rw [owners_update _ (by intro row; rfl)]
  rfl

theorem owners_recordAccepted (submissionId messageId : String) (receivedAt : ℚ) :
    owners (recordAccepted submissionId messageId receivedAt db) = owners db :=
  owners_update db (by intro row; rfl)

theorem grown_userMessage (exactMapping : Bool) (sdkSessionId eventId : String)
    (message : UserMessage) (receivedAt : ℚ) :
    Grown db (applyUserMessage uuid5 exactMapping sdkSessionId eventId message receivedAt db) := by
  have observed : ∀ submissionId continuation, Grown db
      (observeSubmission sdkSessionId submissionId eventId continuation receivedAt db) := by
    intro submissionId continuation
    exact .same (owners_observe ..)
  have created : Grown db (createRuntimeObservedSubmission uuid5 sdkSessionId eventId message
      receivedAt db) := by
    exact (grown_insert db _).then (owners_observe ..)
  unfold applyUserMessage
  dsimp only
  split
  · exact created
  · split
    · split
      · exact observed _ _
      · split
        · exact observed _ _
        · exact created
    · split
      · exact observed _ _
      · exact created

end Owners

theorem grown_applyDomainState {event : Event} {db after : Db}
    (done : applyDomainState uuid5 event db = .ok after) : Grown db after := by
  unfold applyDomainState at done
  split at done
  · cases done
    unfold queued
    split
    · exact .none
    · exact (grown_insert db _).then (owners_insertItem _ _)
  · unfold submitting at done
    dsimp only at done
    split at done
    · cases done
      exact .same rfl
    · split at done
      · cases done
        exact .none
      · split at done
        · cases done
        · cases done
          refine .same ?_
          rw [owners_updateQueue, owners_update _ (by intro row; rfl)]
  · cases done
    unfold cancelQueued
    split
    · exact .none
    · refine .same ?_
      rw [owners_update _ (by intro row; rfl), owners_updateQueue]
  · cases done
    unfold preSendDeferred
    dsimp only
    split
    · exact .none
    · refine .same ?_
      rw [owners_updateQueue, owners_update _ (by intro row; rfl)]
  · unfold queueReplaced at done
    split at done
    · cases done
      exact .none
    · split at done
      · cases done
        have retired : ∀ oldId, owners (retireItem oldId db) = owners db := by
          intro oldId
          rw [retireItem, owners_update _ (by intro row; rfl), owners_updateQueue]
        exact .behind (retired _) ((grown_insert _ _).then (owners_insertItem _ _))
      · split at done
        · cases done
          exact .none
        · cases done
  · cases done
    exact .same rfl
  · cases done
    exact .same (owners_update _ (by intro row; rfl))
  · obtain rfl | ⟨row, _, _, _, _, rfl | ⟨userEventId, _, _, rfl⟩⟩ := accepted_cases done
    · exact .none
    · exact .same (owners_recordAccepted ..)
    · exact (grown_moveObservation ..).then (owners_recordAccepted ..)
  · cases done
    refine .same ?_
    rw [acceptanceUnknown, owners_moveItem, owners_update _ (by intro row; rfl)]
  · obtain rfl | ⟨row, _, _, _, ⟨_, rfl⟩ | ⟨_, _, rfl⟩ | ⟨userEventId, _, _, rfl⟩⟩ :=
      rejected_cases done
    · exact .none
    · exact .same rfl
    · exact .same (owners_update _ (by intro row; rfl))
    · exact (grown_moveObservation ..).then rfl
  · split at done
    · cases done
    · cases done
      exact grown_userMessage ..
  · cases done
    unfold applySessionIdle settleLoops
    refine .same ?_
    rw [owners_update _ (by intro row; rfl), owners_updateQueue,
      owners_update _ (by intro row; rfl)]
    rfl
  · cases done
    unfold applyTaskComplete
    dsimp only
    split
    · split
      · exact .same (owners_update _ (by intro row; rfl))
      · exact .same (owners_update _ (by intro row; rfl))
    · exact .none
  · cases done
    exact .same (owners_update _ (by intro row; rfl))
  · cases done
    refine .same ?_
    rw [settleLinkedLoopIdle, owners_update _ (by intro row; rfl)]
    rfl
  · cases done
    unfold reopenSubmission
    refine .same ?_
    rw [owners_update _ (by intro row; rfl)]
    rfl

theorem reduce_cases {event : Event} {db after : Db}
    (done : write uuid5 db (.reduce event) = some after) :
    after = db ∨ ∃ applied, applyDomainState uuid5 event db = .ok applied ∧
      after = { applied with journal := applied.journal ++ [receipt event] } := by
  simp only [write, persist] at done
  split at done
  · cases done
    exact .inl rfl
  · cases handled : applyDomainState uuid5 event db with
    | error failure =>
      rw [handled] at done
      cases done
    | ok applied =>
      rw [handled] at done
      cases done
      exact .inr ⟨applied, rfl, rfl⟩

theorem grown_write {writer : Writer} {db after : Db} (done : write uuid5 db writer = some after) :
    Grown db after := by
  cases writer with
  | reduce event =>
    obtain rfl | ⟨applied, handled, rfl⟩ := reduce_cases done
    · exact .none
    · exact (grown_applyDomainState handled).then rfl
  | contentUnavailable submissionId now =>
    cases done
    exact .same (owners_update _ (by intro row; rfl))
  | requeue sdkSessionId submissionId operationId dispatchAttempt =>
    cases done
    unfold requeuePreSend
    split
    · split
      · exact .none
      · split
        · exact .none
        · split
          · exact .none
          · refine .same ?_
            rw [owners_updateQueue, owners_update _ (by intro row; rfl)]
    · exact .none
  | recover lost expired now =>
    cases done
    unfold startupRecovery
    refine .same ?_
    rw [owners_update _ (by intro row; rfl), owners_update _ (by intro row; rfl),
      owners_updateQueue]
  | takeover sdkSessionId now =>
    cases done
    unfold takeover
    refine .same ?_
    rw [owners_updateQueue, owners_update _ (by intro row; rfl)]

theorem owner_write {writer : Writer} {db after : Db} {id : String} {row kept : Submission}
    (done : write uuid5 db writer = some after) (found : db.submission id = some row)
    (left : after.submission id = some kept) : owner kept = owner row :=
  (grown_write done).kept found left

/-! ## Which submission a message observes -/

/-- The submission that `_apply_user_message` observes. -/
def messageTarget (uuid5 : String → String) (exactMapping : Bool) (sdkSessionId eventId : String)
    (message : UserMessage) (receivedAt : ℚ) (db : Db) : String :=
  let runtimeId := runtimeObservedId uuid5 sdkSessionId eventId
  let correlated :=
    match correlationCandidates exactMapping sdkSessionId eventId message receivedAt db with
    | [row] => row.submissionId
    | _ => runtimeId
  if message.runtimeScheduleId.isSome then runtimeId
  else if message.isAutopilotContinuation then
    match continuationCandidates sdkSessionId db with
    | [row] => row.submissionId
    | _ => correlated
  else correlated

/-- The candidates of `_apply_task_complete`. -/
def taskCandidates (sdkSessionId : String) (objectiveId : Option String) (db : Db) :
    List Submission :=
  db.submissions.filter fun row => row.sdkSessionId = sdkSessionId ∧
    row.state ∈ runningStates ∧
    (if objectiveId.isSome then row.autopilotObjectiveId = objectiveId
      else row.requestedMode = some "autopilot")

section Observed

variable {db : Db} {id : String} {kept : Submission}

variable {sdkSessionId eventId : String} {receivedAt : ℚ}

theorem observe_row {submissionId : String} {continuation : Bool}
    (left : (observeSubmission sdkSessionId submissionId eventId continuation
      receivedAt db).submission id = some kept) :
    db.submission id = some kept ∨ id = submissionId := by
  rw [submission_observeSubmission] at left
  obtain ⟨row, found, same⟩ := Option.map_eq_some_iff.mp left
  split at same
  next target => exact .inr target.1
  · subst same
    exact .inl found

variable {message : UserMessage}

theorem created_row
    (left : (createRuntimeObservedSubmission uuid5 sdkSessionId eventId message receivedAt
      db).submission id = some kept) :
    db.submission id = some kept ∨ id = runtimeObservedId uuid5 sdkSessionId eventId := by
  rcases observe_row left with same | target
  · rw [submission_insertSubmission] at same
    split at same
    next target => exact .inr target.symm
    · rw [Option.or_none] at same
      exact .inl same
  · exact .inr target

theorem correlated_row {exactMapping : Bool}
    (left :
      (match correlationCandidates exactMapping sdkSessionId eventId message receivedAt db with
      | [row] => observeSubmission sdkSessionId row.submissionId eventId false receivedAt db
      | _ => createRuntimeObservedSubmission uuid5 sdkSessionId eventId message receivedAt
        db).submission id = some kept) :
    db.submission id = some kept ∨
      id = match correlationCandidates exactMapping sdkSessionId eventId message receivedAt db with
        | [row] => row.submissionId
        | _ => runtimeObservedId uuid5 sdkSessionId eventId := by
  rcases shape : correlationCandidates exactMapping sdkSessionId eventId message receivedAt db with
    _ | ⟨row, _ | ⟨other, more⟩⟩
  · rw [shape] at left
    exact created_row left
  · rw [shape] at left
    exact observe_row left
  · rw [shape] at left
    exact created_row left

theorem message_row {exactMapping : Bool}
    (left : (applyUserMessage uuid5 exactMapping sdkSessionId eventId message
      receivedAt db).submission id = some kept) :
    db.submission id = some kept ∨
      id = messageTarget uuid5 exactMapping sdkSessionId eventId message receivedAt db := by
  unfold applyUserMessage at left
  unfold messageTarget
  dsimp only at left ⊢
  by_cases scheduled : message.runtimeScheduleId.isSome = true
  · rw [if_pos scheduled] at left ⊢
    exact created_row left
  · rw [if_neg scheduled] at left ⊢
    by_cases continues : message.isAutopilotContinuation = true
    · rw [if_pos continues] at left ⊢
      rcases shape : continuationCandidates sdkSessionId db with _ | ⟨row, _ | ⟨other, more⟩⟩
      · rw [shape] at left
        exact correlated_row left
      · rw [shape] at left
        exact observe_row left
      · rw [shape] at left
        exact correlated_row left
    · rw [if_neg continues] at left ⊢
      exact correlated_row left

theorem task_row {outcome : Option TaskOutcome}
    {objectiveId : Option String} (left : (applyTaskComplete sdkSessionId outcome objectiveId
      db).submission id = some kept) :
    (∃ row, db.submission id = some row ∧ kept.state = row.state) ∨
      outcome = some .continue ∧ ∃ row, taskCandidates sdkSessionId objectiveId db = [row] ∧
        id = row.submissionId := by
  have completed : ∀ candidate : Submission,
      (db.updateSubmissions (·.submissionId = candidate.submissionId)
        (completeTask outcome)).submission id = some kept →
      (∃ row, db.submission id = some row ∧ kept.state = row.state) ∨
        outcome = some .continue ∧ id = candidate.submissionId := by
    intro candidate there
    rw [submission_updateSubmissions _ _ (completeTask_key outcome)] at there
    obtain ⟨row, found, rfl⟩ := Option.map_eq_some_iff.mp there
    split
    next target =>
      by_cases goes : outcome = some .continue
      · refine .inr ⟨goes, ?_⟩
        rw [← submission_key found]
        simpa using target
      · refine .inl ⟨row, found, ?_⟩
        simp [completeTask, goes]
    · exact .inl ⟨row, found, rfl⟩
  unfold applyTaskComplete at left
  dsimp only at left
  split at left
  next candidate single =>
    have one : taskCandidates sdkSessionId objectiveId db = [candidate] := single
    split at left
    · rcases completed candidate left with same | ⟨goes, target⟩
      · exact .inl same
      · exact .inr ⟨goes, candidate, one, target⟩
    · rcases completed candidate left with same | ⟨goes, target⟩
      · exact .inl same
      · exact .inr ⟨goes, candidate, one, target⟩
  · exact .inl ⟨kept, left, rfl⟩

end Observed

end Copilotd.Source.Core.Submissions
