import Copilotd.Source.Core.Submissions

/-!
# Every user message belongs to one submission

The journal lets an SDK event id of a session through once.  So the id of a user message is
new to the observations of its session when it is applied, and the message is observed by one
submission and inserted as one segment; a split moves both.
-/
namespace Copilotd.Guarantees.MessageOwnership

open Base Base.Table Source.Core.Submissions

variable {uuid5 : String → String}

/-- The key of a submission, its session and the message it was observed by. -/
def owner (row : Submission) : String × String × Option String :=
  (row.submissionId, row.sdkSessionId, row.observedUserEventId)

def owners (db : Db) : List (String × String × Option String) := db.submissions.map owner

def messages (db : Db) : List String := db.segments.map (·.userEventId)

/-- An observation is of a journaled event, and in each session of at most one submission. -/
structure Attributed (entries : List (String × String × Option String))
    (journal : List JournalRow) : Prop where
  keyed : (entries.map (·.1)).Nodup
  seen : ∀ entry ∈ entries, ∀ eventId, entry.2.2 = some eventId →
    ∃ row ∈ journal, row.sdkSessionId = entry.2.1 ∧ row.eventId = some eventId
  distinct : ∀ entry ∈ entries, ∀ other ∈ entries, entry.2.1 = other.2.1 →
    ∀ eventId, entry.2.2 = some eventId → other.2.2 = some eventId → entry.1 = other.1

structure Owned (db : Db) : Prop where
  attributed : Attributed (owners db) db.journal
  once : (messages db).Nodup
  covered : ∀ row ∈ db.journal, row.rawType = "user.message" →
    ∀ eventId, row.eventId = some eventId → eventId ∈ messages db

theorem owned_empty : Owned {} := by
  constructor
  · constructor <;> simp [owners]
  · exact List.nodup_nil
  · intro row member
    cases member

/-! ## Statements that leave the owners -/

/-- Neither the owners, nor the messages, nor the journal change. -/
structure Keeps (db after : Db) : Prop where
  owners : owners after = owners db
  messages : messages after = messages db
  journal : after.journal = db.journal

theorem Keeps.refl (db : Db) : Keeps db db := ⟨rfl, rfl, rfl⟩

variable {db after : Db}

theorem Keeps.trans {mid : Db} (first : Keeps db mid) (second : Keeps mid after) :
    Keeps db after :=
  ⟨second.owners.trans first.owners, second.messages.trans first.messages,
    second.journal.trans first.journal⟩

theorem Owned.keeps (owned : Owned db) (keeps : Keeps db after) : Owned after := by
  obtain ⟨sameOwners, sameMessages, sameJournal⟩ := keeps
  obtain ⟨attributed, once, covered⟩ := owned
  constructor
  · rw [sameOwners, sameJournal]
    exact attributed
  · rw [sameMessages]
    exact once
  · rw [sameMessages, sameJournal]
    exact covered

variable {set : Submission → Submission} {hit : Submission → Bool}

theorem keeps_updateSubmissions (same : ∀ row, owner (set row) = owner row) (db : Db) :
    Keeps db (db.updateSubmissions hit set) :=
  ⟨map_updateWhere same db.submissions, rfl, rfl⟩

theorem keeps_updateQueue (hit : QueueItem → Bool) (set : QueueItem → QueueItem) (db : Db) :
    Keeps db (db.updateQueue hit set) := ⟨rfl, rfl, rfl⟩

theorem keeps_updateSegments {hit : Segment → Bool} {set : Segment → Segment}
    (same : ∀ segment, (set segment).userEventId = segment.userEventId) (db : Db) :
    Keeps db (db.updateSegments hit set) :=
  ⟨rfl, map_updateWhere same db.segments, rfl⟩

theorem keeps_moveItem (id : String) (fromStates : List QueueState) (state : QueueState)
    (db : Db) : Keeps db (db.moveItem id fromStates state) :=
  keeps_updateQueue _ _ db

theorem keeps_insertItem (item : QueueItem) (db : Db) : Keeps db (db.insertItem item) := by
  refine ⟨?_, ?_, ?_⟩ <;> simp [owners, messages]

theorem keeps_activeUnknown (sdkSessionId : String) (db : Db) :
    Keeps db (activeUnknown sdkSessionId db) :=
  keeps_updateSubmissions (by intro row; rfl) db

theorem keeps_cancelQueued (submissionIds : List String) (cancellable : List QueueState)
    (db : Db) : Keeps db (cancelQueued submissionIds cancellable db) := by
  unfold cancelQueued
  split
  · exact .refl db
  · exact (keeps_updateQueue _ _ db).trans (keeps_updateSubmissions (by intro row; rfl) _)

theorem keeps_preSendDeferred (submissionId : String) (db : Db) :
    Keeps db (preSendDeferred submissionId db) := by
  unfold preSendDeferred
  dsimp only
  split
  · exact .refl db
  · exact (keeps_updateSubmissions (by intro row; rfl) db).trans (keeps_updateQueue _ _ _)

variable {receivedAt : ℚ} {sdkSessionId : String}

theorem keeps_submitting {data : SubmittingData}
    (done : submitting sdkSessionId data receivedAt db = .ok after) :
    Keeps db after := by
  unfold submitting at done
  dsimp only at done
  split at done
  · cases done
    exact keeps_updateQueue _ _ db
  · split at done
    · cases done
      exact .refl db
    · split at done
      · cases done
      · cases done
        exact (keeps_updateSubmissions (by intro row; rfl) db).trans (keeps_updateQueue _ _ _)

theorem keeps_acceptanceUnknown (submissionId : String) (receivedAt : ℚ) (db : Db) :
    Keeps db (acceptanceUnknown submissionId receivedAt db) :=
  (keeps_updateSubmissions (by intro row; rfl) db).trans (keeps_moveItem _ _ _ _)

theorem keeps_applySessionIdle (sdkSessionId : String) (aborted : Bool) (receivedAt : ℚ)
    (db : Db) : Keeps db (applySessionIdle sdkSessionId aborted receivedAt db) := by
  have loops : Keeps db (settleLoops sdkSessionId aborted receivedAt db) :=
    (keeps_updateSegments (by intro segment; rfl) db).trans
      (keeps_updateSubmissions (by intro row; rfl) _)
  exact (loops.trans (keeps_updateQueue _ _ _)).trans
    (keeps_updateSubmissions (by intro row; rfl) _)

theorem keeps_applyTaskComplete (sdkSessionId : String) (outcome : Option TaskOutcome)
    (objectiveId : Option String) (db : Db) :
    Keeps db (applyTaskComplete sdkSessionId outcome objectiveId db) := by
  unfold applyTaskComplete
  dsimp only
  split
  · split
    · exact (keeps_updateSubmissions (by intro row; rfl) db).trans
        (keeps_updateSegments (by intro segment; rfl) _)
    · exact keeps_updateSubmissions (by intro row; rfl) db
  · exact .refl db

theorem keeps_settleLinkedLoopIdle (sdkSessionId : String) (quiet : List (String × Links))
    (settledAt : ℚ) (db : Db) : Keeps db (settleLinkedLoopIdle sdkSessionId quiet settledAt db) :=
  (keeps_updateSegments (by intro segment; rfl) db).trans
    (keeps_updateSubmissions (by intro row; rfl) _)

theorem keeps_reopenSubmission (sdkSessionId submissionId : String) (evidenceTime : ℚ) (db : Db) :
    Keeps db (reopenSubmission sdkSessionId submissionId evidenceTime db) :=
  (keeps_updateSegments (by intro segment; rfl) db).trans
    (keeps_updateSubmissions (by intro row; rfl) _)

theorem keeps_markQueueContentUnavailable (submissionId : String) (now : ℚ) (db : Db) :
    Keeps db (markQueueContentUnavailable submissionId now db) :=
  (keeps_updateQueue _ _ db).trans (keeps_updateSubmissions (by intro row; rfl) _)

theorem keeps_requeuePreSend (sdkSessionId submissionId operationId : String)
    (dispatchAttempt : Nat) (db : Db) :
    Keeps db (requeuePreSend sdkSessionId submissionId operationId dispatchAttempt db).2 := by
  unfold requeuePreSend
  split
  · split
    · exact .refl db
    · split
      · exact .refl db
      · split
        · exact .refl db
        · exact (keeps_updateSubmissions (by intro row; rfl) db).trans (keeps_updateQueue _ _ _)
  · exact .refl db

theorem keeps_startupRecovery (lost expired : List String) (now : ℚ) (db : Db) :
    Keeps db (startupRecovery lost expired now db) :=
  ((keeps_updateQueue _ _ db).trans (keeps_updateSubmissions (by intro row; rfl) _)).trans
    (keeps_updateSubmissions (by intro row; rfl) _)

theorem keeps_takeover (sdkSessionId : String) (now : ℚ) (db : Db) :
    Keeps db (takeover sdkSessionId now db) :=
  (keeps_updateSubmissions (by intro row; rfl) db).trans (keeps_updateQueue _ _ _)

/-! ## New rows -/

variable {row : Submission} {entry : String × String × Option String}

theorem mem_owners_insertSubmission (member : entry ∈ owners (db.insertSubmission row)) :
    entry ∈ owners db ∨ entry = owner row ∧ db.submission row.submissionId = none := by
  unfold Db.insertSubmission at member
  split at member
  · exact .inl member
  next absent =>
    rw [owners, List.map_append, List.mem_append] at member
    rcases member with old | new
    · exact .inl old
    · refine .inr ⟨by simpa using new, ?_⟩
      simpa using absent

theorem keyed_insertSubmission (keyed : ((owners db).map (·.1)).Nodup) :
    ((owners (db.insertSubmission row)).map (·.1)).Nodup := by
  unfold Db.insertSubmission
  split
  · exact keyed
  next absent =>
    have fresh : ∀ other ∈ db.submissions, other.submissionId ≠ row.submissionId := by
      have none : db.submission row.submissionId = none := by simpa using absent
      exact lookup_eq_none.mp none
    rw [owners, List.map_map] at keyed ⊢
    exact nodup_insert keyed fresh

@[simp] theorem messages_insertSubmission (row : Submission) (db : Db) :
    messages (db.insertSubmission row) = messages db := by
  rw [messages, insertSubmission_segments, messages]

variable {journal : List JournalRow}

theorem Attributed.insertSubmission (attributed : Attributed (owners db) journal)
    (seen : ∀ eventId, row.observedUserEventId = some eventId →
      ∃ entry ∈ journal, entry.sdkSessionId = row.sdkSessionId ∧ entry.eventId = some eventId)
    (fresh : ∀ entry ∈ owners db, entry.2.1 = row.sdkSessionId →
      ∀ eventId, row.observedUserEventId = some eventId → entry.2.2 ≠ some eventId) :
    Attributed (owners (db.insertSubmission row)) journal := by
  constructor
  · exact keyed_insertSubmission attributed.keyed
  · intro entry member eventId observed
    rcases mem_owners_insertSubmission member with old | ⟨rfl, _⟩
    · exact attributed.seen entry old eventId observed
    · exact seen eventId observed
  · intro entry member other also same eventId observed alike
    rcases mem_owners_insertSubmission member with old | ⟨rfl, _⟩
    · rcases mem_owners_insertSubmission also with older | ⟨rfl, _⟩
      · exact attributed.distinct entry old other older same eventId observed alike
      · exact absurd observed (fresh entry old same eventId alike)
    · rcases mem_owners_insertSubmission also with older | ⟨rfl, _⟩
      · exact absurd alike (fresh other older same.symm eventId observed)
      · rfl

theorem Owned.insertSubmission (owned : Owned db) (unobserved : row.observedUserEventId = none) :
    Owned (db.insertSubmission row) := by
  constructor
  · rw [insertSubmission_journal]
    apply owned.attributed.insertSubmission
    · intro eventId observed
      rw [unobserved] at observed
      cases observed
    · intro entry member same eventId observed
      rw [unobserved] at observed
      cases observed
  · rw [messages_insertSubmission]
    exact owned.once
  · rw [messages_insertSubmission, insertSubmission_journal]
    exact owned.covered

theorem owned_queued {data : QueuedData} (owned : Owned db) :
    Owned (queued sdkSessionId data db) := by
  unfold queued
  split
  · exact owned
  · exact (owned.insertSubmission (by rfl)).keeps (keeps_insertItem _ _)

theorem keeps_retireItem (oldId : String) (db : Db) : Keeps db (retireItem oldId db) :=
  (keeps_updateQueue _ _ db).trans (keeps_updateSubmissions (by intro row; rfl) _)

theorem owned_queueReplaced {data : ReplacedData} (owned : Owned db)
    (done : queueReplaced data db = .ok after) : Owned after := by
  unfold queueReplaced at done
  split at done
  · cases done
    exact owned
  · split at done
    · cases done
      have retired := owned.keeps (keeps_retireItem data.oldId db)
      exact (retired.insertSubmission (by rfl)).keeps (keeps_insertItem _ _)
    · split at done
      · cases done
        exact owned
      · cases done

/-! ## Observations -/

theorem keyed_updateSubmissions (same : ∀ row, (set row).submissionId = row.submissionId)
    (db : Db) :
    (owners (db.updateSubmissions hit set)).map (·.1) = (owners db).map (·.1) := by
  unfold owners
  rw [List.map_map, List.map_map]
  exact map_updateWhere same db.submissions

theorem owners_observeSubmission (sdkSessionId submissionId eventId : String)
    (continuation : Bool) (receivedAt : ℚ) (db : Db) :
    owners (observeSubmission sdkSessionId submissionId eventId continuation receivedAt db) =
      (owners db).map fun entry =>
        if entry.1 = submissionId ∧ entry.2.1 = sdkSessionId then
          (entry.1, entry.2.1, entry.2.2.or (some eventId))
        else entry := by
  simp only [observeSubmission, owners, insertSegment_submissions, moveItem_submissions,
    Db.updateSubmissions, updateWhere, List.map_map]
  refine List.map_congr_left ?_
  intro row _
  by_cases target : row.submissionId = submissionId ∧ row.sdkSessionId = sdkSessionId
  · simp [owner, target]
  · simp [owner, target]

theorem messages_insertSegment (segment : Segment) (db : Db) :
    messages (db.insertSegment segment) =
      if segment.userEventId ∈ messages db then messages db
      else messages db ++ [segment.userEventId] := by
  have same : db.segments.any (·.userEventId = segment.userEventId) = true ↔
      segment.userEventId ∈ messages db := by
    simp [messages]
  unfold Db.insertSegment
  by_cases inserted : segment.userEventId ∈ messages db
  · rw [if_pos (same.mpr inserted), if_pos inserted]
  · rw [if_neg (same.not.mpr inserted), if_neg inserted]
    simp [messages]

theorem messages_observeSubmission (sdkSessionId submissionId eventId : String)
    (continuation : Bool) (receivedAt : ℚ) (db : Db) :
    messages (observeSubmission sdkSessionId submissionId eventId continuation receivedAt db) =
      if eventId ∈ messages db then messages db else messages db ++ [eventId] :=
  messages_insertSegment _ _

variable {eventId submissionId : String}

theorem Attributed.observe {continuation : Bool} (attributed : Attributed (owners db) journal)
    (seen : ∃ row ∈ journal, row.sdkSessionId = sdkSessionId ∧ row.eventId = some eventId)
    (own : ∀ entry ∈ owners db, entry.2.1 = sdkSessionId → entry.2.2 = some eventId →
      entry.1 = submissionId) :
    Attributed (owners
      (observeSubmission sdkSessionId submissionId eventId continuation receivedAt db))
      journal := by
  rw [owners_observeSubmission]
  -- an entry of the result comes from one with the same key and session, and carries that
  -- one's message or, as the observed submission, the new one
  have origin : ∀ entry ∈ (owners db).map (fun entry =>
      if entry.1 = submissionId ∧ entry.2.1 = sdkSessionId then
        (entry.1, entry.2.1, entry.2.2.or (some eventId)) else entry),
      ∃ old ∈ owners db, old.1 = entry.1 ∧ old.2.1 = entry.2.1 ∧
        (old.2.2 = entry.2.2 ∨
          entry.1 = submissionId ∧ entry.2.1 = sdkSessionId ∧ entry.2.2 = some eventId) := by
    intro entry member
    obtain ⟨old, present, rfl⟩ := List.mem_map.mp member
    refine ⟨old, present, ?_⟩
    split
    next target =>
      refine ⟨rfl, rfl, ?_⟩
      cases observed : old.2.2 with
      | none => exact .inr ⟨target.1, target.2, rfl⟩
      | some other => exact .inl rfl
    · exact ⟨rfl, rfl, .inl rfl⟩
  constructor
  · rw [List.map_map]
    have same : (Prod.fst ∘ fun entry : String × String × Option String =>
        if entry.1 = submissionId ∧ entry.2.1 = sdkSessionId then
          (entry.1, entry.2.1, entry.2.2.or (some eventId)) else entry) = Prod.fst := by
      funext entry
      rw [Function.comp_apply]
      split <;> rfl
    rw [same]
    exact attributed.keyed
  · intro entry member carried observed
    obtain ⟨old, present, _, session, kept | ⟨_, here, new⟩⟩ := origin entry member
    · rw [← session]
      exact attributed.seen old present carried (kept.trans observed)
    · rw [new] at observed
      cases observed
      rw [here]
      exact seen
  · intro entry member other also same carried observed alike
    obtain ⟨old, present, key, session, kept | ⟨target, here, new⟩⟩ := origin entry member
    · obtain ⟨older, presentToo, keyToo, sessionToo, keptToo | ⟨targetToo, hereToo, newToo⟩⟩ :=
        origin other also
      · rw [← key, ← keyToo]
        exact attributed.distinct old present older presentToo
          (session.trans (same.trans sessionToo.symm)) carried (kept.trans observed)
          (keptToo.trans alike)
      · rw [newToo] at alike
        cases alike
        rw [targetToo, ← key]
        exact own old present (session.trans (same.trans hereToo)) (kept.trans observed)
    · obtain ⟨older, presentToo, keyToo, sessionToo, keptToo | ⟨targetToo, _, _⟩⟩ :=
        origin other also
      · rw [new] at observed
        cases observed
        rw [target, ← keyToo]
        exact (own older presentToo (sessionToo.trans (same.symm.trans here))
          (keptToo.trans alike)).symm
      · rw [target, targetToo]

theorem Owned.observe {entry : JournalRow} (owned : Owned db)
    (event : entry.eventId = some eventId)
    (attributed : Attributed (owners after) (db.journal ++ [entry])) (inserted : messages after =
      if eventId ∈ messages db then messages db else messages db ++ [eventId])
    (same : after.journal = db.journal) :
    Owned { after with journal := after.journal ++ [entry] } := by
  rw [same]
  have kept : ∀ other ∈ messages db, other ∈ messages after := by
    intro other member
    rw [inserted]
    split
    · exact member
    · exact List.mem_append_left _ member
  have present : eventId ∈ messages after := by
    rw [inserted]
    split
    next old => exact old
    · simp
  constructor
  · exact attributed
  · change (messages after).Nodup
    rw [inserted]
    split
    · exact owned.once
    next fresh =>
      rw [List.nodup_append]
      refine ⟨owned.once, by simp, ?_⟩
      intro other member new mine alike
      rw [List.mem_singleton] at mine
      exact fresh (mine ▸ alike ▸ member)
  · intro row member kind other carried
    rcases List.mem_append.mp member with old | new
    · exact kept other (owned.covered row old kind other carried)
    · rw [List.mem_singleton.mp new, event] at carried
      cases carried
      exact present

variable {event : Event}

theorem Owned.fresh (owned : Owned db) (new : journaled db event = false)
    (carries : event.eventId = some eventId) :
    ∀ entry ∈ owners db, entry.2.1 = event.sdkSessionId → entry.2.2 ≠ some eventId := by
  intro entry member session observed
  obtain ⟨row, recorded, ofSession, ofEvent⟩ :=
    owned.attributed.seen entry member eventId observed
  have duplicate : journaled db event = true := by
    simp only [journaled, List.any_eq_true]
    refine ⟨row, recorded, ?_⟩
    simp [ofSession, ofEvent, session, carries]
  rw [new] at duplicate
  cases duplicate

theorem Attributed.append {entries : List (String × String × Option String)}
    (attributed : Attributed entries journal) (row : JournalRow) :
    Attributed entries (journal ++ [row]) := by
  refine ⟨attributed.keyed, ?_, attributed.distinct⟩
  intro entry member eventId observed
  obtain ⟨old, recorded, facts⟩ := attributed.seen entry member eventId observed
  exact ⟨old, List.mem_append_left _ recorded, facts⟩

theorem owned_applyUserMessage {message : UserMessage} (owned : Owned db)
    (new : journaled db event = false) (carries : event.eventId = some eventId) :
    let after := applyUserMessage uuid5 event.exactMapping event.sdkSessionId eventId message
      event.receivedAt db
    Owned { after with journal := after.journal ++ [receipt event] } := by
  have fresh := owned.fresh new carries
  have extended := owned.attributed.append (receipt event)
  have seen : ∃ row ∈ db.journal ++ [receipt event],
      row.sdkSessionId = event.sdkSessionId ∧ row.eventId = some eventId :=
    ⟨receipt event, by simp, rfl, carries⟩
  -- the two ways a message ends: on a submission that exists, or on a new one of its own
  have onExisting : ∀ (submissionId : String) (continuation : Bool),
      let after := observeSubmission event.sdkSessionId submissionId eventId continuation
        event.receivedAt db
      Owned { after with journal := after.journal ++ [receipt event] } := by
    intro submissionId continuation
    apply owned.observe carries
    · apply extended.observe seen
      intro entry member session observed
      exact absurd observed (fresh entry member session)
    · exact messages_observeSubmission ..
    · exact observeSubmission_journal ..
  have onNew :
      let after := createRuntimeObservedSubmission uuid5 event.sdkSessionId eventId message
        event.receivedAt db
      Owned { after with journal := after.journal ++ [receipt event] } := by
    apply owned.observe carries
    · unfold createRuntimeObservedSubmission
      apply Attributed.observe _ seen
      · intro entry member session observed
        rcases mem_owners_insertSubmission member with old | ⟨rfl, _⟩
        · exact absurd observed (fresh entry old session)
        · rfl
      · apply extended.insertSubmission
        · intro other observed
          cases observed
          exact seen
        · intro entry member session other observed
          cases observed
          exact fresh entry member session
    · unfold createRuntimeObservedSubmission
      rw [messages_observeSubmission, messages_insertSubmission]
    · simp [createRuntimeObservedSubmission]
  unfold applyUserMessage
  dsimp only
  split
  · exact onNew
  · split
    · split
      · exact onExisting _ true
      · split
        · exact onExisting _ false
        · exact onNew
    · split
      · exact onExisting _ false
      · exact onNew

/-! ## Splits -/

theorem mem_owners_clear
    (clears : ∀ row, owner (set row) = (row.submissionId, row.sdkSessionId, none))
    (member : entry ∈ owners (db.updateSubmissions (·.submissionId = submissionId) set)) :
    entry.1 ≠ submissionId ∧ entry ∈ owners db ∨ entry.2.2 = none := by
  obtain ⟨row, present, rfl⟩ := List.mem_map.mp member
  obtain ⟨old, stored, rfl⟩ := mem_updateWhere.mp present
  by_cases target : old.submissionId = submissionId
  · right
    simp [target, clears]
  · left
    simp only [target, decide_false, Bool.false_eq_true, if_false]
    exact ⟨target, List.mem_map_of_mem stored⟩

variable {appState : Copilotd.Source.Storage.SubmissionState} {runtimeId : String}

theorem attributed_moveObservation (attributed : Attributed (owners db) db.journal)
    (carrier : owner row ∈ owners db) :
    Attributed (owners (moveObservation runtimeId appState receivedAt row db)) db.journal := by
  have origin : ∀ entry ∈ owners (moveObservation runtimeId appState receivedAt row db),
      entry.1 ≠ row.submissionId ∧ entry ∈ owners db ∨
        entry = owner (runtimeCopy runtimeId row) ∧ entry.1 ≠ row.submissionId ∨
        entry.2.2 = none := by
    intro entry member
    rcases mem_owners_clear (by intro row; rfl) member with ⟨apart, copied⟩ | blank
    · rcases mem_owners_insertSubmission copied with old | ⟨new, _⟩
      · exact .inl ⟨apart, old⟩
      · exact .inr (.inl ⟨new, apart⟩)
    · exact .inr (.inr blank)
  constructor
  · unfold moveObservation
    rw [keyed_updateSubmissions (by intro row; rfl)]
    exact keyed_insertSubmission attributed.keyed
  · intro entry member eventId carried
    rcases origin entry member with ⟨_, old⟩ | ⟨rfl, _⟩ | blank
    · exact attributed.seen entry old eventId carried
    · exact attributed.seen (owner row) carrier eventId carried
    · rw [blank] at carried
      cases carried
  · intro entry member other also same eventId carried alike
    rcases origin entry member with ⟨apart, old⟩ | ⟨rfl, _⟩ | blank
    · rcases origin other also with ⟨_, older⟩ | ⟨rfl, _⟩ | blank
      · exact attributed.distinct entry old other older same eventId carried alike
      · exact absurd (attributed.distinct entry old (owner row) carrier same eventId carried
          alike) apart
      · rw [blank] at alike
        cases alike
    · rcases origin other also with ⟨apart, older⟩ | ⟨rfl, _⟩ | blank
      · exact absurd (attributed.distinct other older (owner row) carrier same.symm eventId
          alike carried) apart
      · rfl
      · rw [blank] at alike
        cases alike
    · rw [blank] at carried
      cases carried

theorem messages_moveObservation (runtimeId : String)
    (appState : Copilotd.Source.Storage.SubmissionState) (receivedAt : ℚ) (row : Submission)
    (db : Db) : messages (moveObservation runtimeId appState receivedAt row db) = messages db := by
  have moved : ∀ (hit : Segment → Bool) (other : Db),
      messages (other.updateSegments hit ({ · with submissionId := runtimeId })) =
        messages other := by
    intro hit other
    exact (keeps_updateSegments (by intro segment; rfl) other).messages
  calc messages (moveObservation runtimeId appState receivedAt row db)
      = messages (db.insertSubmission (runtimeCopy runtimeId row)) := moved _ _
    _ = messages db := messages_insertSubmission _ _

theorem owned_moveObservation (owned : Owned db) (found : db.submission submissionId = some row) :
    Owned (moveObservation runtimeId appState receivedAt row db) := by
  have carrier : owner row ∈ owners db := List.mem_map_of_mem (lookup_some_mem found)
  constructor
  · rw [moveObservation_journal]
    exact attributed_moveObservation owned.attributed carrier
  · rw [messages_moveObservation]
    exact owned.once
  · rw [messages_moveObservation, moveObservation_journal]
    exact owned.covered

theorem keeps_recordAccepted (submissionId messageId : String) (receivedAt : ℚ) (db : Db) :
    Keeps db (recordAccepted submissionId messageId receivedAt db) :=
  (keeps_updateSubmissions (by intro row; rfl) db).trans (keeps_moveItem _ _ _ _)

theorem owned_accepted {exactMapping : Bool} {messageId : String} (owned : Owned db)
    (done : accepted uuid5 exactMapping sdkSessionId submissionId messageId receivedAt db =
      .ok after) : Owned after := by
  obtain rfl | ⟨row, found, _, _, _, rfl | ⟨userEventId, _, _, rfl⟩⟩ := accepted_cases done
  · exact owned
  · exact owned.keeps (keeps_recordAccepted _ _ _ db)
  · exact (owned_moveObservation owned found).keeps (keeps_recordAccepted _ _ _ _)

theorem owned_rejected (owned : Owned db)
    (done : rejected uuid5 sdkSessionId submissionId receivedAt db = .ok after) :
    Owned after := by
  obtain rfl | ⟨row, found, _, _, ⟨_, rfl⟩ | ⟨_, _, rfl⟩ | ⟨userEventId, _, _, rfl⟩⟩ :=
    rejected_cases done
  · exact owned
  · exact owned.keeps (keeps_moveItem _ _ _ db)
  · exact owned.keeps ((keeps_updateSubmissions (by intro row; rfl) db).trans
      (keeps_moveItem _ _ _ _))
  · exact (owned_moveObservation owned found).keeps (keeps_moveItem _ _ _ _)

/-! ## Runs -/

theorem owned_applyDomainState (owned : Owned db)
    (done : applyDomainState uuid5 event db = .ok after)
    (other : ∀ message, event.body ≠ .userMessage message) : Owned after := by
  unfold applyDomainState at done
  cases kind : event.body with
  | queued data =>
    rw [kind] at done
    cases done
    exact owned_queued owned
  | submitting data =>
    rw [kind] at done
    exact owned.keeps (keeps_submitting done)
  | cancelQueued submissionIds cancellable =>
    rw [kind] at done
    cases done
    exact owned.keeps (keeps_cancelQueued _ _ db)
  | preSendDeferred submissionId =>
    rw [kind] at done
    cases done
    exact owned.keeps (keeps_preSendDeferred _ db)
  | queueReplaced data =>
    rw [kind] at done
    exact owned_queueReplaced owned done
  | queueBlocked submissionId reason =>
    rw [kind] at done
    cases done
    exact owned.keeps (keeps_moveItem _ _ _ db)
  | activeUnknown =>
    rw [kind] at done
    cases done
    exact owned.keeps (keeps_activeUnknown _ db)
  | accepted submissionId messageId =>
    rw [kind] at done
    exact owned_accepted owned done
  | acceptanceUnknown submissionId =>
    rw [kind] at done
    cases done
    exact owned.keeps (keeps_acceptanceUnknown _ _ db)
  | rejected submissionId =>
    rw [kind] at done
    exact owned_rejected owned done
  | userMessage message => exact absurd kind (other message)
  | sessionIdle aborted =>
    rw [kind] at done
    cases done
    exact owned.keeps (keeps_applySessionIdle _ _ _ db)
  | taskComplete outcome objectiveId =>
    rw [kind] at done
    cases done
    exact owned.keeps (keeps_applyTaskComplete _ _ _ db)
  | autopilotObjective submissionId objectiveId status =>
    rw [kind] at done
    cases done
    exact owned.keeps (keeps_updateSubmissions (by intro row; rfl) db)
  | quietSnapshot quiet settledAt =>
    rw [kind] at done
    cases done
    exact owned.keeps (keeps_settleLinkedLoopIdle _ _ _ db)
  | taskEvidence submissionId evidenceTime =>
    rw [kind] at done
    cases done
    exact owned.keeps (keeps_reopenSubmission _ _ _ db)

theorem rawType_userMessage {body : Body} (kind : body.rawType = "user.message") :
    ∃ message, body = .userMessage message := by
  cases body with
  | userMessage message => exact ⟨message, rfl⟩
  | _ => simp [Body.rawType] at kind

theorem Owned.append (owned : Owned db) (row : JournalRow) (other : row.rawType ≠ "user.message") :
    Owned { db with journal := db.journal ++ [row] } := by
  refine ⟨owned.attributed.append row, owned.once, ?_⟩
  intro entry member kind
  rcases List.mem_append.mp member with old | new
  · exact owned.covered entry old kind
  · rw [List.mem_singleton.mp new] at kind
    exact absurd kind other

theorem owned_persist (owned : Owned db) (done : persist uuid5 event db = .ok after) :
    Owned after := by
  unfold persist at done
  split at done
  · cases done
    exact owned
  next unseen =>
    obtain ⟨applied, handled, rest⟩ := bind_ok done
    cases rest
    by_cases kind : ∃ message, event.body = .userMessage message
    · obtain ⟨message, isMessage⟩ := kind
      simp only [applyDomainState, isMessage] at handled
      split at handled
      · cases handled
      next eventId carries =>
        cases handled
        exact owned_applyUserMessage owned (by simpa using unseen) carries
    · have other : ∀ message, event.body ≠ .userMessage message := by
        intro message isMessage
        exact kind ⟨message, isMessage⟩
      apply (owned_applyDomainState owned handled other).append
      intro raw
      exact kind (rawType_userMessage raw)

theorem owned_write {writer : Writer} (owned : Owned db)
    (done : write uuid5 db writer = some after) : Owned after := by
  cases writer with
  | reduce event => exact owned_persist owned (persist_of_write done)
  | contentUnavailable submissionId now =>
    cases done
    exact owned.keeps (keeps_markQueueContentUnavailable _ _ db)
  | requeue sdkSessionId submissionId operationId dispatchAttempt =>
    cases done
    exact owned.keeps (keeps_requeuePreSend _ _ _ _ db)
  | recover lost expired now =>
    cases done
    exact owned.keeps (keeps_startupRecovery _ _ _ db)
  | takeover sdkSessionId now =>
    cases done
    exact owned.keeps (keeps_takeover _ _ db)

theorem owned_run {writers : List Writer} (reached : Run.run (write uuid5) {} writers = some db) :
    Owned db :=
  Run.run_inv (fun _ _ _ owned done => owned_write owned done) owned_empty reached

/-- Whatever events are applied, and whatever the other writers do between them, an applied
user message is the user event of exactly one segment, and no two submissions of a session
were observed by the same message. -/
theorem messages_have_one_owner {writers : List Writer} {db : Db}
    (reached : Run.run (write uuid5) {} writers = some db) :
    (∀ row ∈ db.journal, row.rawType = "user.message" → ∀ eventId, row.eventId = some eventId →
      db.segments.countP (·.userEventId = eventId) = 1) ∧
    (∀ row ∈ db.submissions, ∀ other ∈ db.submissions, row.sdkSessionId = other.sdkSessionId →
      ∀ eventId, row.observedUserEventId = some eventId →
        other.observedUserEventId = some eventId → row = other) := by
  have owned := owned_run reached
  constructor
  · intro row recorded kind eventId carried
    have present := owned.covered row recorded kind eventId carried
    have once : (messages db).count eventId = 1 :=
      List.count_eq_one_of_mem owned.once present
    rw [List.count, messages, List.countP_map] at once
    rw [← once]
    refine List.countP_congr ?_
    intro segment _
    simp
  · intro row stored other storedToo session eventId observed alike
    have key : row.submissionId = other.submissionId :=
      owned.attributed.distinct (owner row) (List.mem_map_of_mem stored) (owner other)
        (List.mem_map_of_mem storedToo) session eventId observed alike
    have keyed : (db.submissions.map (·.submissionId)).Nodup := by
      have keys := owned.attributed.keyed
      rwa [owners, List.map_map] at keys
    have found := lookup_of_mem keyed stored
    rw [key, lookup_of_mem keyed storedToo] at found
    exact (Option.some.inj found).symm

def sentId : String := "f160b806-5fc3-5cf2-b4d3-0829cbab296d"

/-- A provisional correlation that the acceptance splits: the message moves to a
runtime-observed submission. -/
def splitRun : List Writer :=
  [.reduce { sdkSessionId := "session-1", internalEventId := some "queued"
             body := .queued { submissionId := sentId, threadId := "thread-1"
                               promptHash := "hash", createdAt := 1 } },
    .reduce { sdkSessionId := "session-1", internalEventId := some "submitting", receivedAt := 2
              body := .submitting { submissionId := sentId, operationId := "operation-1" } },
    .reduce { sdkSessionId := "session-1", eventId := some "event-1", receivedAt := 3
              exactMapping := true
              body := .userMessage { contentHash := some "hash", promptHash := "hash" } },
    .reduce { sdkSessionId := "session-1", internalEventId := some "accepted", receivedAt := 4
              exactMapping := true, body := .accepted sentId "event-2" }]

/-- `uuid.uuid5` over `uuid.NAMESPACE_URL`, on the name the run asks for. -/
def uuid5OfRun (name : String) : String :=
  if name = "copilotd:session-1:runtime-observed:event-1" then
    "e699f743-4cdb-57e3-9946-5f1ea2396325"
  else name

theorem messages_have_one_owner_split :
    ∃ db, Run.run (write uuid5OfRun) {} splitRun = some db ∧
      db.segments.map (·.submissionId) = ["e699f743-4cdb-57e3-9946-5f1ea2396325"] ∧
      (∀ row ∈ db.journal, row.rawType = "user.message" →
        ∀ eventId, row.eventId = some eventId →
          db.segments.countP (·.userEventId = eventId) = 1) ∧
      (∀ row ∈ db.submissions, ∀ other ∈ db.submissions,
        row.sdkSessionId = other.sdkSessionId → ∀ eventId,
        row.observedUserEventId = some eventId → other.observedUserEventId = some eventId →
        row = other) := by
  have runs : ((Run.run (write uuid5OfRun) {} splitRun).map
      (·.segments.map (·.submissionId))) = some ["e699f743-4cdb-57e3-9946-5f1ea2396325"] := by
    decide +kernel
  obtain ⟨db, reached, segments⟩ := Option.map_eq_some_iff.mp runs
  exact ⟨db, reached, segments, messages_have_one_owner reached⟩

end Copilotd.Guarantees.MessageOwnership
