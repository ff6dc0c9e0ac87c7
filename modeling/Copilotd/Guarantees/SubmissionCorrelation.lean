import Copilotd.Source.Core.SubmissionViews
import Copilotd.Guarantees.MessageOwnership

/-!
# A sent submission and its user message

The acceptance of a send, the user message it names and the `session.idle` events of earlier
work reach the reducer in any order.  Only the user message correlates: the acceptance and the
idle events keep the observation of the submission as it is.  So the order decides through
what they leave for the message to find, and the message finds the submission exactly if the
first rule with any candidate selects it alone.

An idle event that overtakes the acceptance moves the submission to `outcome_unknown`, where
the acceptance is not recorded, and the exact rule has nothing to go by.
-/
namespace Copilotd.Guarantees.SubmissionCorrelation

open Base Base.Table Source.Core.Submissions
open Source.Storage (SubmissionState)

/-! ## The events -/

/-- `copilotd.submission.accepted`, as the dispatch of the submission commits it. -/
def acceptance (sdkSessionId submissionId messageId : String) (receivedAt : ℚ) : Event :=
  { sdkSessionId, internalEventId := some ("submission:" ++ submissionId ++ ":accepted")
    receivedAt, exactMapping := true, body := .accepted submissionId messageId }

/-- The SDK's `user.message` with the accepted id. -/
def observation (sdkSessionId messageId : String) (message : UserMessage) (receivedAt : ℚ) :
    Event :=
  { sdkSessionId, eventId := some messageId, receivedAt, exactMapping := true
    body := .userMessage message }

/-- A `session.idle` of the session; SDK events have no internal id and ids of their own. -/
def IsIdle (sdkSessionId messageId : String) (event : Event) : Prop :=
  event.sdkSessionId = sdkSessionId ∧ event.internalEventId = none ∧
    event.eventId ≠ some messageId ∧ ∃ aborted, event.body = .sessionIdle aborted

def submissionIds (db : Db) : List String := db.submissions.map (·.submissionId)

/-- The submission carries the message, and no submission was created on the way. -/
def Correlated (submissionId messageId : String) (db after : Db) : Prop :=
  (∃ row, after.submission submissionId = some row ∧
    row.observedUserEventId = some messageId) ∧ submissionIds after = submissionIds db

/-! ## When the message finds the submission -/

/-- The submission is the only one that meets `rule`. -/
def Only (submissionId : String) (rule : Submission → Bool) (db : Db) : Prop :=
  ∀ row ∈ db.submissions, rule row = true ↔ row.submissionId = submissionId

/-- No submission meets `rule`. -/
def Nobody (rule : Submission → Bool) (db : Db) : Prop :=
  ∀ row ∈ db.submissions, rule row = false

/-- The message goes to the rules of the correlation, and the first rule with any candidate
has the submission as its only one. -/
structure Finds (sdkSessionId submissionId messageId : String) (message : UserMessage)
    (receivedAt : ℚ) (db : Db) : Prop where
  unscheduled : message.runtimeScheduleId = none
  fresh : message.isAutopilotContinuation = true →
    (continuationCandidates sdkSessionId db).length ≠ 1
  rule : Only submissionId (matchesAcceptance sdkSessionId messageId) db ∨
    Nobody (matchesAcceptance sdkSessionId messageId) db ∧
      (Only submissionId (matchesInteraction sdkSessionId message) db ∨
        Nobody (matchesInteraction sdkSessionId message) db ∧
          Only submissionId (matchesFacts sdkSessionId message receivedAt) db)

/-! ## Acceptances and idle events -/

/-- The states of a submission that no message was found for. -/
def unansweredStates : List SubmissionState := [.submitting, .submitted, .outcomeUnknown]

/-- What the acceptance and the idle events keep of the submission. -/
structure Holds (sdkSessionId messageId : String) (observed : Option String)
    (row : Submission) : Prop where
  session : row.sdkSessionId = sdkSessionId
  observed : row.observedUserEventId = observed
  accepted : ∀ other, row.acceptedMessageId = some other → other = messageId
  unsettled : row.state ≠ .rejected
  unanswered : row.observedUserEventId = none → row.state ∈ unansweredStates

structure Held (sdkSessionId submissionId messageId : String) (observed : Option String)
    (db : Db) : Prop where
  row : ∃ row, db.submission submissionId = some row ∧
    Holds sdkSessionId messageId observed row
  known : observed = none ∨ observed = some messageId

variable {row : Submission}

section Steps

variable {uuid5 : String → String} {sdkSessionId submissionId messageId : String}
  {observed : Option String} {db : Db} {receivedAt : ℚ}

theorem holds_recordAcceptance (holds : Holds sdkSessionId messageId observed row) :
    Holds sdkSessionId messageId observed (recordAcceptance messageId receivedAt row) := by
  refine ⟨holds.session, holds.observed, ?_, ?_, ?_⟩
  · intro other carried
    rcases Option.or_eq_some_iff.mp carried with old | ⟨_, new⟩
    · exact holds.accepted other old
    · exact (Option.some.inj new).symm
  · simp only [recordAcceptance]
    split
    · simp
    · exact holds.unsettled
  · intro unobserved
    have state := holds.unanswered unobserved
    simp only [recordAcceptance]
    split
    · simp [unansweredStates]
    · exact state

theorem accepted_of_held (held : Held sdkSessionId submissionId messageId observed db) :
    accepted uuid5 true sdkSessionId submissionId messageId receivedAt db =
      .ok (recordAccepted submissionId messageId receivedAt db) := by
  obtain ⟨⟨row, found, holds⟩, known⟩ := held
  have looked : db.submissionOf sdkSessionId submissionId = some row :=
    submissionOf_eq_some.mpr ⟨found, holds.session⟩
  have own : row.observedUserEventId.any (· ≠ messageId) = false := by
    rw [holds.observed]
    rcases known with rfl | rfl
    · rfl
    · simp
  have agrees : row.acceptedMessageId.any (· ≠ messageId) = false := by
    cases carried : row.acceptedMessageId with
    | none => rfl
    | some other => simp [holds.accepted other carried]
  simp only [accepted, looked, if_neg holds.unsettled, own, agrees, Bool.false_eq_true, false_and,
    and_false, if_false, Except.bind]

theorem held_recordAccepted (held : Held sdkSessionId submissionId messageId observed db) :
    Held sdkSessionId submissionId messageId observed
      (recordAccepted submissionId messageId receivedAt db) := by
  obtain ⟨⟨row, found, holds⟩, known⟩ := held
  refine ⟨?_, known⟩
  rw [submission_recordAccepted, found, Option.map_some]
  refine ⟨_, rfl, ?_⟩
  split
  · exact holds_recordAcceptance holds
  · exact holds

theorem submissionIds_updateSubmissions {hit : Submission → Bool} {set : Submission → Submission}
    (same : ∀ row, (set row).submissionId = row.submissionId) (db : Db) :
    submissionIds (db.updateSubmissions hit set) = submissionIds db :=
  map_updateWhere same db.submissions

theorem idleState_unsettled (aborted : Bool) (row : Submission) :
    idleState aborted row ≠ .rejected := by
  unfold idleState
  split
  · simp
  · split
    · simp
    · split <;> simp

theorem holds_idleRow {aborted : Bool} (holds : Holds sdkSessionId messageId observed row)
    (running : row.state ∈ [.observedActive, .continuationExpected]) :
    Holds sdkSessionId messageId observed (idleRow aborted receivedAt row) := by
  refine ⟨holds.session, holds.observed, holds.accepted, idleState_unsettled _ _, ?_⟩
  intro unobserved
  have state := holds.unanswered unobserved
  simp only [unansweredStates, List.mem_cons, List.not_mem_nil, or_false] at state running
  rcases running with active | expected
  · simp [active] at state
  · simp [expected] at state

theorem holds_orphanRow {orphan : Bool} (holds : Holds sdkSessionId messageId observed row) :
    Holds sdkSessionId messageId observed
      (if orphan then orphanRow receivedAt row else row) := by
  split
  · refine ⟨holds.session, holds.observed, holds.accepted, by simp [orphanRow], ?_⟩
    intro _
    simp [orphanRow, unansweredStates]
  · exact holds

theorem held_applySessionIdle (aborted : Bool)
    (held : Held sdkSessionId submissionId messageId observed db) :
    Held sdkSessionId submissionId messageId observed
      (applySessionIdle sdkSessionId aborted receivedAt db) := by
  obtain ⟨⟨row, found, holds⟩, known⟩ := held
  refine ⟨?_, known⟩
  have loops : (settleLoops sdkSessionId aborted receivedAt db).submission submissionId = _ :=
    submission_settleLoops submissionId sdkSessionId aborted receivedAt
  rw [found, Option.map_some] at loops
  have rows := congrArg View.row (view_applySessionIdle submissionId _ _ _ loops rfl)
  refine ⟨_, rows, ?_⟩
  apply holds_orphanRow
  split
  next running => exact holds_idleRow holds running.2
  · exact holds

theorem submissionIds_applySessionIdle (aborted : Bool) :
    submissionIds (applySessionIdle sdkSessionId aborted receivedAt db) = submissionIds db := by
  rw [applySessionIdle, submissionIds_updateSubmissions (by intro row; rfl)]
  change submissionIds (settleLoops sdkSessionId aborted receivedAt db) = submissionIds db
  rw [settleLoops, submissionIds_updateSubmissions (by intro row; rfl)]
  rfl

theorem submissionIds_recordAccepted :
    submissionIds (recordAccepted submissionId messageId receivedAt db) = submissionIds db := by
  change submissionIds (db.updateSubmissions _ _) = submissionIds db
  exact submissionIds_updateSubmissions (recordAcceptance_key messageId receivedAt) db

/-- The message is not in the journal. -/
def Unseen (sdkSessionId messageId : String) (db : Db) : Prop :=
  ∀ row ∈ db.journal, row.sdkSessionId = sdkSessionId → row.eventId ≠ some messageId

/-- An acceptance of the submission or an idle event. -/
def Around (sdkSessionId submissionId messageId : String) (event : Event) : Prop :=
  (∃ receivedAt, event = acceptance sdkSessionId submissionId messageId receivedAt) ∨
    IsIdle sdkSessionId messageId event

theorem Around.eventId {event : Event} (around : Around sdkSessionId submissionId messageId event) :
    event.eventId ≠ some messageId := by
  rcases around with ⟨receivedAt, rfl⟩ | ⟨_, _, other, _⟩
  · simp [acceptance]
  · exact other

variable (uuid5)

/-- The handlers of both kinds go through, keep the submission and insert none. -/
theorem applyDomainState_around {event : Event}
    (held : Held sdkSessionId submissionId messageId observed db)
    (around : Around sdkSessionId submissionId messageId event) :
    ∃ after, applyDomainState uuid5 event db = .ok after ∧
      Held sdkSessionId submissionId messageId observed after ∧
      submissionIds after = submissionIds db ∧ after.journal = db.journal := by
  rcases around with ⟨receivedAt, rfl⟩ | ⟨session, _, _, aborted, body⟩
  · refine ⟨recordAccepted submissionId messageId receivedAt db, ?_, held_recordAccepted held,
      submissionIds_recordAccepted, rfl⟩
    exact accepted_of_held held
  · refine ⟨applySessionIdle sdkSessionId aborted event.receivedAt db, ?_,
      held_applySessionIdle aborted held, submissionIds_applySessionIdle aborted, rfl⟩
    simp only [applyDomainState, body, session]

theorem write_around {event : Event}
    (held : Held sdkSessionId submissionId messageId observed db)
    (around : Around sdkSessionId submissionId messageId event) :
    ∃ after, write uuid5 db (.reduce event) = some after ∧
      Held sdkSessionId submissionId messageId observed after ∧
      submissionIds after = submissionIds db ∧
      (Unseen sdkSessionId messageId db → Unseen sdkSessionId messageId after) := by
  cases duplicate : journaled db event with
  | true =>
    refine ⟨db, ?_, held, rfl, id⟩
    simp [write, persist, duplicate, Except.toOption]
  | false =>
    obtain ⟨applied, handled, kept, same, journal⟩ :=
      applyDomainState_around uuid5 held around
    refine ⟨{ applied with journal := applied.journal ++ [receipt event] }, ?_, ?_, same, ?_⟩
    · simp [write, persist, duplicate, handled, Except.bind, Except.toOption]
    · exact ⟨kept.row, kept.known⟩
    · intro unseen row member session
      rw [journal, List.mem_append, List.mem_singleton] at member
      rcases member with old | rfl
      · exact unseen row old session
      · exact around.eventId

theorem run_around {events : List Event}
    (held : Held sdkSessionId submissionId messageId observed db)
    (around : ∀ event ∈ events, Around sdkSessionId submissionId messageId event) :
    ∃ after, Run.run (write uuid5) db (events.map .reduce) = some after ∧
      Held sdkSessionId submissionId messageId observed after ∧
      submissionIds after = submissionIds db ∧
      (Unseen sdkSessionId messageId db → Unseen sdkSessionId messageId after) := by
  induction events generalizing db with
  | nil => exact ⟨db, rfl, held, rfl, id⟩
  | cons event rest ih =>
    obtain ⟨next, taken, kept, same, quiet⟩ :=
      write_around uuid5 held (around event (List.mem_cons_self ..))
    obtain ⟨after, ran, still, also, calm⟩ :=
      ih kept fun event member => around event (List.mem_cons_of_mem _ member)
    refine ⟨after, ?_, still, also.trans same, fun unseen => calm (quiet unseen)⟩
    exact Run.run_cons_eq_some.mpr ⟨next, taken, ran⟩

end Steps

/-! ## The message -/

variable {db : Db}

theorem filter_eq_nil {rule : Submission → Bool} :
    db.submissions.filter rule = [] ↔ Nobody rule db := by
  simp only [Nobody, List.filter_eq_nil_iff, Bool.not_eq_true]

theorem filter_eq_row {rule : Submission → Bool} {submissionId : String}
    (keyed : (submissionIds db).Nodup) (found : db.submission submissionId = some row) :
    db.submissions.filter rule = [row] ↔ Only submissionId rule db :=
  filter_eq_singleton keyed found

theorem first_eq_singleton {α : Type} [DecidableEq α] {first second : List α} {row : α} :
    (if first ≠ [] then first else second) = [row] ↔
      first = [row] ∨ first = [] ∧ second = [row] := by
  by_cases empty : first = []
  · simp [empty]
  · simp [empty]

section Message

variable {uuid5 : String → String} {sdkSessionId submissionId messageId : String} {db : Db}
  {receivedAt : ℚ} {message : UserMessage}

/-- The rules select the submission alone. -/
def Selects (sdkSessionId submissionId messageId : String) (message : UserMessage)
    (receivedAt : ℚ) (db : Db) : Prop :=
  ∃ row, db.submission submissionId = some row ∧
    correlationCandidates true sdkSessionId messageId message receivedAt db = [row]

theorem selects_iff (keyed : (submissionIds db).Nodup)
    (found : db.submission submissionId = some row) :
    Selects sdkSessionId submissionId messageId message receivedAt db ↔
      Only submissionId (matchesAcceptance sdkSessionId messageId) db ∨
        Nobody (matchesAcceptance sdkSessionId messageId) db ∧
          (Only submissionId (matchesInteraction sdkSessionId message) db ∨
            Nobody (matchesInteraction sdkSessionId message) db ∧
              Only submissionId (matchesFacts sdkSessionId message receivedAt) db) := by
  have alone : Selects sdkSessionId submissionId messageId message receivedAt db ↔
      correlationCandidates true sdkSessionId messageId message receivedAt db = [row] := by
    simp [Selects, found]
  rw [alone]
  simp only [correlationCandidates, Bool.true_and, first_eq_singleton, filter_eq_nil,
    filter_eq_row keyed found]

theorem candidate_mem
    (member : row ∈ correlationCandidates true sdkSessionId messageId message receivedAt db) :
    row ∈ db.submissions := by
  unfold correlationCandidates at member
  dsimp only at member
  split at member
  · exact (List.mem_filter.mp member).1
  · split at member
    · exact (List.mem_filter.mp member).1
    · exact (List.mem_filter.mp member).1

theorem held_observe_other {other : String} {continuation : Bool}
    (held : Held sdkSessionId submissionId messageId none db) (different : other ≠ submissionId) :
    Held sdkSessionId submissionId messageId none
      (observeSubmission sdkSessionId other messageId continuation receivedAt db) := by
  obtain ⟨⟨row, found, holds⟩, known⟩ := held
  refine ⟨⟨row, ?_, holds⟩, known⟩
  rw [submission_observeSubmission, found, Option.map_some, if_neg]
  intro target
  exact different target.1.symm

theorem held_observe_own (held : Held sdkSessionId submissionId messageId none db) :
    Held sdkSessionId submissionId messageId (some messageId)
      (observeSubmission sdkSessionId submissionId messageId false receivedAt db) := by
  obtain ⟨⟨row, found, holds⟩, known⟩ := held
  refine ⟨⟨observeRow messageId receivedAt row, ?_, ?_⟩, .inr rfl⟩
  · rw [submission_observeSubmission, found, Option.map_some, if_pos ⟨rfl, holds.session⟩]
  · refine ⟨holds.session, ?_, holds.accepted, by simp [observeRow], ?_⟩
    · simp [observeRow, holds.observed]
    · intro unobserved
      simp [observeRow, holds.observed] at unobserved

theorem submissionIds_observeSubmission {other : String} {continuation : Bool} :
    submissionIds (observeSubmission sdkSessionId other messageId continuation receivedAt db) =
      submissionIds db := by
  rw [observeSubmission, submissionIds, insertSegment_submissions, moveItem_submissions]
  exact submissionIds_updateSubmissions (by intro row; rfl) db

theorem held_createRuntimeObserved
    (held : Held sdkSessionId submissionId messageId none db)
    (distinct : runtimeObservedId uuid5 sdkSessionId messageId ≠ submissionId) :
    Held sdkSessionId submissionId messageId none
      (createRuntimeObservedSubmission uuid5 sdkSessionId messageId message receivedAt db) := by
  refine held_observe_other ?_ distinct
  obtain ⟨⟨row, found, holds⟩, known⟩ := held
  refine ⟨⟨row, ?_, holds⟩, known⟩
  rw [submission_insertSubmission, found, Option.some_or]

/-- What the message leaves: the submission carries it and no row was inserted, or the
submission is as before. -/
def Settled (sdkSessionId submissionId messageId : String) (finds : Prop) (db after : Db) : Prop :=
  finds ∧ Held sdkSessionId submissionId messageId (some messageId) after ∧
      submissionIds after = submissionIds db ∨
    ¬ finds ∧ Held sdkSessionId submissionId messageId none after

theorem settled_correlate (held : Held sdkSessionId submissionId messageId none db)
    (keyed : (submissionIds db).Nodup)
    (distinct : runtimeObservedId uuid5 sdkSessionId messageId ≠ submissionId) :
    Settled sdkSessionId submissionId messageId
      (Selects sdkSessionId submissionId messageId message receivedAt db) db
      (match correlationCandidates true sdkSessionId messageId message receivedAt db with
        | [row] => observeSubmission sdkSessionId row.submissionId messageId false receivedAt db
        | _ => createRuntimeObservedSubmission uuid5 sdkSessionId messageId message receivedAt
            db) := by
  split
  next row single =>
    by_cases own : row.submissionId = submissionId
    · have stored : row ∈ db.submissions := by
        apply candidate_mem
        rw [single]
        exact List.mem_singleton_self row
      have found := lookup_of_mem keyed stored
      rw [own] at found
      rw [own]
      exact .inl ⟨⟨row, found, single⟩, held_observe_own held, submissionIds_observeSubmission⟩
    · refine .inr ⟨?_, held_observe_other held own⟩
      rintro ⟨mine, found, selected⟩
      rw [single] at selected
      cases selected
      exact own (submission_key found)
  next several =>
    refine .inr ⟨?_, held_createRuntimeObserved held distinct⟩
    rintro ⟨mine, found, selected⟩
    exact several mine selected

theorem continuation_other (held : Held sdkSessionId submissionId messageId none db)
    (keyed : (submissionIds db).Nodup)
    (member : row ∈ continuationCandidates sdkSessionId db) : row.submissionId ≠ submissionId := by
  intro same
  obtain ⟨stored, running⟩ := List.mem_filter.mp member
  obtain ⟨⟨mine, found, holds⟩, _⟩ := held
  have looked := lookup_of_mem keyed stored
  rw [same] at looked
  have equal : mine = row := Option.some.inj (found.symm.trans looked)
  subst equal
  have state := holds.unanswered holds.observed
  have ran := (of_decide_eq_true running).2.2
  simp only [unansweredStates, runningStates, List.mem_cons, List.not_mem_nil,
    or_false] at state ran
  rcases ran with ran | ran | ran
  · simp [ran] at state
  · simp [ran] at state
  · simp [ran] at state

theorem Finds.selects (keyed : (submissionIds db).Nodup)
    (found : db.submission submissionId = some row) (unscheduled : message.runtimeScheduleId = none)
    (fresh : message.isAutopilotContinuation = true →
      (continuationCandidates sdkSessionId db).length ≠ 1) :
    Finds sdkSessionId submissionId messageId message receivedAt db ↔
      Selects sdkSessionId submissionId messageId message receivedAt db := by
  rw [selects_iff keyed found]
  constructor
  · intro finds
    exact finds.rule
  · intro rule
    exact ⟨unscheduled, fresh, rule⟩

theorem settled_applyUserMessage (held : Held sdkSessionId submissionId messageId none db)
    (keyed : (submissionIds db).Nodup)
    (distinct : runtimeObservedId uuid5 sdkSessionId messageId ≠ submissionId) :
    Settled sdkSessionId submissionId messageId
      (Finds sdkSessionId submissionId messageId message receivedAt db) db
      (applyUserMessage uuid5 true sdkSessionId messageId message receivedAt db) := by
  obtain ⟨⟨mine, found, _⟩, _⟩ := id held
  unfold applyUserMessage
  dsimp only
  split
  next scheduled =>
    refine .inr ⟨?_, held_createRuntimeObserved held distinct⟩
    intro finds
    simp [finds.unscheduled] at scheduled
  next unscheduled =>
    have plain : message.runtimeScheduleId = none := by simpa using unscheduled
    split
    next continuation =>
      split
      next row single =>
        have member : row ∈ continuationCandidates sdkSessionId db := by
          rw [single]
          exact List.mem_singleton_self row
        refine .inr ⟨?_, held_observe_other held (continuation_other held keyed member)⟩
        intro finds
        refine finds.fresh continuation ?_
        rw [single]
        rfl
      next several =>
        have fresh : (continuationCandidates sdkSessionId db).length ≠ 1 := by
          intro one
          obtain ⟨row, single⟩ := List.length_eq_one_iff.mp one
          exact several row single
        rw [Finds.selects keyed found plain fun _ => fresh]
        exact settled_correlate held keyed distinct
    next first =>
      rw [Finds.selects keyed found plain fun continuation => absurd continuation first]
      exact settled_correlate held keyed distinct

theorem write_observation (held : Held sdkSessionId submissionId messageId none db)
    (keyed : (submissionIds db).Nodup) (unseen : Unseen sdkSessionId messageId db)
    (distinct : runtimeObservedId uuid5 sdkSessionId messageId ≠ submissionId) :
    ∃ after, write uuid5 db (.reduce (observation sdkSessionId messageId message receivedAt)) =
        some after ∧
      Settled sdkSessionId submissionId messageId
        (Finds sdkSessionId submissionId messageId message receivedAt db) db after := by
  have new : journaled db (observation sdkSessionId messageId message receivedAt) = false := by
    simp only [journaled, observation, List.any_eq_false]
    intro row member known
    rcases of_decide_eq_true known with ⟨session, ⟨_, same⟩ | ⟨internal, _⟩⟩
    · exact unseen row member session same
    · simp at internal
  have settled : Settled sdkSessionId submissionId messageId
      (Finds sdkSessionId submissionId messageId message receivedAt db) db
      (applyUserMessage uuid5 true sdkSessionId messageId message receivedAt db) :=
    settled_applyUserMessage held keyed distinct
  have done : write uuid5 db (.reduce (observation sdkSessionId messageId message receivedAt)) =
      some { applyUserMessage uuid5 true sdkSessionId messageId message receivedAt db with
        journal := (applyUserMessage uuid5 true sdkSessionId messageId message receivedAt
          db).journal ++ [receipt (observation sdkSessionId messageId message receivedAt)] } := by
    simp only [write, persist, new, Bool.false_eq_true, if_false]
    rfl
  refine ⟨_, done, ?_⟩
  rcases settled with ⟨finds, held, same⟩ | ⟨misses, held⟩
  · exact .inl ⟨finds, ⟨held.row, held.known⟩, same⟩
  · exact .inr ⟨misses, ⟨held.row, held.known⟩⟩

end Message

/-! ## Every order -/

section Orders

variable {uuid5 : String → String} {sdkSessionId submissionId messageId : String}

theorem keyed_of_owned (owned : MessageOwnership.Owned db) :
    (submissionIds db).Nodup := by
  have keys := owned.attributed.keyed
  rwa [MessageOwnership.owners, List.map_map] at keys

theorem held_submitting (unsent : Unsent db)
    (found : db.submission submissionId = some row) (session : row.sdkSessionId = sdkSessionId)
    (sending : row.state = .submitting) :
    Held sdkSessionId submissionId messageId none db := by
  obtain ⟨unaccepted, unobserved⟩ :=
    evidenced_eq_false.mp (unsent submissionId row found (by simp [sending]))
  refine ⟨⟨row, found, session, unobserved, ?_, by simp [sending], ?_⟩, .inl rfl⟩
  · intro other carried
    rw [unaccepted] at carried
    cases carried
  · intro _
    simp [sending, unansweredStates]

theorem unseen_of_journaled {message : UserMessage} {receivedAt : ℚ}
    (new : journaled db (observation sdkSessionId messageId message receivedAt) = false) :
    Unseen sdkSessionId messageId db := by
  intro row member session same
  have known := List.any_eq_false.mp new row member
  exact known (decide_eq_true ⟨session, .inl ⟨rfl, same⟩⟩)

theorem around_of_perm {before after idles : List Event} {message : UserMessage}
    {acceptedAt observedAt : ℚ} (idle : ∀ event ∈ idles, IsIdle sdkSessionId messageId event)
    (order : (before ++ observation sdkSessionId messageId message observedAt :: after).Perm
      (acceptance sdkSessionId submissionId messageId acceptedAt ::
        observation sdkSessionId messageId message observedAt :: idles)) :
    ∀ event ∈ before ++ after, Around sdkSessionId submissionId messageId event := by
  have moved : (observation sdkSessionId messageId message observedAt :: (before ++ after)).Perm
      (observation sdkSessionId messageId message observedAt ::
        acceptance sdkSessionId submissionId messageId acceptedAt :: idles) :=
    (List.perm_middle.symm.trans order).trans (List.Perm.swap ..)
  intro event member
  rcases List.mem_cons.mp (moved.cons_inv.mem_iff.mp member) with rfl | listed
  · exact .inl ⟨acceptedAt, rfl⟩
  · exact .inr (idle event listed)

/-- A submission that reached `submitting`, the acceptance of its send, the user message of
the accepted id and idle events of its session, in any order: every event is applied, and the
submission ends with the message as its own and no submission created exactly if the message,
in the state it was applied in, finds the submission. -/
theorem sent_submission_is_correlated {writers : List Writer} {db : Db} {row : Submission}
    {message : UserMessage} {acceptedAt observedAt : ℚ} {before after idles : List Event}
    (reached : Run.run (write uuid5) {} writers = some db)
    (found : db.submission submissionId = some row) (session : row.sdkSessionId = sdkSessionId)
    (sending : row.state = .submitting)
    (new : journaled db (observation sdkSessionId messageId message observedAt) = false)
    (idle : ∀ event ∈ idles, IsIdle sdkSessionId messageId event)
    (distinct : runtimeObservedId uuid5 sdkSessionId messageId ≠ submissionId)
    (order : (before ++ observation sdkSessionId messageId message observedAt :: after).Perm
      (acceptance sdkSessionId submissionId messageId acceptedAt ::
        observation sdkSessionId messageId message observedAt :: idles)) :
    ∃ mid last, Run.run (write uuid5) db (before.map .reduce) = some mid ∧
      Run.run (write uuid5) db ((before ++
        observation sdkSessionId messageId message observedAt :: after).map .reduce) =
        some last ∧
      (Correlated submissionId messageId db last ↔
        Finds sdkSessionId submissionId messageId message observedAt mid) := by
  have around := around_of_perm idle order
  have held : Held sdkSessionId submissionId messageId none db :=
    held_submitting (unsent_run reached) found session sending
  obtain ⟨mid, ranBefore, waits, sameBefore, quiet⟩ := run_around uuid5 held
    fun event member => around event (List.mem_append_left _ member)
  have whole : Run.run (write uuid5) {} (writers ++ before.map .reduce) = some mid := by
    rw [Run.run_append, reached]
    exact ranBefore
  have keyed := keyed_of_owned (MessageOwnership.owned_run whole)
  obtain ⟨answered, taken, settled⟩ : ∃ answered, write uuid5 mid
        (.reduce (observation sdkSessionId messageId message observedAt)) = some answered ∧
      Settled sdkSessionId submissionId messageId
        (Finds sdkSessionId submissionId messageId message observedAt mid) mid answered :=
    write_observation waits keyed (quiet (unseen_of_journaled new)) distinct
  have finish : ∀ observed, Held sdkSessionId submissionId messageId observed answered →
      ∃ last, Run.run (write uuid5) db ((before ++
          observation sdkSessionId messageId message observedAt :: after).map .reduce) =
          some last ∧
        Held sdkSessionId submissionId messageId observed last ∧
        submissionIds last = submissionIds answered := by
    intro observed start
    obtain ⟨last, ranAfter, kept, sameAfter, _⟩ := run_around uuid5 start
      fun event member => around event (List.mem_append_right _ member)
    refine ⟨last, ?_, kept, sameAfter⟩
    rw [List.map_append, Run.run_append, ranBefore]
    exact Run.run_cons_eq_some.mpr ⟨answered, taken, ranAfter⟩
  rcases settled with ⟨finds, carries, sameMessage⟩ | ⟨misses, lacks⟩
  · obtain ⟨last, ran, kept, sameAfter⟩ := finish _ carries
    refine ⟨mid, last, ranBefore, ran, ?_⟩
    obtain ⟨⟨mine, stored, holds⟩, _⟩ := kept
    refine iff_of_true ⟨⟨mine, stored, holds.observed⟩, ?_⟩ finds
    rw [sameAfter, sameMessage, sameBefore]
  · obtain ⟨last, ran, kept, _⟩ := finish _ lacks
    refine ⟨mid, last, ranBefore, ran, iff_of_false ?_ misses⟩
    rintro ⟨⟨mine, stored, observed⟩, _⟩
    obtain ⟨⟨also, storedToo, holds⟩, _⟩ := kept
    rw [stored] at storedToo
    cases storedToo
    rw [holds.observed] at observed
    cases observed

end Orders

open MessageOwnership (sentId uuid5OfRun)

/-- A submission is queued and claimed. -/
def sentRun : List Writer :=
  [.reduce { sdkSessionId := "session-1", internalEventId := some "queued"
             body := .queued { submissionId := sentId, threadId := "thread-1"
                               promptHash := "hash", createdAt := 1 } },
    .reduce { sdkSessionId := "session-1", internalEventId := some "submitting", receivedAt := 2
              body := .submitting { submissionId := sentId, operationId := "operation-1" } }]

def sentDb : Db := (Run.run (write uuid5OfRun) {} sentRun).getD {}

/-- The idle event of the turn before. -/
def earlierIdle : Event :=
  { sdkSessionId := "session-1", eventId := some "event-0", receivedAt := 3
    body := .sessionIdle false }

def sentMessage : UserMessage := { contentHash := some "hash", promptHash := "hash" }

def acceptedFirst : List Event :=
  [acceptance "session-1" sentId "event-1" 3, earlierIdle]

def acceptedDb : Db := (Run.run (write uuid5OfRun) sentDb (acceptedFirst.map .reduce)).getD {}

theorem sent_submission_is_correlated_accepted_first :
    ∃ last, Run.run (write uuid5OfRun) {} sentRun = some sentDb ∧
      Run.run (write uuid5OfRun) sentDb ((acceptedFirst ++
        [observation "session-1" "event-1" sentMessage 4]).map .reduce) = some last ∧
      Correlated sentId "event-1" sentDb last := by
  have reached : Run.run (write uuid5OfRun) {} sentRun = some sentDb := by decide +kernel
  have sending : (sentDb.submission sentId).map (fun row => (row.sdkSessionId, row.state)) =
      some ("session-1", .submitting) := by decide +kernel
  obtain ⟨row, found, columns⟩ := Option.map_eq_some_iff.mp sending
  have idle : ∀ event ∈ [earlierIdle], IsIdle "session-1" "event-1" event := by
    intro event member
    rw [List.mem_singleton.mp member]
    exact ⟨rfl, rfl, by decide, false, rfl⟩
  have order : (acceptedFirst ++ [observation "session-1" "event-1" sentMessage 4]).Perm
      (acceptance "session-1" sentId "event-1" 3 ::
        observation "session-1" "event-1" sentMessage 4 :: [earlierIdle]) :=
    .cons _ (.swap ..)
  obtain ⟨mid, last, ranBefore, ran, correlated⟩ := sent_submission_is_correlated reached found
    (congrArg Prod.fst columns) (congrArg Prod.snd columns) (by decide +kernel) idle
    (by decide +kernel) order
  have first : Run.run (write uuid5OfRun) sentDb (acceptedFirst.map .reduce) = some acceptedDb := by
    decide +kernel
  rw [first] at ranBefore
  cases ranBefore
  refine ⟨last, reached, ran, correlated.mpr ⟨rfl, by decide, .inl ?_⟩⟩
  unfold Only
  decide +kernel

/-- The idle event overtakes the acceptance, which is then not recorded: the message of the
accepted id becomes a submission of its own. -/
theorem overtaken_acceptance_is_not_recorded :
    ∃ last, Run.run (write uuid5OfRun) {} sentRun = some sentDb ∧
      (sentDb.submission sentId).map (·.state) = some .submitting ∧
      journaled sentDb (observation "session-1" "event-1" sentMessage 4) = false ∧
      IsIdle "session-1" "event-1" earlierIdle ∧
      Run.run (write uuid5OfRun) sentDb ([earlierIdle,
        acceptance "session-1" sentId "event-1" 3,
        observation "session-1" "event-1" sentMessage 4].map .reduce) = some last ∧
      ¬ Correlated sentId "event-1" sentDb last ∧
      (last.submission "e699f743-4cdb-57e3-9946-5f1ea2396325").map
        (fun row => (row.origin, row.observedUserEventId)) =
        some ("runtime_observed", some "event-1") := by
  have runs : (Run.run (write uuid5OfRun) sentDb ([earlierIdle,
      acceptance "session-1" sentId "event-1" 3,
      observation "session-1" "event-1" sentMessage 4].map .reduce)).map (fun last =>
        ((last.submission sentId).map (·.observedUserEventId),
          (last.submission "e699f743-4cdb-57e3-9946-5f1ea2396325").map
            (fun row => (row.origin, row.observedUserEventId)))) =
      some (some none, some ("runtime_observed", some "event-1")) := by decide +kernel
  obtain ⟨last, ran, columns⟩ := Option.map_eq_some_iff.mp runs
  obtain ⟨own, other⟩ := Prod.mk.inj columns
  refine ⟨last, by decide +kernel, by decide +kernel, by decide +kernel,
    ⟨rfl, rfl, by decide, false, rfl⟩, ran, ?_, other⟩
  rintro ⟨⟨row, found, observed⟩, _⟩
  rw [found, Option.map_some, observed] at own
  cases own

end Copilotd.Guarantees.SubmissionCorrelation
