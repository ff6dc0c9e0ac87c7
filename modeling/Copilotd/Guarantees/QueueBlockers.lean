import Mathlib.Data.Fintype.Defs
import Mathlib.Tactic.Linarith
import Copilotd.Source.Core.SubmissionViews

/-!
# Settled queue items and the detach blockers

`detach_blockers` counts a queue row unless it is cancelled, submitted, submitted unknown or
failed.  Several writers settle the submission of a row that they leave counted: a rejection
moves the row to `rejected`, an idle session to `outcome_unknown`, lost content to
`content_unavailable`, and `active_unknown` and the startup recovery do not touch it at all.
-/
namespace Copilotd.Guarantees.QueueBlockers

open Base Base.Table Source.Core.Submissions
open Source.Storage (SubmissionState)

variable {uuid5 : String → String}

/-- The states in which a submission is neither dispatched nor cancelled any more. -/
def finalStates : List SubmissionState :=
  [.rejected, .cancelled, .semanticComplete, .outcomeUnknown, .submittedUnknown]

/-- The rows of an id, as far as a writer looks at them, are none that it settles under a
counted queue row. -/
def Spares (writer : Writer) (id : String) (row : Submission) (item : Option QueueItem) : Prop :=
  match writer with
  | .reduce event =>
    match event.body with
    | .queued data => id = data.submissionId → item = none → row.state ∉ finalStates
    | .queueReplaced data => id = data.newId → item = none → row.state ∉ finalStates
    | .cancelQueued ids states => id ∈ ids → row.state = .localQueued →
      ∀ queued ∈ item, queued.state ∈ states ∨ blocksDetach queued = false
    | .activeUnknown => row.sdkSessionId = event.sdkSessionId → row.state ∈ activeStates →
      ∀ queued ∈ item, blocksDetach queued = false
    | .acceptanceUnknown target => id = target → row.state ≠ .rejected → row.evidenced = false →
      ∀ queued ∈ item, queued.state ∈ [.localQueued, .submitting] ∨ blocksDetach queued = false
    | .rejected target => id = target → row.sdkSessionId = event.sdkSessionId →
      row.acceptedMessageId = none → row.state ≠ .rejected →
      ∀ queued ∈ item, queued.state ∈ [.cancelled, .failed]
    | .sessionIdle _ => row.sdkSessionId = event.sdkSessionId → row.observedUserEventId = none →
      row.createdAt ≤ event.receivedAt → row.state ∈ sentStates →
      ∀ queued ∈ item, queued.state ∈ [.cancelled, .failed]
    | .quietSnapshot quiet _ => settles event.sdkSessionId quiet row = some .semanticComplete →
      ∀ queued ∈ item, blocksDetach queued = false
    | _ => True
  | .contentUnavailable target _ => id = target → row.state ∈ .localQueued :: finalStates →
    ∀ queued ∈ item, queued.state ∈ [.cancelled, .submitted, .failed]
  | .recover lost expired _ =>
    (id ∈ lost → row.state = .localQueued → ∀ queued ∈ item, queued.state ∉ recoverableStates) ∧
      (row.sdkSessionId ∈ expired → row.state ∈ activeStates →
        ∀ queued ∈ item, blocksDetach queued = false)
  | .takeover sdkSessionId _ => row.sdkSessionId = sdkSessionId → row.state ∈ activeStates →
    ∀ queued ∈ item, blocksDetach queued = false ∨
      row.state ∈ [.submitting, .submitted] ∧ queued.state = .submitting
  | .requeue .. => True

instance (writer : Writer) (id : String) (row : Submission) (item : Option QueueItem) :
    Decidable (Spares writer id row item) := by
  unfold Spares
  split
  · split <;> infer_instance
  · infer_instance
  · infer_instance
  · infer_instance
  · infer_instance

/-- The writer is the reducer with an event it has seen. -/
def repeats (db : Db) : Writer → Bool
  | .reduce event => journaled db event
  | _ => false

/-- The transaction repeats an event, or it spares every submission. -/
def Clear (db : Db) (writer : Writer) : Prop :=
  repeats db writer = true ∨
    ∀ row ∈ db.submissions, Spares writer row.submissionId row (db.item row.submissionId)

instance (db : Db) (writer : Writer) : Decidable (Clear db writer) := by
  unfold Clear
  infer_instance

/-- A queue row has a submission, and is not counted once that is settled. -/
def Open (view : View) : Prop :=
  ∀ item, view.item = some item →
    ∃ row, view.row = some row ∧ (row.state ∈ finalStates → blocksDetach item = false)

/-! ## One transaction -/

variable {item : Option QueueItem}

theorem Open.row {row after : Submission} (before : Open ⟨some row, item⟩)
    (kept : ∀ queued, item = some queued → after.state ∈ finalStates →
      row.state ∈ finalStates ∨ blocksDetach queued = false) : Open ⟨some after, item⟩ := by
  intro queued found
  obtain ⟨old, same, free⟩ := before queued found
  cases same
  refine ⟨after, rfl, ?_⟩
  intro final
  rcases kept queued found final with was | uncounted
  · exact free was
  · exact uncounted

theorem uncounted_iff {item : QueueItem} : blocksDetach item = false ↔
    item.state ∈ [.cancelled, .submitted, .submittedUnknown, .failed] := by
  simp only [blocksDetach, decide_eq_false_iff_not, not_not]

variable {fromStates : List QueueState} {state : QueueState}

theorem blocksDetach_moveIf {item : QueueItem}
    (uncounted : state ∈ [.cancelled, .submitted, .submittedUnknown, .failed])
    (was : blocksDetach item = false) : blocksDetach (moveIf fromStates state item) = false := by
  unfold moveIf
  split
  · exact uncounted_iff.mpr uncounted
  · exact was

theorem Open.moved {row : Option Submission} (before : Open ⟨row, item⟩)
    (uncounted : state ∈ [.cancelled, .submitted, .submittedUnknown, .failed]) :
    Open ⟨row, item.map (moveIf fromStates state)⟩ := by
  intro queued found
  obtain ⟨old, was, rfl⟩ := Option.map_eq_some_iff.mp found
  obtain ⟨submission, same, free⟩ := before old was
  refine ⟨submission, same, ?_⟩
  intro final
  exact blocksDetach_moveIf uncounted (free final)

theorem open_of_active {row : Submission}
    (active : row.state ∉ finalStates) : Open ⟨some row, item⟩ := by
  intro queued _
  exact ⟨row, rfl, fun final => absurd final active⟩

theorem uncounted_of_finished {item : QueueItem} (finished : item.state ∈ [.cancelled, .failed])
    (apart : .cancelled ∉ fromStates ∧ .failed ∉ fromStates) :
    blocksDetach (moveIf fromStates state item) = false := by
  simp only [List.mem_cons, List.not_mem_nil, or_false] at finished
  rcases finished with was | was
  · rw [moveIf, if_neg (by rw [was]; exact apart.1), uncounted_iff, was]
    simp
  · rw [moveIf, if_neg (by rw [was]; exact apart.2), uncounted_iff, was]
    simp

theorem idleState_active (aborted : Bool) (row : Submission) :
    idleState aborted row ∉ finalStates := by
  unfold idleState finalStates
  split
  · simp
  · split
    · simp
    · split <;> simp

theorem Change.clear {db : Db} {id : String} {writer : Writer} {view result : View}
    (change : Change db id writer view result) (before : Open view)
    (spares : ∀ row, view.row = some row → Spares writer id row view.item) : Open result := by
  cases change with
  | kept => exact before
  | inserted body new queued =>
    cases view with
    | mk row item =>
      cases item with
      | some old =>
        obtain ⟨submission, same, free⟩ := before old rfl
        cases same
        exact before
      | none =>
        cases row with
        | none => exact open_of_active (by simp [new.1, finalStates])
        | some submission =>
          refine open_of_active ?_
          have spared := spares submission rfl
          rcases body with ⟨data, kind, target⟩ | ⟨data, kind, target⟩
          · simp only [Spares, kind] at spared
            exact spared target trivial
          · simp only [Spares, kind] at spared
            exact spared target trivial
  | retired =>
    intro item found
    cases found
    exact ⟨_, rfl, fun _ => rfl⟩
  | postponed =>
    intro item found
    cases found
    obtain ⟨row, same, free⟩ := before _ rfl
    exact ⟨row, same, free⟩
  | claimed => exact open_of_active (by simp [finalStates])
  | cancelled body listed =>
    intro item found
    obtain ⟨old, was, rfl⟩ := Option.map_eq_some_iff.mp found
    obtain ⟨row, same, free⟩ := before old was
    refine ⟨_, by rw [same, Option.map_some], ?_⟩
    split
    next waiting =>
      intro _
      have spared := spares row same
      simp only [Spares, body] at spared
      rcases spared listed waiting old was with hit | uncounted
      · simp [moveIf, hit, blocksDetach]
      · exact blocksDetach_moveIf (by simp) uncounted
    · intro final
      exact blocksDetach_moveIf (by simp) (free final)
  | deferred | requeued => exact open_of_active (by simp [dequeue, finalStates])
  | blocked body queued =>
    intro item found
    cases found
    obtain ⟨row, same, free⟩ := before _ rfl
    refine ⟨row, same, ?_⟩
    intro final
    have uncounted := free final
    simp [blocksDetach, queued] at uncounted
  | forgotten body session active =>
    refine before.row ?_
    intro queued found _
    have spared := spares _ rfl
    simp only [Spares, body] at spared
    exact .inr (spared session active queued found)
  | @accepted event messageId row item body =>
    refine Open.moved ?_ (by simp)
    refine before.row ?_
    intro queued found final
    left
    split at final
    · simp only [recordAcceptance] at final
      split at final
      · simp [finalStates] at final
      · exact final
    · exact final
  | corrected =>
    exact open_of_active (by simp [recordAcceptance, clearObservation, finalStates])
  | copied body stored observed =>
    intro item found
    obtain ⟨row, same, _⟩ := before item found
    cases same
  | doubted body =>
    intro item found
    obtain ⟨old, was, rfl⟩ := Option.map_eq_some_iff.mp found
    obtain ⟨row, same, free⟩ := before old was
    refine ⟨_, by rw [same, Option.map_some], ?_⟩
    split
    next settles =>
      intro _
      have spared := spares row same
      simp only [Spares, body] at spared
      have unevidenced : view.row.any (·.evidenced) = false := by
        rw [same, Option.any_some]
        exact settles.2
      rw [unevidenced]
      rcases spared trivial settles.1 settles.2 old was with waiting | uncounted
      · simp [moveIf, waiting, blocksDetach]
      · exact blocksDetach_moveIf (by simp) uncounted
    · intro final
      refine blocksDetach_moveIf ?_ (free final)
      split <;> simp
  | refused | noticed => exact before.moved (by simp)
  | rejected body session unaccepted unsettled same state =>
    intro item found
    obtain ⟨old, was, rfl⟩ := Option.map_eq_some_iff.mp found
    refine ⟨_, rfl, ?_⟩
    intro _
    have spared := spares _ rfl
    simp only [Spares, body] at spared
    have finished := spared trivial session unaccepted unsettled old was
    exact uncounted_of_finished finished (by simp)
  | observed body same state =>
    exact open_of_active (by simp [state, finalStates])
  | created body state => exact open_of_active (by simp [state, finalStates])
  | idled body running same evidence state =>
    exact open_of_active (state ▸ idleState_active _ _)
  | orphaned body session unobserved created sent same evidence state =>
    intro item found
    cases found
    refine ⟨_, rfl, ?_⟩
    intro _
    have spared := spares _ rfl
    simp only [Spares, body] at spared
    have finished := spared session unobserved created sent _ rfl
    exact uncounted_of_finished finished (by simp)
  | tasked body same evidence state =>
    refine before.row ?_
    intro queued found final
    rcases state with state | state
    · exact .inl (state ▸ final)
    · simp [state, finalStates] at final
  | settled body settles same evidence =>
    refine before.row ?_
    intro queued found final
    have spared := spares _ rfl
    simp only [Spares, body] at spared
    rcases (settles_states settles).2 with complete | blocked
    · rw [complete] at settles
      exact .inr (spared settles queued found)
    · simp [blocked, finalStates] at final
  | reopened body complete same evidence state =>
    exact open_of_active (by simp [state, finalStates])
  | contentLost =>
    intro item found
    obtain ⟨old, was, rfl⟩ := Option.map_eq_some_iff.mp found
    obtain ⟨row, same, _⟩ := before old was
    refine ⟨_, by rw [same, Option.map_some], ?_⟩
    intro final
    have spared := spares row same
    simp only [Spares] at spared
    have reached : row.state ∈ .localQueued :: finalStates := by
      split at final
      next waiting => simp [waiting]
      · exact List.mem_cons_of_mem _ final
    have finished := spared trivial reached old was
    simp only [List.mem_cons, List.not_mem_nil, or_false] at finished
    rw [if_neg (by rcases finished with state | state | state <;> simp [state]), uncounted_iff]
    rcases finished with state | state | state <;> simp [state]
  | recovered gone means =>
    intro item found
    obtain ⟨old, was, rfl⟩ := Option.map_eq_some_iff.mp found
    obtain ⟨row, same, free⟩ := before old was
    refine ⟨_, by rw [same, Option.map_some], ?_⟩
    intro final
    have spared := spares row same
    have uncounted : blocksDetach old = false := by
      split at final
      next lostItem =>
        obtain ⟨inLost, recoverable⟩ := means.mp lostItem.1
        rw [was, Option.any_some, decide_eq_true_eq] at recoverable
        exact absurd recoverable (spared.1 inLost lostItem.2 old was)
      · split at final
        next expired => exact spared.2 expired.1 expired.2 old was
        · exact free final
    have present : gone = false := by
      rw [Bool.eq_false_iff]
      intro isGone
      have recoverable := (means.mp isGone).2
      rw [was, Option.any_some, decide_eq_true_eq] at recoverable
      have finished := uncounted_iff.mp uncounted
      simp only [List.mem_cons, List.not_mem_nil, or_false] at finished
      rcases finished with state | state | state | state <;>
        simp [state, recoverableStates] at recoverable
    rw [present]
    exact uncounted
  | @takenOver sdkSessionId now =>
    intro item found
    obtain ⟨old, was, rfl⟩ := Option.map_eq_some_iff.mp found
    obtain ⟨row, same, free⟩ := before old was
    refine ⟨_, by rw [same, Option.map_some], ?_⟩
    intro final
    have spared := spares row same
    split at final
    next lost =>
      rcases spared lost.1 lost.2 old was with uncounted | ⟨sent, submitting⟩
      · split
        · simp [blocksDetach]
        · exact uncounted
      · have leaves : view.row.any (fun row => row.sdkSessionId = sdkSessionId ∧
            row.state ∈ [.submitting, .submitted]) = true := by
          rw [same, Option.any_some, decide_eq_true_eq]
          exact ⟨lost.1, sent⟩
        rw [if_pos ⟨leaves, submitting⟩]
        simp [blocksDetach]
    · split
      · simp [blocksDetach]
      · exact free final

/-! ## Runs -/

theorem open_write {db after : Db} {writer : Writer} (before : ∀ id, Open (db.view id))
    (clear : Clear db writer) (done : write uuid5 db writer = some after) (id : String) :
    Open (after.view id) := by
  rcases clear with duplicate | spares
  · cases writer with
    | reduce event =>
      rw [repeats] at duplicate
      simp only [write, persist, duplicate, if_true, Except.toOption] at done
      cases done
      exact before id
    | contentUnavailable | requeue | recover | takeover => cases duplicate
  · refine Change.clear (change_of_write id done) (before id) ?_
    intro row found
    have spared := spares row (lookup_some_mem found)
    rwa [submission_key found] at spared

/-- In a run whose transactions are all clear, every queue row that `detach_blockers` counts
belongs to a submission that is not settled. -/
theorem counted_rows_are_open {writers : List Writer} {db : Db}
    (reached : Run.run (write uuid5) {} writers = some db)
    (clear : Run.Along (write uuid5) Clear {} writers) :
    ∀ item ∈ db.queue, blocksDetach item = true →
      ∃ row, db.submission item.id = some row ∧ row.state ∉ finalStates := by
  have unique : (queueIds {}).Nodup := List.nodup_nil
  have keyed : (queueIds db).Nodup :=
    Run.run_inv (fun _ _ _ keyed done => nodup_write keyed done) unique reached
  have empty : ∀ id, Open (Db.view {} id) := by
    intro id item found
    cases found
  have opened : ∀ id, Open (db.view id) :=
    Run.run_inv_along (fun _ _ _ before clear done => open_write before clear done) clear empty
      reached
  intro item member counted
  obtain ⟨row, found, free⟩ := opened item.id item (lookup_of_mem keyed member)
  refine ⟨row, found, ?_⟩
  intro final
  rw [free final] at counted
  cases counted

/-- A message that is sent, accepted, observed and answered. -/
def answeredRun : List Writer :=
  [.reduce { sdkSessionId := "session-1", internalEventId := some "queued"
             body := .queued { submissionId := "message-1", threadId := "thread-1"
                               promptHash := "hash", createdAt := 1 } },
    .reduce { sdkSessionId := "session-1", internalEventId := some "submitting", receivedAt := 2
              body := .submitting { submissionId := "message-1", operationId := "operation-1" } },
    .reduce { sdkSessionId := "session-1", internalEventId := some "accepted", receivedAt := 3
              exactMapping := true, body := .accepted "message-1" "event-1" },
    .reduce { sdkSessionId := "session-1", eventId := some "event-1", receivedAt := 4
              exactMapping := true, body := .userMessage {} },
    .reduce { sdkSessionId := "session-1", eventId := some "event-2", receivedAt := 5
              body := .sessionIdle false },
    .reduce { sdkSessionId := "session-1", internalEventId := some "snapshot", receivedAt := 6
              body := .quietSnapshot [("message-1", .absent)] 6 }]

theorem counted_rows_are_open_answered :
    ∃ db, Run.run (write id) {} answeredRun = some db ∧ localQueue "thread-1" db = 0 ∧
      ∀ item ∈ db.queue, blocksDetach item = true →
        ∃ row, db.submission item.id = some row ∧ row.state ∉ finalStates := by
  have clear : Run.Along (write id) Clear {} answeredRun := by decide +kernel
  have runs : (Run.run (write id) {} answeredRun).map (localQueue "thread-1") = some 0 := by
    decide +kernel
  obtain ⟨db, reached, free⟩ := Option.map_eq_some_iff.mp runs
  exact ⟨db, reached, free, counted_rows_are_open reached clear⟩

/-- A message that the SDK rejects stays in the count. -/
theorem rejected_row_is_counted :
    ∃ writers db, Run.run (write id) {} writers = some db ∧ localQueue "thread-1" db = 1 ∧
      ∃ item ∈ db.queue, blocksDetach item = true ∧
        ∃ row ∈ db.submission item.id, row.state = .rejected := by
  have runs : ∃ db ∈ Run.run (write id) {}
      [.reduce { sdkSessionId := "session-1", internalEventId := some "queued"
                 body := .queued { submissionId := "message-1", threadId := "thread-1"
                                   promptHash := "hash", createdAt := 1 } },
        .reduce { sdkSessionId := "session-1", internalEventId := some "submitting"
                  body := .submitting { submissionId := "message-1"
                                        operationId := "operation-1" } },
        .reduce { sdkSessionId := "session-1", internalEventId := some "rejected"
                  body := .rejected "message-1" }],
      localQueue "thread-1" db = 1 ∧ ∃ item ∈ db.queue, blocksDetach item = true ∧
        ∃ row ∈ db.submission item.id, row.state = .rejected := by
    decide +kernel
  obtain ⟨db, reached, facts⟩ := runs
  exact ⟨_, db, reached, facts⟩

end Copilotd.Guarantees.QueueBlockers
