import Copilotd.Source.Core.QueuePasses
import Copilotd.Source.Core.SubmissionRows

/-!
# Queued sends go out one at a time

A pass counts the unsettled submissions and reads the head of the queue in two queries, and
holds `_queue_dispatch_lock` meanwhile.  The lock keeps other passes away, but neither the
mailbox, which still runs the operation of a pass that was cancelled, nor the SDK.  So the
exclusion holds in the runs in which the submissions of the app are still settled when the item
is read, no operation of another item can still send, and no event of the SDK reaches another
submission of the app before the item is sent.  The order needs none of this.
-/
namespace Copilotd.Guarantees.QueueExclusion

open Base Source.Core.Submissions Source.Core.QueueRuntime Source.Core.QueuePasses
open Source.Storage (SubmissionState)

variable {uuid5 : String → String} {session : Session}

/-! ## What makes a submission unsettled -/

/-- The submission that an event of the SDK makes active or continued. -/
def reachedBy (uuid5 : String → String) (event : Event) (db : Db) : Option String :=
  match event.body with
  | .userMessage message => event.eventId.map fun eventId =>
    messageTarget uuid5 event.exactMapping event.sdkSessionId eventId message event.receivedAt db
  | .taskComplete (some .continue) objectiveId =>
    match taskCandidates event.sdkSessionId objectiveId db with
    | [row] => some row.submissionId
    | _ => none
  | _ => none

/-- The submission that a transaction may make unsettled. -/
def woken (uuid5 : String → String) (db : Db) : Writer → Option String
  | .reduce event =>
    match event.body with
    | .submitting data =>
      if (db.item data.submissionId).any (·.state = .localQueued) then some data.submissionId
      else none
    | .accepted submissionId _ | .acceptanceUnknown submissionId => some submissionId
    | _ => reachedBy uuid5 event db
  | _ => none

variable {writer : Writer}

section Waking

variable {db after : Db} {id : String} {kept : Submission}

theorem message_new {exactMapping : Bool} {sdkSessionId eventId : String} {message : UserMessage}
    {receivedAt : ℚ} (left : (applyUserMessage uuid5 exactMapping sdkSessionId eventId message
      receivedAt db).submission id = some kept) (new : db.submission id = none) :
    kept.origin = "runtime_observed" := by
  have observed : ∀ submissionId continuation, (observeSubmission sdkSessionId submissionId eventId
      continuation receivedAt db).submission id = some kept → kept.origin = "runtime_observed" := by
    intro submissionId continuation there
    rw [submission_observeSubmission, new] at there
    cases there
  have created : (createRuntimeObservedSubmission uuid5 sdkSessionId eventId message receivedAt
      db).submission id = some kept → kept.origin = "runtime_observed" := by
    intro there
    rw [createRuntimeObservedSubmission, submission_observeSubmission,
      submission_insertSubmission, new, Option.none_or] at there
    obtain ⟨row, made, rfl⟩ := Option.map_eq_some_iff.mp there
    split at made
    · cases made
      split
      · rfl
      · rfl
    · cases made
  unfold applyUserMessage at left
  dsimp only at left
  split at left
  · exact created left
  · split at left
    · split at left
      · exact observed _ _ left
      · split at left
        · exact observed _ _ left
        · exact created left
    · split at left
      · exact observed _ _ left
      · exact created left

theorem lost_unsettled {now : ℚ} {row : Submission}
    (unsettled : (loseOwner now row).state ∈ unsettledStates) : row.state ∈ unsettledStates := by
  cases state : row.state <;> simp [loseOwner, lostState, state, unsettledStates] at unsettled ⊢

/-- The events whose target `Change` does not name. -/
def ofSdk (body : Body) : Prop :=
  (∃ message, body = .userMessage message) ∨
    (∃ outcome objectiveId, body = .taskComplete outcome objectiveId) ∨
    ∃ submissionId objectiveId status, body = .autopilotObjective submissionId objectiveId status

theorem Change.waking {view result : View}
    (change : Change db id writer view result) (left : result.row = some kept)
    (unsettled : kept.state ∈ unsettledStates) (sent : kept.origin ≠ "runtime_observed") :
    (∃ row, view.row = some row ∧ row.state ∈ unsettledStates) ∨
      ∃ event, writer = .reduce event ∧ (ofSdk event.body ∨ view.row.isSome = true ∧
        ((∃ data, event.body = .submitting data ∧ id = data.submissionId ∧
            view.item.any (·.state = .localQueued) = true) ∨
          (∃ messageId, event.body = .accepted id messageId) ∨
          event.body = .acceptanceUnknown id)) := by
  cases change with
  | kept | postponed | blocked | refused | noticed => exact .inl ⟨kept, left, unsettled⟩
  | @inserted event view row item body new queued =>
    cases found : view.row with
    | some old =>
      simp only [found, Option.some_or, Option.some.injEq] at left
      exact .inl ⟨old, rfl, left ▸ unsettled⟩
    | none =>
      simp only [found, Option.none_or, Option.some.injEq] at left
      subst left
      rw [new.1] at unsettled
      simp [unsettledStates] at unsettled
  | retired | forgotten =>
    cases left
    simp [unsettledStates] at unsettled
  | claimed body target session waiting queued =>
    exact .inr ⟨_, rfl, .inr ⟨rfl, .inl ⟨_, body, target, by simp [queued]⟩⟩⟩
  | cancelled | contentLost =>
    obtain ⟨row, found, rfl⟩ := Option.map_eq_some_iff.mp left
    split at unsettled
    · simp [unsettledStates] at unsettled
    · exact .inl ⟨row, found, unsettled⟩
  | deferred | requeued =>
    cases left
    simp [unsettledStates, dequeue] at unsettled
  | accepted body | corrected body => exact .inr ⟨_, rfl, .inr ⟨rfl, .inr (.inl ⟨_, body⟩)⟩⟩
  | copied =>
    cases left
    exact absurd rfl sent
  | doubted body =>
    obtain ⟨row, found, _⟩ := Option.map_eq_some_iff.mp left
    exact .inr ⟨_, rfl, .inr ⟨by simp [found], .inr (.inr body)⟩⟩
  | rejected body session unaccepted open_ same state =>
    cases left
    simp [unsettledStates, state] at unsettled
  | observed body | created body => exact .inr ⟨_, rfl, .inl (.inl ⟨_, body⟩)⟩
  | idled body running =>
    refine .inl ⟨_, rfl, ?_⟩
    rcases List.mem_pair.mp running with state | state
    · simp [state, unsettledStates]
    · simp [state, unsettledStates]
  | orphaned body session unobserved created sending same evidence state =>
    cases left
    simp [unsettledStates, state] at unsettled
  | tasked body =>
    rcases body with ⟨outcome, objectiveId, body⟩ | ⟨submissionId, objectiveId, status, body⟩
    · exact .inr ⟨_, rfl, .inl (.inr (.inl ⟨outcome, objectiveId, body⟩))⟩
    · exact .inr ⟨_, rfl, .inl (.inr (.inr ⟨submissionId, objectiveId, status, body⟩))⟩
  | settled body settles =>
    cases left
    rcases (settles_states settles).2 with state | state
    · simp [unsettledStates, state] at unsettled
    · simp [unsettledStates, state] at unsettled
  | reopened body complete same evidence state =>
    cases left
    simp [unsettledStates, state] at unsettled
  | recovered gone =>
    obtain ⟨row, found, rfl⟩ := Option.map_eq_some_iff.mp left
    split at unsettled
    · simp [unsettledStates] at unsettled
    · split at unsettled
      · exact .inl ⟨row, found, lost_unsettled unsettled⟩
      · exact .inl ⟨row, found, unsettled⟩
  | takenOver =>
    obtain ⟨row, found, rfl⟩ := Option.map_eq_some_iff.mp left
    split at unsettled
    · exact .inl ⟨row, found, lost_unsettled unsettled⟩
    · exact .inl ⟨row, found, unsettled⟩

theorem waking_sdk {event : Event} (named : ofSdk event.body)
    (done : applyDomainState uuid5 event db = .ok after) (left : after.submission id = some kept)
    (unsettled : kept.state ∈ unsettledStates) (sent : kept.origin ≠ "runtime_observed") :
    ∃ row, db.submission id = some row ∧
      (row.state ∈ unsettledStates ∨ reachedBy uuid5 event db = some id) := by
  rcases named with ⟨message, body⟩ | ⟨outcome, objectiveId, body⟩ |
    ⟨submissionId, objectiveId, status, body⟩
  · simp only [applyDomainState, body] at done
    split at done
    · cases done
    next eventId received =>
      cases done
      cases found : db.submission id with
      | none => exact absurd (message_new left found) sent
      | some row =>
        refine ⟨row, rfl, ?_⟩
        rcases message_row left with same | target
        · rw [found] at same
          cases same
          exact .inl unsettled
        · exact .inr (by simp only [reachedBy, body, received, Option.map_some, target])
  · simp only [applyDomainState, body] at done
    cases done
    rcases task_row left with ⟨row, found, same⟩ | ⟨goes, candidate, single, target⟩
    · exact ⟨row, found, .inl (same ▸ unsettled)⟩
    · have listed : candidate ∈ taskCandidates event.sdkSessionId objectiveId db := by
        rw [single]
        exact List.mem_singleton_self candidate
      have stored : (db.submission candidate.submissionId).isSome = true := by
        rw [Db.submission, Table.lookup, List.find?_isSome]
        exact ⟨candidate, (List.mem_filter.mp listed).1, by simp⟩
      obtain ⟨row, found⟩ := Option.isSome_iff_exists.mp stored
      subst target
      exact ⟨row, found, .inr (by simp only [reachedBy, body, goes, single])⟩
  · simp only [applyDomainState, body] at done
    cases done
    rw [applyAutopilotObjective, submission_updateSubmissions _ _ (by intro row; rfl)] at left
    obtain ⟨row, found, rfl⟩ := Option.map_eq_some_iff.mp left
    refine ⟨row, found, .inl ?_⟩
    split at unsettled
    · exact unsettled
    · exact unsettled

/-- A submission of the app that a transaction leaves unsettled was so before, or is the one
the transaction is about. -/
theorem waking_write (done : write uuid5 db writer = some after)
    (left : after.submission id = some kept) (unsettled : kept.state ∈ unsettledStates)
    (sent : kept.origin ≠ "runtime_observed") :
    ∃ row, db.submission id = some row ∧
      (row.state ∈ unsettledStates ∨ woken uuid5 db writer = some id) := by
  have view : (after.view id).row = some kept := left
  rcases Change.waking (change_of_write id done) view unsettled sent with
    ⟨row, found, before⟩ | ⟨event, rfl, named | ⟨there, about⟩⟩
  · exact ⟨row, found, .inl before⟩
  · obtain rfl | ⟨applied, handled, rfl⟩ := reduce_cases done
    · exact ⟨kept, left, .inl unsettled⟩
    · obtain ⟨row, found, before | reached⟩ := waking_sdk named handled left unsettled sent
      · exact ⟨row, found, .inl before⟩
      · refine ⟨row, found, .inr ?_⟩
        rcases named with ⟨message, body⟩ | ⟨outcome, objectiveId, body⟩ |
          ⟨submissionId, objectiveId, status, body⟩
        · simpa only [woken, body] using reached
        · simpa only [woken, body] using reached
        · simpa only [woken, body] using reached
  · obtain ⟨row, found⟩ := Option.isSome_iff_exists.mp there
    refine ⟨row, found, .inr ?_⟩
    rcases about with ⟨data, body, rfl, queued⟩ | ⟨messageId, body⟩ | body
    · simp only [woken, body]
      rw [if_pos]
      exact queued
    · simp only [woken, body]
    · simp only [woken, body]

end Waking

/-! ## Operations that can still send -/

def claimableStates : List QueueState := [.localQueued, .submitting, .submittedUnknown]

/-- The item was blocked, cancelled, replaced or settled. -/
def gone (db : Db) (submissionId : String) : Bool :=
  (db.item submissionId).any (·.state ∉ claimableStates)

/-- The operation has settled, or its claim comes too late. -/
def spent (db : Db) (operation : Operation) : Bool :=
  match operation.phase with
  | .settled _ => true
  | .pending | .reading => gone db operation.submissionId
  | _ => false

def awaitsSend (db : Db) (operation : Operation) : Bool :=
  match operation.phase with
  | .pending | .reading => !gone db operation.submissionId
  | .checking => true
  | _ => false

/-- The submissions that a pass or an operation is at work on. -/
def busy (state : State) : List String :=
  state.calls.map (·.submissionId) ++
    (state.operations.filter fun operation => !spent state.db operation).map (·.submissionId)

/-- Those that were picked and not sent yet. -/
def ahead (state : State) : List String :=
  (state.calls.filter (·.phase = .admitted)).map (·.submissionId) ++
    (state.operations.filter (awaitsSend state.db)).map (·.submissionId)

variable {id : String}

theorem mem_busy {state : State} : id ∈ busy state ↔
    (∃ call ∈ state.calls, call.submissionId = id) ∨
      ∃ operation ∈ state.operations, spent state.db operation = false ∧
        operation.submissionId = id := by
  simp [busy, and_assoc]

theorem mem_ahead {state : State} : id ∈ ahead state ↔
    (∃ call ∈ state.calls, call.phase = .admitted ∧ call.submissionId = id) ∨
      ∃ operation ∈ state.operations, awaitsSend state.db operation = true ∧
        operation.submissionId = id := by
  simp [ahead, and_assoc]

variable {operation : Operation}

variable {db : Db}

theorem not_spent (awaits : awaitsSend db operation = true) :
    spent db operation = false := by
  unfold awaitsSend at awaits
  unfold spent
  split at awaits
  next pending =>
    rw [pending]
    simpa using awaits
  next reading =>
    rw [reading]
    simpa using awaits
  next checking => rw [checking]
  · cases awaits

theorem ahead_busy {state : State} (there : id ∈ ahead state) : id ∈ busy state := by
  rw [mem_busy]
  rcases mem_ahead.mp there with ⟨call, inside, _, same⟩ | ⟨operation, inside, awaits, same⟩
  · exact .inl ⟨call, inside, same⟩
  · exact .inr ⟨operation, inside, not_spent awaits, same⟩

theorem moveIf_gone {item : QueueItem} {fromStates : List QueueState} {state : QueueState}
    (target : state ∉ claimableStates ∨ ∀ old ∈ fromStates, old ∈ claimableStates)
    (left : item.state ∉ claimableStates) :
    (moveIf fromStates state item).state ∉ claimableStates := by
  unfold moveIf
  split
  next listed =>
    rcases target with settled | claims
    · exact settled
    · exact absurd (claims _ listed) left
  · exact left

theorem Change.gone {view result : View} (change : Change db id writer view result)
    (before : ∃ item, view.item = some item ∧ item.state ∉ claimableStates) :
    ∃ item, result.item = some item ∧ item.state ∉ claimableStates := by
  obtain ⟨item, found, left⟩ := before
  cases change with
  | kept | forgotten | copied | idled | tasked | settled | reopened => exact ⟨item, found, left⟩
  | inserted => exact ⟨item, by simp [found], left⟩
  | retired | blocked => exact ⟨_, rfl, by simp [claimableStates]⟩
  | postponed =>
    cases found
    exact ⟨_, rfl, left⟩
  | claimed body target session waiting queued =>
    cases found
    simp [queued, claimableStates] at left
  | cancelled body listed =>
    simp only [found, Option.map_some]
    exact ⟨_, rfl, moveIf_gone (.inl (by simp [claimableStates])) left⟩
  | deferred =>
    cases found
    refine ⟨_, rfl, ?_⟩
    dsimp only
    rw [if_neg]
    · exact left
    · intro sending
      simp [sending, claimableStates] at left
  | requeued attempt unevidenced own =>
    cases found
    unfold requeueMatches at own
    split at own
    next both => simp [both.2, claimableStates] at left
    · rcases (of_decide_eq_true own).1 with both | both
      · simp [both.2, claimableStates] at left
      · simp [both.2, claimableStates] at left
  | accepted | corrected | refused | rejected | observed | noticed | created | orphaned =>
    cases found
    exact ⟨_, rfl, moveIf_gone (.inl (by simp [claimableStates])) left⟩
  | doubted =>
    simp only [found, Option.map_some]
    exact ⟨_, rfl, moveIf_gone (.inr (by simp [claimableStates])) left⟩
  | contentLost | recovered =>
    simp only [found, Option.map_some]
    refine ⟨_, rfl, ?_⟩
    split
    · simp [claimableStates]
    · exact left
  | takenOver =>
    simp only [found, Option.map_some]
    refine ⟨_, rfl, ?_⟩
    rw [if_neg]
    · exact left
    · rintro ⟨_, sending⟩
      simp [sending, claimableStates] at left

variable {submissionId : String}

theorem gone_iff : gone db submissionId = true ↔
    ∃ item, db.item submissionId = some item ∧ item.state ∉ claimableStates := by
  simp [gone, Option.any_eq_true]

theorem gone_write {after : Db}
    (done : write uuid5 db writer = some after) (before : gone db submissionId = true) :
    gone after submissionId = true := by
  rw [gone_iff] at before ⊢
  exact Change.gone (change_of_write submissionId done) before

theorem spent_write {after : Db}
    (done : write uuid5 db writer = some after) (before : spent db operation = true) :
    spent after operation = true := by
  unfold spent at before ⊢
  split at before
  · rfl
  · exact gone_write done before
  · exact gone_write done before
  · cases before

theorem awaitsSend_write {after : Db}
    (done : write uuid5 db writer = some after) (later : awaitsSend after operation = true) :
    awaitsSend db operation = true := by
  have kept :
    gone after operation.submissionId = false → gone db operation.submissionId = false := by
    intro left
    by_contra before
    rw [gone_write done (by simpa using before)] at left
    cases left
  unfold awaitsSend at later ⊢
  split at later
  · simpa using kept (by simpa using later)
  · simpa using kept (by simpa using later)
  · rfl
  · cases later

/-! ## One at a time -/

/-- A submission of the session that the app sends. -/
def ofApp (session : Session) (row : Submission) : Prop :=
  row.sdkSessionId = session.sdkSessionId ∧ row.origin ≠ "runtime_observed"

/-- A pass that takes an item finds the submissions of the app still settled, and no operation
of another item that can still send.  Between a pick and its send the SDK reaches no other
submission of the app. -/
def Undisturbed (uuid5 : String → String) (session : Session) (state : Passes) : Activity → Prop
  | .takes (.pick .dispatch) =>
    (∀ row ∈ state.runtime.db.submissions, ofApp session row → row.state ∉ unsettledStates) ∧
    ∀ item ∈ nextQueued session state.runtime.db, ∀ operation ∈ state.runtime.operations,
      operation.submissionId ≠ item.id → spent state.runtime.db operation = true
  | .takes (.event event) => ∀ target ∈ reachedBy uuid5 event state.runtime.db,
    ∀ row ∈ state.runtime.db.submission target, ofApp session row →
      ∀ id ∈ ahead state.runtime, id = target
  | _ => True

/-- `bridge.send` is invoked while no other submission of the app is unsettled. -/
def Alone (session : Session) (state : Passes) : Activity → Prop
  | .takes (.send index _) => ∀ operation ∈ state.runtime.operations[index]?,
    operation.phase = .checking → ∀ id row, id ≠ operation.submissionId →
      state.runtime.db.submission id = some row → ofApp session row →
      row.state ∉ unsettledStates
  | _ => True

structure Exclusive (session : Session) (state : State) : Prop where
  /-- There is a call only while its pass has the lock. -/
  turn : state.calls = [] ∨ ∃ call, state.calls = [call] ∧ call.locked = true ∧
    state.holder = some .dispatching
  one : ∀ id ∈ busy state, ∀ other ∈ busy state, id = other
  alone : ∀ id ∈ ahead state, ∀ other row, other ≠ id → state.db.submission other = some row →
    ofApp session row → row.state ∉ unsettledStates

variable {transaction : Writer}

section Steps

variable {state next after : State} {label : Label} {writer : Option Writer}

theorem Exclusive.idle (exclusive : Exclusive session state)
    (free : state.holder ≠ some .dispatching) : state.calls = [] := by
  rcases exclusive.turn with empty | ⟨call, _, _, holds⟩
  · exact empty
  · exact absurd holds free

variable {index : Nat} {call : Call}

theorem Exclusive.only (exclusive : Exclusive session state)
    (found : state.calls[index]? = some call) :
    state.calls = [call] ∧ index = 0 ∧ call.locked = true ∧ state.holder = some .dispatching := by
  rcases exclusive.turn with empty | ⟨other, single, locked, holds⟩
  · rw [empty] at found
    cases found
  · rw [single] at found ⊢
    cases index with
    | zero =>
      cases found
      exact ⟨rfl, rfl, locked, holds⟩
    | succ index => cases found

theorem Exclusive.shrink (exclusive : Exclusive session state) (db : next.db = state.db)
    (turn : next.calls = [] ∨ ∃ call, next.calls = [call] ∧ call.locked = true ∧
      next.holder = some .dispatching)
    (fewer : ∀ id ∈ busy next, id ∈ busy state) (less : ∀ id ∈ ahead next, id ∈ ahead state) :
    Exclusive session next := by
  refine ⟨turn, ?_, ?_⟩
  · intro id inside other also
    exact exclusive.one id (fewer id inside) other (fewer other also)
  · intro id inside other row different found
    rw [db] at found
    exact exclusive.alone id (less id inside) other row different found

variable {phase : OperationPhase}

theorem busy_setPhase (found : state.operations[index]? = some operation)
    (runs : spent state.db { operation with phase } = false → spent state.db operation = false)
    (inside : id ∈ busy (state.setPhase index operation phase)) : id ∈ busy state := by
  rw [mem_busy] at inside ⊢
  rcases inside with ⟨call, there, same⟩ | ⟨other, there, open_, same⟩
  · exact .inl ⟨call, there, same⟩
  · rcases Pool.mem_set_cases found there with rfl | kept
    · exact .inr ⟨operation, Pool.mem_of_getElem? found, runs open_, same⟩
    · exact .inr ⟨other, Pool.mem_of_mem_eraseIdx kept, open_, same⟩

theorem ahead_setPhase (found : state.operations[index]? = some operation)
    (waits : awaitsSend state.db { operation with phase } = true →
      awaitsSend state.db operation = true)
    (inside : id ∈ ahead (state.setPhase index operation phase)) : id ∈ ahead state := by
  rw [mem_ahead] at inside ⊢
  rcases inside with ⟨call, there, admitted, same⟩ | ⟨other, there, open_, same⟩
  · exact .inl ⟨call, there, admitted, same⟩
  · rcases Pool.mem_set_cases found there with rfl | kept
    · exact .inr ⟨operation, Pool.mem_of_getElem? found, waits open_, same⟩
    · exact .inr ⟨other, Pool.mem_of_mem_eraseIdx kept, open_, same⟩

theorem OperationMove.unsettled
    (moves : OperationMove session db operation writer phase) (outcome : Outcome) :
    operation.phase ≠ .settled outcome := by
  cases moves with
  | interrupted unsettled => exact unsettled outcome
  | fenced _ found | claims _ _ found | won found _ | lost _ found _ | defers found
  | requeues _ found _ | postpones _ found | oversize found | accepts _ _ _ found =>
    rw [found]
    nofun

theorem won_in_time (answer : claimAnswer session operation db = .claimed) :
    gone db operation.submissionId = false := by
  obtain ⟨row, item, _, _, _, stored, sending⟩ := claimAnswer_claimed answer
  simp [gone, stored, sending, claimableStates]

theorem OperationMove.runs (moves : OperationMove session db operation writer phase) :
    (spent db { operation with phase } = false → spent db operation = false) ∧
      (awaitsSend db { operation with phase } = true → awaitsSend db operation = true) := by
  cases moves with
  | fenced | lost | requeues | postpones | oversize | accepts | interrupted =>
    exact ⟨nofun, nofun⟩
  | claims ready now pending => simp [spent, awaitsSend, pending]
  | won reading answer => simp [spent, awaitsSend, reading, won_in_time answer]
  | defers checking => simp [spent, awaitsSend, checking]

theorem sent_runs {outcome : SendOutcome} (checking : operation.phase = .checking) :
    (spent db { operation with phase := sentPhase outcome } = false →
        spent db operation = false) ∧
      (awaitsSend db { operation with phase := sentPhase outcome } = true →
        awaitsSend db operation = true) := by
  simp [spent, awaitsSend, checking]

theorem submit_admitted (planned : plan uuid5 session state (.submit index) = some (writer, next))
    (found : state.calls[index]? = some call) : call.phase = .admitted := by
  obtain ⟨other, also, rest⟩ := Option.bind_eq_some_iff.mp planned
  rw [found] at also
  cases also
  split at rest
  next admitted => exact admitted
  · cases rest

theorem Exclusive.finish (exclusive : Exclusive session state)
    (found : state.calls[index]? = some call) :
    Exclusive session (state.finish index call) := by
  obtain ⟨single, rfl, _, _⟩ := exclusive.only found
  refine exclusive.shrink rfl (.inl (by simp [State.finish, single])) ?_ ?_
  · intro id inside
    rw [mem_busy] at inside ⊢
    rcases inside with ⟨other, there, same⟩ | work
    · exact .inl ⟨other, Pool.mem_of_mem_eraseIdx there, same⟩
    · exact .inr work
  · intro id inside
    rw [mem_ahead] at inside ⊢
    rcases inside with ⟨other, there, same⟩ | work
    · exact .inl ⟨other, Pool.mem_of_mem_eraseIdx there, same⟩
    · exact .inr work

theorem Exclusive.pick {item : QueueItem} (exclusive : Exclusive session state)
    (turn : state.holder = some .pumping)
    (settled : ∀ row ∈ state.db.submissions, ofApp session row → row.state ∉ unsettledStates)
    (others : ∀ operation ∈ state.operations, operation.submissionId ≠ item.id →
      spent state.db operation = true) :
    Exclusive session (pickItem uuid5 session .dispatch item state) := by
  have empty : state.calls = [] := exclusive.idle (by simp [turn])
  have only : ∀ id ∈ busy (pickItem uuid5 session .dispatch item state), id = item.id := by
    intro id inside
    rcases mem_busy.mp inside with ⟨call, there, same⟩ | ⟨operation, there, open_, same⟩
    · simp only [pickItem, empty, List.nil_append, List.mem_singleton] at there
      subst there
      exact same.symm
    · by_contra different
      rw [← same] at different
      have closed : spent state.db operation = true := others operation there different
      have open_ : spent state.db operation = false := open_
      rw [closed] at open_
      cases open_
  refine ⟨.inr ⟨_, (congrArg (· ++ _) empty).trans (List.nil_append _), rfl, rfl⟩, ?_, ?_⟩
  · intro id inside other also
    rw [only id inside, only other also]
  · intro id _ other row _ found mine
    exact settled row (Table.lookup_some_mem found) mine

/-- A step leaves one submission at work, on the old tables. -/
theorem exclusive_move {passes : Passes} (exclusive : Exclusive session passes.runtime)
    (within : attached label = true) (calm : Undisturbed uuid5 session passes (.takes label))
    (planned : plan uuid5 session passes.runtime label = some (writer, next)) :
    Exclusive session next := by
  have move := move_of_plan planned
  cases move with
  | enqueued | observed => exact exclusive
  | admitted => cases within
  | pumped free | cancels free | replaces free | forgot free =>
    exact exclusive.shrink rfl (.inl (exclusive.idle (by simp [free]))) (fun _ => id) fun _ => id
  | left =>
    have turn := pick_turn planned
    exact exclusive.shrink rfl (.inl (exclusive.idle (by simp [turn]))) (fun _ => id) fun _ => id
  | blocks turn | misses turn =>
    exact exclusive.shrink rfl (.inl (exclusive.idle (by simp [turn]))) (fun _ => id) fun _ => id
  | dispatches turn found => exact exclusive.pick turn calm.1 (calm.2 _ found)
  | blocked holds | marked holds | cancelled holds | replaced holds =>
    exact exclusive.shrink rfl (.inl (exclusive.idle (by simp [holds]))) (fun _ => id) fun _ => id
  | @joined index call late found =>
    obtain ⟨single, rfl, locked, holds⟩ := exclusive.only found
    have moved : passes.runtime.calls.set 0 { call with phase := .waiting late } =
        [{ call with phase := .waiting late }] := by rw [single, List.set_cons_zero]
    refine exclusive.shrink rfl (.inr ⟨_, moved, locked, holds⟩) ?_ ?_
    · intro id inside
      rw [mem_busy] at inside ⊢
      rw [single] at inside ⊢
      simpa using inside
    · intro id inside
      rw [mem_ahead] at inside ⊢
      rw [single] at inside ⊢
      rcases inside with ⟨other, there, waits, _⟩ | work
      · simp only [List.set_cons_zero, List.mem_singleton] at there
        subst there
        cases waits
      · exact .inr work
  | @created index call found new =>
    have admitted := submit_admitted planned found
    obtain ⟨single, rfl, locked, holds⟩ := exclusive.only found
    have here : call ∈ passes.runtime.calls := Pool.mem_of_getElem? found
    have moved : passes.runtime.calls.set 0 { call with phase := .waiting false } =
        [{ call with phase := .waiting false }] := by rw [single, List.set_cons_zero]
    refine exclusive.shrink rfl (.inr ⟨_, moved, locked, holds⟩) ?_ ?_
    · intro id inside
      rw [mem_busy] at inside ⊢
      rcases inside with ⟨other, there, same⟩ | ⟨operation, there, open_, same⟩
      · simp only [single, List.set_cons_zero, List.mem_singleton] at there
        subst there
        exact .inl ⟨call, here, same⟩
      · rcases List.mem_append.mp there with old | fresh
        · exact .inr ⟨operation, old, open_, same⟩
        · rw [List.mem_singleton] at fresh
          subst fresh
          exact .inl ⟨call, here, same⟩
    · intro id inside
      rw [mem_ahead] at inside ⊢
      rcases inside with ⟨other, there, waits, _⟩ | ⟨operation, there, open_, same⟩
      · simp only [single, List.set_cons_zero, List.mem_singleton] at there
        subst there
        cases waits
      · rcases List.mem_append.mp there with old | fresh
        · exact .inr ⟨operation, old, open_, same⟩
        · rw [List.mem_singleton] at fresh
          subst fresh
          exact .inl ⟨call, here, admitted, same⟩
  | withdrawn found | reported found | doubted found => exact exclusive.finish found
  | operated found moves =>
    exact exclusive.shrink rfl exclusive.turn
      (fun _ => busy_setPhase found (OperationMove.runs moves).1)
      fun _ => ahead_setPhase found (OperationMove.runs moves).2
  | @sent index operation outcome found checking =>
    refine exclusive.shrink rfl exclusive.turn ?_ ?_
    · intro id inside
      exact busy_setPhase found (sent_runs checking).1 inside
    · intro id inside
      exact ahead_setPhase found (sent_runs checking).2 inside
  | takenOver | restarted => cases within

theorem woken_report {late : Bool} {now : ℚ} {outcome : Outcome} {target : String}
    (written : reportOf session call late now outcome = some transaction)
    (wakes : woken uuid5 db transaction = some target) : target = call.submissionId := by
  rcases reportOf_cases written with ⟨messageId, rfl⟩ | rfl | rfl | rfl
  · exact (Option.some.inj wakes).symm
  · cases wakes
  · exact (Option.some.inj wakes).symm
  · cases wakes

theorem woken_operation {target : String}
    (moves : OperationMove session db operation (some transaction) phase)
    (wakes : woken uuid5 db transaction = some target) :
    target = operation.submissionId ∧ spent db operation = false := by
  cases moves with
  | fenced | requeues => cases wakes
  | claims ready now pending =>
    simp only [woken, submittingEvent, internal] at wakes
    split at wakes
    next queued =>
      obtain ⟨item, found, waits⟩ := (Option.any_eq_true _ _).mp queued
      refine ⟨(Option.some.inj wakes).symm, ?_⟩
      have waiting : item.state = .localQueued := by simpa using waits
      simp [spent, pending, gone, found, waiting, claimableStates]
    · cases wakes
  | postpones => cases wakes
  | accepts messageId confirmed now accepting =>
    exact ⟨(Option.some.inj wakes).symm, by simp [spent, accepting]⟩

/-- The transaction of a step makes no submission unsettled but the one that is at work. -/
theorem addressed {passes : Passes} {target : String} {row : Submission}
    (exclusive : Exclusive session passes.runtime) (within : attached label = true)
    (calm : Undisturbed uuid5 session passes (.takes label))
    (move : Move uuid5 session passes.runtime label writer next)
    (written : writer = some transaction)
    (wakes : woken uuid5 passes.runtime.db transaction = some target)
    (found : passes.runtime.db.submission target = some row) (mine : ofApp session row) :
    ∀ id ∈ ahead next, id = target := by
  have finished : ∀ (index : Nat) (call : Call), passes.runtime.calls[index]? = some call →
      target = call.submissionId →
      ∀ id ∈ ahead (passes.runtime.finish index call), id = target := by
    intro index call there same id inside
    rw [same]
    refine exclusive.one id ?_ call.submissionId (mem_busy.mpr (.inl
      ⟨call, Pool.mem_of_getElem? there, rfl⟩))
    rcases mem_ahead.mp inside with ⟨other, kept, _, name⟩ | ⟨operation, kept, waits, name⟩
    · exact mem_busy.mpr (.inl ⟨other, Pool.mem_of_mem_eraseIdx kept, name⟩)
    · exact mem_busy.mpr (.inr ⟨operation, kept, not_spent waits, name⟩)
  cases move with
  | admitted | takenOver | restarted => cases within
  | enqueued | blocked | marked | cancelled | replaced =>
    cases written
    cases wakes
  | pumped | left | blocks | misses | dispatches | cancels | replaces | forgot | joined | created
  | withdrawn | sent => cases written
  | reported there phase known settled =>
    exact finished _ _ there (woken_report written wakes)
  | doubted there =>
    cases written
    exact finished _ _ there (Option.some.inj wakes).symm
  | @operated _ index operation _ phase there moves =>
    subst written
    obtain ⟨same, open_⟩ := woken_operation moves wakes
    intro id inside
    rw [same]
    refine exclusive.one id ?_ _ (mem_busy.mpr (.inr
      ⟨operation, Pool.mem_of_getElem? there, open_, rfl⟩))
    exact ahead_busy (ahead_setPhase there (OperationMove.runs moves).2 inside)
  | @observed event outside =>
    cases written
    have reached : reachedBy uuid5 event passes.runtime.db = some target := by
      cases body : event.body with
      | userMessage | sessionIdle | taskComplete | autopilotObjective | quietSnapshot
      | taskEvidence | activeUnknown =>
        simpa only [woken, body] using wakes
      | _ => simp [Event.outside, body] at outside
    exact calm target reached row found mine

theorem exclusive_write {commits : List Event}
    (exclusive : Exclusive session next) (done : write uuid5 next.db transaction = some db)
    (about : ∀ target row, woken uuid5 next.db transaction = some target →
      next.db.submission target = some row → ofApp session row → ∀ id ∈ ahead next, id = target) :
    Exclusive session { next with db, commits } := by
  have sooner : ∀ id ∈ ahead { next with db, commits }, id ∈ ahead next := by
    intro id inside
    rw [mem_ahead] at inside ⊢
    rcases inside with call | ⟨operation, there, waits, same⟩
    · exact .inl call
    · exact .inr ⟨operation, there, awaitsSend_write done waits, same⟩
  have fewer : ∀ id ∈ busy { next with db, commits }, id ∈ busy next := by
    intro id inside
    rw [mem_busy] at inside ⊢
    rcases inside with call | ⟨operation, there, open_, same⟩
    · exact .inl call
    · refine .inr ⟨operation, there, ?_, same⟩
      by_contra closed
      have later := spent_write done (by simpa using closed)
      rw [later] at open_
      cases open_
  refine ⟨exclusive.turn, ?_, ?_⟩
  · intro id inside other also
    exact exclusive.one id (fewer id inside) other (fewer other also)
  · intro id inside other kept different left mine unsettled
    obtain ⟨row, found, woke⟩ := waking_write done left unsettled mine.2
    have same := owner_write done found left
    simp only [owner, Prod.mk.injEq] at same
    have owned : ofApp session row := ⟨same.2.2 ▸ mine.1, same.2.1 ▸ mine.2⟩
    rcases woke with before | wakes
    · exact exclusive.alone id (sooner id inside) other row different found owned before
    · exact different (about other row wakes found owned id (sooner id inside)).symm

theorem exclusive_step {passes : Passes} (exclusive : Exclusive session passes.runtime)
    (within : attached label = true) (calm : Undisturbed uuid5 session passes (.takes label))
    (taken : step uuid5 session passes.runtime label = some after) : Exclusive session after := by
  obtain ⟨writer, next, planned, ⟨_, rfl⟩ | ⟨transaction, db, written, done, rfl⟩ |
    ⟨event, failure, _, _, rfl⟩⟩ := step_planned taken
  · exact exclusive_move exclusive within calm planned
  · have move := move_of_plan planned
    have same : next.db = passes.runtime.db := move.db
    refine exclusive_write (exclusive_move exclusive within calm planned) (same ▸ done) ?_
    intro target row wakes found mine
    rw [same] at wakes found
    exact addressed exclusive within calm move written wakes found mine
  · exact ⟨exclusive.turn, exclusive.one, exclusive.alone⟩

theorem exclusive_cancelled {recorded : Bool} (exclusive : Exclusive session state) :
    Exclusive session { state with
      holder := none
      calls := state.calls.filter fun call => !call.locked
      operations := state.operations ++ if recorded then strandedRecords state else [] } := by
  have empty : state.calls.filter (fun call => !call.locked) = [] := by
    rcases exclusive.turn with none | ⟨call, single, locked, _⟩
    · rw [none, List.filter_nil]
    · simp [single, locked]
  have closed : ∀ operation ∈ (if recorded then strandedRecords state else []),
      operation.phase = .settled .unknown := by
    intro operation there
    split at there
    · exact strandedRecords_settled there
    · cases there
  refine exclusive.shrink rfl (.inl empty) ?_ ?_
  · intro id inside
    rw [mem_busy] at inside ⊢
    rcases inside with ⟨call, there, same⟩ | ⟨operation, there, open_, same⟩
    · exact .inl ⟨call, List.mem_of_mem_filter there, same⟩
    · rcases List.mem_append.mp there with old | stranded
      · exact .inr ⟨operation, old, open_, same⟩
      · simp [spent, closed operation stranded] at open_
  · intro id inside
    rw [mem_ahead] at inside ⊢
    rcases inside with ⟨call, there, admitted, same⟩ | ⟨operation, there, waits, same⟩
    · exact .inl ⟨call, List.mem_of_mem_filter there, admitted, same⟩
    · rcases List.mem_append.mp there with old | stranded
      · exact .inr ⟨operation, old, waits, same⟩
      · simp [awaitsSend, closed operation stranded] at waits

end Steps

variable {activity : Activity}

variable {state : Passes}

theorem exclusive_advance {after : Passes}
    (exclusive : Exclusive session state.runtime) (calm : Undisturbed uuid5 session state activity)
    (taken : advance uuid5 session state activity = some after) :
    Exclusive session after.runtime := by
  cases activity with
  | takes label =>
    obtain ⟨within, runtime, stepped, rfl⟩ := advance_takes taken
    exact exclusive_step exclusive within calm stepped
  | cancelled recorded =>
    rw [advance_cancelled taken]
    exact exclusive_cancelled exclusive

theorem Exclusive.send
    (exclusive : Exclusive session state.runtime) : Alone session state activity := by
  unfold Alone
  split
  · intro operation found checking id row different stored mine
    refine exclusive.alone operation.submissionId (mem_ahead.mpr (.inr
      ⟨operation, Pool.mem_of_getElem? found, ?_, rfl⟩)) id row different stored mine
    simp [awaitsSend, checking]
  · trivial

/-! ## In order -/

/-- Some pass took the item in this attempt while none before it waited. -/
def Picked (session : Session) (picks : List Pick) (submissionId : String)
    (dispatchAttempt : Nat) : Prop :=
  ∃ pick ∈ picks, pick.item.id = submissionId ∧ pick.item.dispatchAttempt = dispatchAttempt ∧
    ∀ item ∈ pick.queue, item.threadId = session.threadId → item.state = .localQueued →
      pick.item.position ≤ item.position

/-- `bridge.send` is invoked for an item that a pass took in its turn. -/
def InTurn (session : Session) (state : Passes) : Activity → Prop
  | .takes (.send index _) => ∀ operation ∈ state.runtime.operations[index]?,
    operation.phase = .checking →
      Picked session state.picks operation.submissionId operation.dispatchAttempt
  | _ => True

structure Ordered (session : Session) (state : Passes) : Prop where
  /-- The join of the pump's query loses no item. -/
  rowed : ∀ id, (state.runtime.db.item id).isSome = true →
    (state.runtime.db.submission id).isSome = true
  calls : ∀ call ∈ state.runtime.calls,
    Picked session state.picks call.submissionId call.dispatchAttempt
  operations : ∀ operation ∈ state.runtime.operations,
    (∃ outcome, operation.phase = .settled outcome) ∨
      Picked session state.picks operation.submissionId operation.dispatchAttempt

theorem Picked.more {picks more : List Pick} {dispatchAttempt : Nat}
    (picked : Picked session picks submissionId dispatchAttempt) :
    Picked session (picks ++ more) submissionId dispatchAttempt := by
  obtain ⟨pick, there, rest⟩ := picked
  exact ⟨pick, List.mem_append_left _ there, rest⟩

theorem Change.rowed {view result : View} (change : Change db id writer view result)
    (before : view.item.isSome = true → view.row.isSome = true) :
    result.item.isSome = true → result.row.isSome = true := by
  cases change with
  | kept | postponed | blocked => exact before
  | inserted => simp
  | cancelled | doubted | contentLost | recovered | takenOver | noticed => simpa using before
  | _ => simp

theorem rowed_write {after : Db}
    (rowed : ∀ id, (db.item id).isSome = true → (db.submission id).isSome = true)
    (done : write uuid5 db transaction = some after) :
    ∀ id, (after.item id).isSome = true → (after.submission id).isSome = true := by
  intro id
  exact Change.rowed (change_of_write id done) (rowed id)

theorem nextQueued_first {item : QueueItem}
    (rowed : ∀ id, (db.item id).isSome = true → (db.submission id).isSome = true)
    (found : nextQueued session db = some item) :
    ∀ other ∈ db.queue, other.threadId = session.threadId → other.state = .localQueued →
      item.position ≤ other.position := by
  intro other there mine waits
  have stored : (db.item other.id).isSome = true := by
    rw [Db.item, Table.lookup, List.find?_isSome]
    exact ⟨other, there, by simp⟩
  refine List.le_of_mem_argmin (List.mem_filter.mpr ⟨there, ?_⟩) (Option.mem_def.mpr found)
  simpa using ⟨mine, waits, rowed other.id stored⟩

section Order

variable {state after : Passes} {label : Label} {writer : Option Writer} {next : State}

theorem ordered_move (ordered : Ordered session state) (within : attached label = true)
    (planned : plan uuid5 session state.runtime label = some (writer, next)) :
    Ordered session
      { runtime := next, picks := state.picks ++ pickOf session state.runtime label } := by
  have move := move_of_plan planned
  have db : next.db = state.runtime.db := move.db
  have calls : ∀ call ∈ state.runtime.calls, Picked session
      (state.picks ++ pickOf session state.runtime label) call.submissionId
      call.dispatchAttempt := fun call there => (ordered.calls call there).more
  have operations : ∀ operation ∈ state.runtime.operations,
      (∃ outcome, operation.phase = .settled outcome) ∨ Picked session
        (state.picks ++ pickOf session state.runtime label) operation.submissionId
        operation.dispatchAttempt := by
    intro operation there
    rcases ordered.operations operation there with settled | picked
    · exact .inl settled
    · exact .inr picked.more
  have rowed : ∀ id, (next.db.item id).isSome = true → (next.db.submission id).isSome = true := by
    rw [db]
    exact ordered.rowed
  cases move with
  | admitted | takenOver | restarted => cases within
  | enqueued | pumped | left | blocks | misses | cancels | replaces | forgot | blocked | marked
  | cancelled | replaced | observed => exact ⟨rowed, calls, operations⟩
  | @dispatches item turn found =>
    refine ⟨rowed, Pool.forall_push calls ?_, operations⟩
    refine ⟨⟨item, state.runtime.db.queue⟩, ?_, rfl, rfl,
      nextQueued_first ordered.rowed found⟩
    simp [pickOf, found]
  | joined found =>
    have mine := calls _ (Pool.mem_of_getElem? found)
    exact ⟨rowed, Pool.forall_set found calls mine, operations⟩
  | created found new =>
    have mine := calls _ (Pool.mem_of_getElem? found)
    exact ⟨rowed, Pool.forall_set found calls mine, Pool.forall_push operations (.inr mine)⟩
  | withdrawn found | reported found | doubted found =>
    exact ⟨rowed, fun call there => calls call (Pool.mem_of_mem_eraseIdx there), operations⟩
  | @operated _ index operation _ phase found moves =>
    refine ⟨rowed, calls, Pool.forall_set found operations ?_⟩
    rcases operations operation (Pool.mem_of_getElem? found) with ⟨outcome, settled⟩ | picked
    · exact absurd settled (OperationMove.unsettled moves outcome)
    · exact .inr picked
  | @sent index operation outcome found checking =>
    refine ⟨rowed, calls, Pool.forall_set found operations ?_⟩
    rcases operations operation (Pool.mem_of_getElem? found) with ⟨outcome, settled⟩ | picked
    · rw [checking] at settled
      cases settled
    · exact .inr picked

theorem ordered_advance (ordered : Ordered session state)
    (taken : advance uuid5 session state activity = some after) : Ordered session after := by
  cases activity with
  | takes label =>
    obtain ⟨within, runtime, stepped, rfl⟩ := advance_takes taken
    obtain ⟨writer, next, planned, ⟨_, rfl⟩ | ⟨transaction, db, _, done, rfl⟩ |
      ⟨event, failure, _, _, rfl⟩⟩ := step_planned stepped
    · exact ordered_move ordered within planned
    · have moved := ordered_move ordered within planned
      exact ⟨rowed_write ordered.rowed done, moved.calls, moved.operations⟩
    · refine ⟨ordered.rowed, fun call there => (ordered.calls call there).more, ?_⟩
      intro operation there
      rcases ordered.operations operation there with settled | picked
      · exact .inl settled
      · exact .inr picked.more
  | cancelled recorded =>
    rw [advance_cancelled taken]
    refine ⟨ordered.rowed, fun call there => ordered.calls call (List.mem_of_mem_filter there), ?_⟩
    intro operation there
    rcases List.mem_append.mp there with old | stranded
    · exact ordered.operations operation old
    · split at stranded
      · exact .inl ⟨_, strandedRecords_settled stranded⟩
      · cases stranded

theorem Ordered.send (ordered : Ordered session state) :
    InTurn session state activity := by
  unfold InTurn
  split
  · intro operation found checking
    rcases ordered.operations operation
      (Pool.mem_of_getElem? found) with ⟨outcome, settled⟩ | picked
    · rw [checking] at settled
      cases settled
    · exact picked
  · trivial

end Order

/-! ## Runs -/

/-- The session as an attachment finds it: whatever the tables hold, no pass is under way and
the mailbox has nothing to do. -/
structure AtAttach (state : Passes) : Prop where
  rowed : ∀ id, (state.runtime.db.item id).isSome = true →
    (state.runtime.db.submission id).isSome = true
  calls : state.runtime.calls = []
  operations : ∀ operation ∈ state.runtime.operations, ∃ outcome,
    operation.phase = .settled outcome

theorem AtAttach.ordered (attach : AtAttach state) : Ordered session state := by
  refine ⟨attach.rowed, ?_, fun operation there => .inl (attach.operations operation there)⟩
  rw [attach.calls]
  nofun

theorem AtAttach.exclusive (attach : AtAttach state) :
    Exclusive session state.runtime := by
  have none : ∀ id, id ∉ busy state.runtime := by
    intro id inside
    rcases mem_busy.mp inside with ⟨call, there, _⟩ | ⟨operation, there, open_, _⟩
    · rw [attach.calls] at there
      cases there
    · obtain ⟨outcome, settled⟩ := attach.operations operation there
      simp [spent, settled] at open_
  exact ⟨.inl attach.calls, fun id inside => absurd inside (none id),
    fun id inside => absurd (ahead_busy inside) (none id)⟩

/-- Every send is of an item that a pass took in its turn, and in a run that is not disturbed
every send finds the other submissions of the app settled. -/
theorem queued_sends_go_in_turn {start : Passes} (attach : AtAttach start)
    (activities : List Activity) :
    Run.Along (advance uuid5 session) (InTurn session) start activities ∧
      (Run.Along (advance uuid5 session) (Undisturbed uuid5 session) start activities →
        Run.Along (advance uuid5 session) (Alone session) start activities) := by
  constructor
  · have free : Run.Along (advance uuid5 session) (fun _ _ => True) start activities :=
      Run.along_of_forall fun _ _ => trivial
    have keep : ∀ state activity after, Ordered session state → True →
        advance uuid5 session state activity = some after → Ordered session after := by
      intro state activity after ordered _ taken
      exact ordered_advance ordered taken
    refine Run.along_of_inv keep ?_ free attach.ordered
    intro state activity ordered _
    exact ordered.send
  · intro calm
    have keep : ∀ state activity after, Exclusive session state.runtime →
        Undisturbed uuid5 session state activity →
        advance uuid5 session state activity = some after →
        Exclusive session after.runtime := by
      intro state activity after exclusive undisturbed taken
      exact exclusive_advance exclusive undisturbed taken
    refine Run.along_of_inv keep ?_ calm attach.exclusive
    intro state activity exclusive _
    exact exclusive.send

def queueSession : Session := { sdkSessionId := "session-1", threadId := "thread-1" }

/-- The submissions of the idempotency keys `key-1` and `key-2`. -/
def firstId : String := "f160b806-5fc3-5cf2-b4d3-0829cbab296d"

def secondId : String := "261fa9da-6815-5ac1-9f54-7c79deb4ac6a"

/-- `uuid.uuid5` over `uuid.NAMESPACE_URL`, on the names the runs ask for. -/
def uuid5OfQueue (name : String) : String :=
  if name = "copilotd:session-1:submission:key-1" then firstId
  else if name = "copilotd:session-1:submission:key-2" then secondId
  else if name = "copilotd:session-1:operation:send:queue:" ++ firstId ++ ":0" then
    "db4beb37-a6eb-58b1-92f2-546d0d0e4ac8"
  else if name = "copilotd:session-1:operation:send:queue:" ++ secondId ++ ":0" then
    "7103bc0b-9401-521a-9e2b-a5ca5ac0c2f8"
  else if name = "copilotd:session-1:runtime-observed:event-1" then
    "e699f743-4cdb-57e3-9946-5f1ea2396325"
  else "3c5ca0ef-38a8-5751-949b-7d7e6671a569"

def enqueued (key promptHash : String) (now : ℚ) : Activity :=
  .takes (.enqueue key
    { submissionId := "", threadId := "", promptHash, requestedMode := some "autopilot"
      createdAt := now } now)

def fromSdk (eventId : String) (now : ℚ) (body : Body) : Activity :=
  .takes (.event { sdkSessionId := "session-1", eventId := some eventId, receivedAt := now, body })

/-- Two messages wait, and the first is sent, observed and left idle. -/
def firstAnswered : List Activity :=
  [enqueued "key-1" "hash-1" 1, enqueued "key-2" "hash-2" 2,
    .takes .pump, .takes (.pick .dispatch), .takes (.submit 0), .takes (.claim 0 true 3),
    .takes (.readBack 0), .takes (.send 0 (.accepted "message-1")), .takes (.accept 0 true 4),
    .takes (.report 0 5),
    fromSdk "event-1" 6 (.userMessage { contentHash := some "hash-1" }),
    fromSdk "event-2" 7 (.sessionIdle false)]

/-- The second message, up to its send. -/
def secondClaimed : List Activity :=
  [.takes .pump, .takes (.pick .dispatch), .takes (.submit 0), .takes (.claim 1 true 8),
    .takes (.readBack 1)]

def secondSend : Activity := .takes (.send 1 (.accepted "message-2"))

theorem atAttach_empty : AtAttach {} :=
  ⟨nofun, rfl, nofun⟩

instance (session : Session) (row : Submission) : Decidable (ofApp session row) :=
  inferInstanceAs (Decidable (_ ∧ _))

instance (uuid5 : String → String) (session : Session) (state : Passes) (activity : Activity) :
    Decidable (Undisturbed uuid5 session state activity) := by
  unfold Undisturbed
  split <;> infer_instance

/-- Both messages are sent in a run that is not disturbed. -/
theorem queued_sends_go_in_turn_answered :
    (Run.run (advance uuid5OfQueue queueSession) {}
      (firstAnswered ++ secondClaimed ++ [secondSend])).map
        (fun state => state.runtime.sends.map (·.submissionId)) = some [firstId, secondId] ∧
      Run.Along (advance uuid5OfQueue queueSession) (InTurn queueSession) {}
        (firstAnswered ++ secondClaimed ++ [secondSend]) ∧
      Run.Along (advance uuid5OfQueue queueSession) (Alone queueSession) {}
        (firstAnswered ++ secondClaimed ++ [secondSend]) := by
  have calm : Run.Along (advance uuid5OfQueue queueSession)
      (Undisturbed uuid5OfQueue queueSession) {}
      (firstAnswered ++ secondClaimed ++ [secondSend]) := by decide +kernel
  have both : Run.Along (advance uuid5OfQueue queueSession) (InTurn queueSession) {}
      (firstAnswered ++ secondClaimed ++ [secondSend]) ∧ _ :=
    queued_sends_go_in_turn atAttach_empty _
  exact ⟨by decide +kernel, both.1, both.2 calm⟩

/-- The pass with the first message is cancelled, and the mailbox claims it after the next
pass counted and before it reads the queue. -/
def cancelledPass : List Activity :=
  [enqueued "key-1" "hash-1" 1, enqueued "key-2" "hash-2" 2,
    .takes .pump, .takes (.pick .dispatch), .takes (.submit 0), .cancelled false,
    .takes .pump, .takes (.claim 0 true 3), .takes (.pick .dispatch), .takes (.submit 0),
    .takes (.readBack 0), .takes (.send 0 (.accepted "message-1")), .takes (.accept 0 true 4),
    .takes (.claim 1 true 5), .takes (.readBack 1)]

/-- Nobody is cancelled, and the SDK goes on with the first message. -/
def continuedMessage : List Activity :=
  firstAnswered ++ secondClaimed ++
    [fromSdk "event-3" 9 (.userMessage { isAutopilotContinuation := true })]

/-- The second operation is at its send while the first submission is in a state. -/
def secondAtSend (state : Passes) : Option (Operation × Submission) :=
  state.runtime.operations[1]?.bind fun operation =>
    (state.runtime.db.submission firstId).map fun row => (operation, row)

theorem not_alone {activities : List Activity} (unsettled : SubmissionState)
    (reaches : ((Run.run (advance uuid5OfQueue queueSession) {} activities).bind
      secondAtSend).map (fun pair => (pair.1.submissionId, pair.1.phase, pair.2.state,
        pair.2.sdkSessionId, pair.2.origin)) =
      some (secondId, .checking, unsettled, "session-1", "app_message"))
    (listed : unsettled ∈ unsettledStates) :
    ¬ Run.Along (advance uuid5OfQueue queueSession) (Alone queueSession) {}
      (activities ++ [secondSend]) := by
  intro along
  obtain ⟨⟨operation, row⟩, there, facts⟩ := Option.map_eq_some_iff.mp reaches
  obtain ⟨state, reached, both⟩ := Option.bind_eq_some_iff.mp there
  obtain ⟨other, found, rest⟩ := Option.bind_eq_some_iff.mp both
  obtain ⟨stored, first, same⟩ := Option.map_eq_some_iff.mp rest
  cases same
  simp only [Prod.mk.injEq] at facts
  obtain ⟨name, checking, left, mine, origin⟩ := facts
  have alone := (Run.along_append reached along).2.1
  refine alone operation found checking firstId row ?_ first
    ⟨mine, by simp [origin]⟩ (left ▸ listed)
  rw [name]
  decide

/-- A second message is sent while the first is submitted, and while the first is active. -/
theorem cancelled_pass_lets_second_message_out :
    AtAttach {} ∧
      ¬ Run.Along (advance uuid5OfQueue queueSession) (Alone queueSession) {}
        (cancelledPass ++ [secondSend]) ∧
      ¬ Run.Along (advance uuid5OfQueue queueSession) (Alone queueSession) {}
        (continuedMessage ++ [secondSend]) := by
  refine ⟨atAttach_empty, ?_, ?_⟩
  · exact not_alone .submitted (by decide +kernel) (by decide)
  · exact not_alone .observedActive (by decide +kernel) (by decide)

end Copilotd.Guarantees.QueueExclusion
