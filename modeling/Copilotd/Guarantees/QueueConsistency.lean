import Copilotd.Guarantees.DispatchOnce

/-!
# The two rows of a queued submission

A submission that waits has a queue row that waits or is blocked, and one that is being sent
has a queue row that is being sent.  The handlers of `copilotd.submission.submitting` and
`copilotd.queue.replaced` raise when they find the rows apart, and stop the reducer.

Blocking moves the queue row alone.  A dispatch that is under way when its item is blocked, or
that starts on a blocked item, therefore reaches the first of the two errors; an update whose
item is claimed in between reaches the second.
-/
namespace Copilotd.Guarantees.QueueConsistency

open Base
open Guarantees.DispatchOnce (oneSession onlyId uuid5OfSession)
open Source.Core.Submissions Source.Core.QueueRuntime
open Source.Storage (SubmissionState)

variable {uuid5 : String → String} {session : Session}

/-! ## The rows of an id -/

theorem mem_cancellableStates {state : QueueState} : state ∈ cancellableStates ↔
    state = .localQueued ∨ ∃ reason, state = .blocked reason := by
  cases state with
  | blocked reason => cases reason <;> simp [cancellableStates]
  | _ => simp [cancellableStates]

/-- The queue row of a submission that waits is in one of the states `waits`, that of one that
is being sent is being sent. -/
structure Fits (waits : List QueueState) (row : Submission) (item : Option QueueItem) : Prop where
  waiting : row.state = .localQueued → ∃ queued, item = some queued ∧ queued.state ∈ waits
  sending : row.state = .submitting → ∃ queued, item = some queued ∧ queued.state = .submitting

/-- The rows fit, and there is no queue row without a submission. -/
def Matched (waits : List QueueState) (view : View) : Prop :=
  (view.row = none → view.item = none) ∧ ∀ row, view.row = some row → Fits waits row view.item

variable {row : Submission} {view : View} {sdkSessionId : String}

section Rows

variable {waits : List QueueState}

variable {item : Option QueueItem}

theorem matched_some (fits : Fits waits row item) :
    Matched waits ⟨some row, item⟩ := by
  constructor
  · intro absent
    cases absent
  · intro same found
    cases found
    exact fits

theorem matched_map {setRow : Submission → Submission}
    {setItem : QueueItem → QueueItem} (matched : Matched waits view)
    (each : ∀ row, view.row = some row → Fits waits row view.item →
      Fits waits (setRow row) (view.item.map setItem)) :
    Matched waits ⟨view.row.map setRow, view.item.map setItem⟩ := by
  cases stored : view.row with
  | none =>
    rw [matched.1 stored]
    constructor
    · intro _
      rfl
    · intro row found
      cases found
  | some row => exact matched_some (each row stored (matched.2 row stored))

theorem fits_of_state
    (elsewhere : row.state ∉ [.localQueued, .submitting]) : Fits waits row item := by
  constructor
  · intro waits
    simp [waits] at elsewhere
  · intro sends
    simp [sends] at elsewhere

theorem Fits.keeps {after : Submission}
    {set : QueueItem → QueueItem} (fits : Fits waits row item) (state : after.state = row.state)
    (same : ∀ queued, queued.state ∈ .submitting :: waits →
      (set queued).state = queued.state) : Fits waits after (item.map set) := by
  constructor
  · intro waits
    obtain ⟨queued, rfl, inside⟩ := fits.waiting (state.symm.trans waits)
    refine ⟨set queued, rfl, ?_⟩
    rw [same queued (List.mem_cons_of_mem _ inside)]
    exact inside
  · intro sends
    obtain ⟨queued, rfl, inside⟩ := fits.sending (state.symm.trans sends)
    refine ⟨set queued, rfl, ?_⟩
    rw [same queued (by simp [inside])]
    exact inside

theorem Matched.insert {item : QueueItem}
    (matched : Matched waits view) (new : row.fresh) (queued : item.state ∈ waits) :
    Matched waits ⟨view.row.or (some row), view.item.or (some item)⟩ := by
  cases stored : view.row with
  | some old =>
    have fits := matched.2 old stored
    refine matched_some ⟨?_, ?_⟩
    · intro waits
      obtain ⟨waiting, found, inside⟩ := fits.waiting waits
      exact ⟨waiting, by rw [found, Option.some_or], inside⟩
    · intro sends
      obtain ⟨sending, found, inside⟩ := fits.sending sends
      exact ⟨sending, by rw [found, Option.some_or], inside⟩
  | none =>
    rw [matched.1 stored]
    refine matched_some ⟨?_, ?_⟩
    · intro _
      exact ⟨item, rfl, queued⟩
    · intro sends
      rw [new.1] at sends
      cases sends

theorem Fits.recovered {gone : Bool} {expired : List String} {now : ℚ} (fits : Fits waits row item)
    (recoverable : gone = true → item.any (·.state ∈ recoverableStates) = true) :
    Fits waits
      (if gone ∧ row.state = .localQueued then
        { row with state := .rejected, terminalAt := row.terminalAt.or (some now) }
      else if row.sdkSessionId ∈ expired ∧ row.state ∈ activeStates then loseOwner now row
      else row)
      (item.map fun item => if gone then { item with state := .contentUnavailable } else item) := by
  split
  · exact fits_of_state (by simp)
  next kept =>
    split
    · exact fits_of_state (lostState_not_waiting row.state)
    · constructor
      · intro waits
        obtain ⟨queued, found, inside⟩ := fits.waiting waits
        have present : gone = false := by simpa [waits] using kept
        exact ⟨queued, by simp [found, present], inside⟩
      · intro sends
        obtain ⟨queued, found, sending⟩ := fits.sending sends
        have present : gone = false := by
          cases isGone : gone with
          | false => rfl
          | true =>
            have taken := recoverable isGone
            simp [found, sending, recoverableStates] at taken
        exact ⟨queued, by simp [found, present], sending⟩

theorem Fits.takenOver {now : ℚ} (fits : Fits waits row item) :
    Fits waits
      (if row.sdkSessionId = sdkSessionId ∧ row.state ∈ activeStates then loseOwner now row
      else row)
      (item.map fun item =>
        if (some row).any (fun row => row.sdkSessionId = sdkSessionId ∧
            row.state ∈ [.submitting, .submitted]) ∧ item.state = .submitting then
          { item with state := .submittedUnknown } else item) := by
  split
  · exact fits_of_state (lostState_not_waiting row.state)
  next kept =>
    have idle : (some row).any (fun row => row.sdkSessionId = sdkSessionId ∧
        row.state ∈ [.submitting, .submitted]) = false := by
      simp only [Option.any_some, decide_eq_false_iff_not]
      rintro ⟨here, active⟩
      refine kept ⟨here, ?_⟩
      simp only [List.mem_cons, List.not_mem_nil, or_false] at active
      rcases active with active | active
      · simp [active, activeStates]
      · simp [active, activeStates]
    refine fits.keeps rfl ?_
    intro queued _
    rw [if_neg]
    rintro ⟨active, _⟩
    rw [idle] at active
    cases active

theorem moveIf_state {fromStates : List QueueState} {state : QueueState} {queued : QueueItem}
    (other : ∀ old ∈ fromStates, old ∉ QueueState.submitting :: waits)
    (inside : queued.state ∈ QueueState.submitting :: waits) :
    (moveIf fromStates state queued).state = queued.state := by
  unfold moveIf
  split
  next moved => exact absurd inside (other queued.state moved)
  · rfl

end Rows

/-- The transactions that take the two rows apart: a cancellation that lists items that are
being sent, the mark of lost content on a submission that is being sent, and a block to a
state that is not one of `waits`. -/
def Parts (waits : List QueueState) (writer : Writer) (id : String) (row : Option Submission) :
    Prop :=
  (∃ event ids states, writer = .reduce event ∧ event.body = .cancelQueued ids states ∧
    QueueState.submitting ∈ states) ∨
  ((∃ now, writer = .contentUnavailable id now) ∧ ∃ sent, row = some sent ∧
    sent.state = .submitting) ∨
  ∃ event reason, writer = .reduce event ∧ event.body = .queueBlocked id reason ∧
    QueueState.blocked reason ∉ waits

variable {id : String}

variable {db : Db}

theorem Change.matched {writer : Writer} {result : View}
    {waits : List QueueState} (change : Change db id writer view result) (unsent : Unsent db)
    (own : ∀ row, view.row = some row → row.unsent) (first : QueueState.localQueued ∈ waits)
    (among : ∀ state ∈ waits, state ∈ cancellableStates) (matched : Matched waits view)
    (careful : ¬ Parts waits writer id view.row) : Matched waits result := by
  cases change with
  | kept => exact matched
  | inserted body new queued => exact matched.insert new (by rw [queued]; exact first)
  | retired | forgotten => exact matched_some (fits_of_state (by simp))
  | @postponed event data row item body unready =>
    cases row with
    | none =>
      have absent := matched.1 rfl
      cases absent
    | some old =>
      have fits := matched.2 old rfl
      refine matched_some ?_
      have kept : Fits waits old ((some item).map fun queued =>
          { queued with dispatchAttempt := queued.dispatchAttempt + 1 }) :=
        fits.keeps rfl (fun _ _ => rfl)
      exact kept
  | claimed =>
    refine matched_some ⟨?_, ?_⟩
    · intro waits
      cases waits
    · intro _
      exact ⟨_, rfl, rfl⟩
  | @cancelled event ids states view body listed =>
    apply matched_map matched
    intro old stored fits
    split
    · exact fits_of_state (by simp)
    next left =>
      refine ⟨fun waits => absurd waits left, ?_⟩
      intro sends
      obtain ⟨queued, found, sending⟩ := fits.sending sends
      refine ⟨moveIf states .cancelled queued, by rw [found, Option.map_some], ?_⟩
      unfold moveIf
      split
      next moved =>
        rw [sending] at moved
        exact absurd (.inl ⟨event, ids, states, rfl, body, moved⟩) careful
      · exact sending
  | @deferred event row item body sending unevidenced =>
    obtain ⟨queued, rfl, moving⟩ := (matched.2 row rfl).sending sending
    refine matched_some ⟨?_, ?_⟩
    · intro _
      exact ⟨requeueItem queued, by simp [moving], first⟩
    · intro sends
      cases sends
  | requeued =>
    refine matched_some ⟨?_, ?_⟩
    · intro _
      exact ⟨_, rfl, first⟩
    · intro sends
      cases sends
  | @blocked event reason row item body queued =>
    cases row with
    | none =>
      have absent := matched.1 rfl
      cases absent
    | some old =>
      refine matched_some ⟨?_, ?_⟩
      · intro _
        refine ⟨_, rfl, ?_⟩
        by_contra outside
        exact careful (.inr (.inr ⟨event, reason, rfl, body, outside⟩))
      · intro sends
        obtain ⟨same, found, sending⟩ := (matched.2 old rfl).sending sends
        cases found
        rw [queued] at sending
        cases sending
  | accepted => exact matched_some (fits_of_state (acceptance_left _ _ _))
  | corrected =>
    exact matched_some (fits_of_state (by simp [recordAcceptance, clearObservation]))
  | @copied event carrier row item body stored observed =>
    refine matched_some (fits_of_state ?_)
    intro inside
    have unevidenced := unsent _ _ stored inside
    rw [Submission.evidenced, observed] at unevidenced
    cases unevidenced
  | doubted =>
    apply matched_map matched
    intro old stored _
    refine fits_of_state ?_
    split
    · simp
    next evidenced =>
      intro inside
      refine evidenced ⟨?_, own old stored inside⟩
      intro rejected
      simp [rejected] at inside
  | refused body accepted =>
    refine matched_some (fits_of_state ?_)
    intro inside
    have unevidenced := own _ rfl inside
    rw [Submission.evidenced, accepted, Bool.or_true] at unevidenced
    cases unevidenced
  | rejected body session unaccepted unsettled same state =>
    exact matched_some (fits_of_state (by simp [state]))
  | observed body same state => exact matched_some (fits_of_state (by simp [state]))
  | @noticed event message row item body =>
    have kept : Matched waits ⟨row.map fun row => row,
        item.map (moveIf [.outcomeUnknown] .submitted)⟩ := by
      apply matched_map matched
      intro old _ fits
      refine fits.keeps rfl ?_
      intro queued inside
      refine moveIf_state ?_ inside
      intro state unknown waiting
      rw [List.mem_singleton.mp unknown] at waiting
      rcases List.mem_cons.mp waiting with sends | waiting
      · cases sends
      · have queued := among _ waiting
        simp [cancellableStates] at queued
    rwa [Option.map_id'] at kept
  | created body state => exact matched_some (fits_of_state (by simp [state]))
  | idled body running same evidence state =>
    exact matched_some (fits_of_state (by rw [state]; exact idleState_not_waiting _ _))
  | orphaned body session unobserved created sent same evidence state =>
    exact matched_some (fits_of_state (by simp [state]))
  | @tasked event row after item body same evidence state =>
    rcases state with state | state
    · have kept := (matched.2 row rfl).keeps state (fun _ _ => rfl)
      rw [Option.map_id'] at kept
      exact matched_some kept
    · exact matched_some (fits_of_state (by simp [state]))
  | settled body settles same evidence =>
    rcases (settles_states settles).2 with state | state
    · exact matched_some (fits_of_state (by simp [state]))
    · exact matched_some (fits_of_state (by simp [state]))
  | reopened body complete same evidence state =>
    exact matched_some (fits_of_state (by simp [state]))
  | @contentLost now view =>
    apply matched_map matched
    intro old stored _
    refine fits_of_state ?_
    split
    · simp
    next left =>
      intro inside
      simp only [List.mem_cons, List.not_mem_nil, or_false] at inside
      rcases inside with waits | sends
      · exact left waits
      · exact careful (.inr (.inl ⟨⟨now, rfl⟩, old, stored, sends⟩))
  | recovered gone means =>
    apply matched_map matched
    intro old stored fits
    exact fits.recovered fun isGone => (means.mp isGone).2
  | takenOver =>
    apply matched_map matched
    intro old stored fits
    rw [stored]
    exact fits.takenOver

/-! ## Dispatches under way -/

def isSettled : OperationPhase → Bool
  | .settled _ => true
  | _ => false

/-- No dispatch of the submission is under way. -/
structure Quiet (state : State) (submissionId : String) : Prop where
  calls : ∀ call ∈ state.calls, call.submissionId ≠ submissionId
  operations : ∀ operation ∈ state.operations, operation.submissionId = submissionId →
    isSettled operation.phase = true

/-- An immediate send finds its queue row waiting, and the pump blocks or gives up, and an
edit takes, only an item of which no dispatch is under way. -/
def Orderly (uuid5 : String → String) (session : Session) (state : State) : Label → Prop
  | .immediate key => ∀ item ∈ state.db.item (submissionIdOf uuid5 session key),
    item.state = .localQueued
  | .pick (.block _) | .pick .unavailable => ∀ item ∈ nextQueued session state.db,
    Quiet state item.id
  | .update submissionId _ _ _ _ | .resubmit submissionId _ _ _ _ => Quiet state submissionId
  | _ => True

variable {operation : Operation}

theorem not_settled {writer : Option Writer}
    {phase : OperationPhase} (moves : OperationMove session db operation writer phase) :
    isSettled operation.phase = false := by
  cases moves with
  | interrupted unsettled =>
    cases found : operation.phase with
    | settled outcome => exact absurd found (unsettled outcome)
    | _ => rfl
  | fenced _ phase | claims _ _ phase | won phase _ | lost _ phase _ | defers phase
  | requeues _ phase _ | postpones _ phase | oversize phase | accepts _ _ _ phase =>
    rw [phase]
    rfl

section Dispatches

variable {state next : State} {label : Label} {writer : Option Writer} {submissionId : String}

theorem nextQueued_state {item : QueueItem} (keyed : (queueIds db).Nodup)
    (found : nextQueued session db = some item) :
    db.item item.id = some item ∧ item.state = .localQueued := by
  have member := List.argmin_mem (Option.mem_def.mpr found)
  obtain ⟨stored, waits⟩ := List.mem_filter.mp member
  exact ⟨Table.lookup_of_mem keyed stored, (of_decide_eq_true waits).2.1⟩

theorem quiet_setPhase {index : Nat} (quiet : Quiet state submissionId)
    (found : state.operations[index]? = some operation)
    (running : isSettled operation.phase = false) (phase : OperationPhase) :
    ∀ other ∈ state.operations.set index { operation with phase },
      other.submissionId = submissionId → isSettled other.phase = true := by
  apply Pool.forall_set found quiet.operations
  intro same
  have settled := quiet.operations operation (Pool.mem_of_getElem? found) same
  rw [running] at settled
  cases settled

theorem quiet_move (keyed : (queueIds state.db).Nodup) (quiet : Quiet state submissionId)
    (orderly : Orderly uuid5 session state label)
    (move : Move uuid5 session state label writer next) :
    Quiet next submissionId ∨ (state.holder = none ∨ state.holder = some .pumping) ∧
      writer = none ∧ ∃ item, state.db.item submissionId = some item ∧
        item.state = .localQueued := by
  cases move with
  | @admitted key row item free found waiting queued =>
    by_cases same : submissionIdOf uuid5 session key = submissionId
    · subst same
      exact .inr ⟨.inl free, rfl, item, queued, orderly item queued⟩
    · exact .inl ⟨Pool.forall_push quiet.calls same, quiet.operations⟩
  | @dispatches item turn found =>
    obtain ⟨stored, waits⟩ := nextQueued_state keyed found
    by_cases same : item.id = submissionId
    · subst same
      exact .inr ⟨.inr turn, rfl, item, stored, waits⟩
    · exact .inl ⟨Pool.forall_push quiet.calls same, quiet.operations⟩
  | joined found =>
    have other := quiet.calls _ (Pool.mem_of_getElem? found)
    exact .inl ⟨Pool.forall_set found quiet.calls other, quiet.operations⟩
  | created found =>
    have other := quiet.calls _ (Pool.mem_of_getElem? found)
    exact .inl ⟨Pool.forall_set found quiet.calls other,
      Pool.forall_push quiet.operations fun same => absurd same other⟩
  | withdrawn | reported | doubted =>
    refine .inl ⟨?_, quiet.operations⟩
    intro call inside
    exact quiet.calls call (Pool.mem_of_mem_eraseIdx inside)
  | operated found moves =>
    exact .inl ⟨quiet.calls, quiet_setPhase quiet found (not_settled moves) _⟩
  | sent found checking =>
    refine .inl ⟨quiet.calls, quiet_setPhase quiet found ?_ _⟩
    rw [checking]
    rfl
  | restarted =>
    refine .inl ⟨by simp, ?_⟩
    intro operation inside _
    obtain ⟨old, _, rfl⟩ := List.mem_map.mp inside
    unfold interrupted
    split
    next settled =>
      rw [settled]
      rfl
    · rfl
  | enqueued | pumped | left | blocks | misses | cancels | replaces | forgot | blocked | marked
  | cancelled | replaced | observed | takenOver => exact .inl ⟨quiet.calls, quiet.operations⟩

end Dispatches

/-! ## What others do to a quiet item -/

/-- The transaction belongs neither to the holder of the lock nor to a dispatch of the
submission. -/
def Foreign (submissionId : String) : Writer → Prop
  | .reduce event => match event.body with
    | .submitting data => data.submissionId ≠ submissionId
    | .preSendDeferred target | .accepted target _ | .acceptanceUnknown target
    | .rejected target => target ≠ submissionId
    | .cancelQueued .. | .queueReplaced _ | .queueBlocked .. => False
    | _ => True
  | .requeue _ target _ _ => target ≠ submissionId
  | .takeover .. => True
  | .contentUnavailable .. | .recover .. => False

theorem Change.foreign_item {writer : Writer} {result : View}
    {item : QueueItem} (change : Change db id writer view result) (foreign : Foreign id writer)
    (found : view.item = some item) (waits : item.state ∈ cancellableStates) :
    ∃ after, result.item = some after ∧ after.state = item.state := by
  have unmoved : ∀ fromStates state, (∀ old ∈ fromStates, old ∉ cancellableStates) →
      (moveIf fromStates state item).state = item.state := by
    intro fromStates state other
    unfold moveIf
    split
    next moved => exact absurd waits (other item.state moved)
    · rfl
  cases change with
  | kept | forgotten | copied | idled | tasked | settled | reopened => exact ⟨item, found, rfl⟩
  | inserted => exact ⟨item, by simp [found], rfl⟩
  | postponed =>
    cases found
    exact ⟨_, rfl, rfl⟩
  | claimed body target => simp [Foreign, body, target] at foreign
  | requeued => exact absurd rfl foreign
  | observed | noticed | created | orphaned =>
    cases found
    exact ⟨_, rfl, unmoved _ _ (by decide)⟩
  | takenOver =>
    simp only [found, Option.map_some]
    refine ⟨_, rfl, ?_⟩
    split
    next moved =>
      rw [moved.2] at waits
      simp [cancellableStates] at waits
    · rfl
  | contentLost | recovered => exact False.elim foreign
  | retired body | cancelled body | deferred body | blocked body | accepted body | corrected body
  | doubted body | refused body | rejected body => simp [Foreign, body] at foreign

theorem Change.foreign_row {writer : Writer} {result : View}
    (change : Change db id writer view result) (foreign : Foreign id writer)
    (found : view.row = some row) : ∃ after, result.row = some after ∧
      (row.state ≠ .submitting → after.state ≠ .submitting) := by
  cases change with
  | kept | postponed | noticed => exact ⟨row, found, fun idle => idle⟩
  | inserted => exact ⟨row, by simp [found], fun idle => idle⟩
  | claimed body target => simp [Foreign, body, target] at foreign
  | requeued => exact absurd rfl foreign
  | forgotten =>
    exact ⟨_, rfl, by simp⟩
  | copied | created => cases found
  | observed body same state | orphaned body _ _ _ _ same _ state
  | reopened body _ same _ state =>
    exact ⟨_, rfl, by simp [state]⟩
  | idled body running same evidence state =>
    refine ⟨_, rfl, ?_⟩
    intro _
    rw [state]
    exact (left_waiting (idleState_not_waiting _ _)).2
  | tasked body same evidence state =>
    cases found
    refine ⟨_, rfl, ?_⟩
    rcases state with state | state
    · rw [state]
      exact fun idle => idle
    · simp [state]
  | settled body settles =>
    refine ⟨_, rfl, ?_⟩
    rcases (settles_states settles).2 with state | state
    · simp [state]
    · simp [state]
  | takenOver =>
    simp only [found, Option.map_some]
    refine ⟨_, rfl, ?_⟩
    intro idle
    split
    · exact (left_waiting (lostState_not_waiting row.state)).2
    · exact idle
  | contentLost | recovered => exact False.elim foreign
  | retired body | cancelled body | deferred body | blocked body | accepted body | corrected body
  | doubted body | refused body | rejected body => simp [Foreign, body] at foreign

/-! ## The invariant -/

/-- What the holder of the lock relies on until its write is applied. -/
def Held (state : State) : Holder → Prop
  | .blocking submissionId _ => Quiet state submissionId
  | .unavailable submissionId => Quiet state submissionId ∧
    ∃ row, state.db.submission submissionId = some row ∧ row.state ≠ .submitting
  | .replacing data => Quiet state data.oldId ∧
    (∃ row, state.db.submission data.oldId = some row) ∧
    ∃ item, state.db.item data.oldId = some item ∧ item.state ∈ data.allowed ∧
      item.state ∈ cancellableStates
  | _ => True

structure Consistent (state : State) : Prop where
  keyed : (queueIds state.db).Nodup
  unsent : Unsent state.db
  matched : ∀ id, Matched cancellableStates (state.db.view id)
  ready : ∀ id, ¬ Quiet state id → Matched [.localQueued] (state.db.view id)
  held : ∀ holder, state.holder = some holder → Held state holder

variable {submissionId : String}

section Invariant

variable {state next after : State} {label : Label} {writer : Option Writer}

theorem consistent_empty : Consistent {} := by
  refine ⟨List.nodup_nil, ?_, ?_, ?_, ?_⟩
  · intro id row found
    cases found
  · intro id
    exact ⟨fun _ => rfl, fun row found => by cases found⟩
  · intro id _
    exact ⟨fun _ => rfl, fun row found => by cases found⟩
  · intro holder holds
    cases holds

theorem quiet_of_eq (quiet : Quiet next submissionId)
    (calls : after.calls = next.calls) (operations : after.operations = next.operations) :
    Quiet after submissionId := by
  constructor
  · rw [calls]
    exact quiet.calls
  · rw [operations]
    exact quiet.operations

variable {transaction : Writer} {holder : Holder}

/-- While the holder of the lock waits, the others write nothing to its item. -/
theorem foreign_move (quiet : Quiet state submissionId) (keeps : next.holder = some holder)
    (written : writer = some transaction)
    (move : Move uuid5 session state label writer next) : Foreign submissionId transaction := by
  cases move with
  | enqueued | takenOver =>
    cases written
    trivial
  | reported found =>
    have other := quiet.calls _ (Pool.mem_of_getElem? found)
    obtain ⟨_, rfl⟩ | rfl | rfl | rfl := reportOf_cases written
    · exact other
    · exact other
    · exact other
    · exact other
  | doubted found =>
    cases written
    exact quiet.calls _ (Pool.mem_of_getElem? found)
  | @operated _ index operation _ phase found moves =>
    have other : operation.submissionId ≠ submissionId := by
      intro same
      have settled := quiet.operations operation (Pool.mem_of_getElem? found) same
      rw [not_settled moves] at settled
      cases settled
    cases moves with
    | fenced | claims | requeues | postpones | accepts =>
      cases written
      exact other
    | won | lost | defers | oversize | interrupted => cases written
  | @observed event outside =>
    cases written
    unfold Event.outside at outside
    unfold Foreign
    split at outside <;> simp_all
  | blocked | marked | cancelled | replaced | restarted => cases keeps
  | admitted | pumped | left | blocks | misses | dispatches | cancels | replaces | forgot | joined
  | created | withdrawn | sent => cases written

theorem held_write (held : Held state holder)
    (done : write uuid5 state.db transaction = some db) (same : after.db = db)
    (quiet : ∀ submissionId, Quiet state submissionId → Quiet after submissionId)
    (foreign : ∀ submissionId, Quiet state submissionId → Foreign submissionId transaction) :
    Held after holder := by
  subst same
  cases holder with
  | pumping | dispatching | cancelling => trivial
  | blocking submissionId reason => exact quiet submissionId held
  | unavailable submissionId =>
    obtain ⟨still, row, stored, idle⟩ := held
    have change := change_of_write submissionId done
    obtain ⟨now, there, kept⟩ := Change.foreign_row change (foreign _ still) stored
    exact ⟨quiet _ still, now, there, kept idle⟩
  | replacing data =>
    obtain ⟨still, ⟨row, stored⟩, item, queued, allowed, waits⟩ := held
    have change := change_of_write data.oldId done
    refine ⟨quiet _ still, ?_, ?_⟩
    · obtain ⟨now, there, _⟩ := Change.foreign_row change (foreign _ still) stored
      exact ⟨now, there⟩
    · obtain ⟨now, there, state⟩ := Change.foreign_item change (foreign _ still) queued waits
      refine ⟨now, there, ?_, ?_⟩
      · rw [state]
        exact allowed
      · rw [state]
        exact waits

theorem allowed_cancellable {allowed : List QueueState}
    (known : allowed = updatableStates ∨ allowed = resubmittableStates) :
    ∀ state ∈ allowed, state ∈ cancellableStates := by
  rcases known with rfl | rfl
  · decide
  · decide

theorem replaceable_eq_true {allowed : List QueueState}
    (found : replaceable session allowed submissionId db = true) :
    (∃ row, db.submission submissionId = some row) ∧
      ∃ item, db.item submissionId = some item ∧ item.state ∈ allowed := by
  obtain ⟨items, rows⟩ := of_decide_eq_true found
  simp only [Option.any_eq_true] at items
  obtain ⟨item, stored, inside⟩ := items
  exact ⟨Option.isSome_iff_exists.mp rows, item, stored, (of_decide_eq_true inside).2⟩

theorem Consistent.idle {item : QueueItem}
    (consistent : Consistent state) (stored : state.db.submission submissionId = some row)
    (queued : state.db.item submissionId = some item) (waits : item.state ∈ cancellableStates) :
    row.state ≠ .submitting := by
  intro sends
  obtain ⟨same, found, sending⟩ := ((consistent.matched submissionId).2 row stored).sending sends
  have found : state.db.item submissionId = some same := found
  rw [queued] at found
  cases found
  rw [sending] at waits
  simp [cancellableStates] at waits

theorem held_move (consistent : Consistent state) (orderly : Orderly uuid5 session state label)
    (move : Move uuid5 session state label writer next) (holds : next.holder = some holder) :
    state.holder = some holder ∨ writer = none ∧ Held next holder := by
  cases move with
  | pumped | cancels | dispatches =>
    cases holds
    exact .inr ⟨rfl, trivial⟩
  | left | blocked | marked | cancelled | replaced | restarted => cases holds
  | blocks turn picked =>
    cases holds
    have quiet := orderly _ picked
    exact .inr ⟨rfl, quiet.calls, quiet.operations⟩
  | @misses item turn picked =>
    cases holds
    have quiet := orderly _ picked
    obtain ⟨stored, waits⟩ := nextQueued_state consistent.keyed picked
    have member := List.argmin_mem (Option.mem_def.mpr picked)
    have joined := (of_decide_eq_true (List.mem_filter.mp member).2).2.2
    obtain ⟨row, found⟩ := Option.isSome_iff_exists.mp joined
    refine .inr ⟨rfl, ⟨quiet.calls, quiet.operations⟩, row, found, ?_⟩
    exact consistent.idle found stored (by simp [waits, cancellableStates])
  | @replaces _ data free edits allowed found =>
    cases holds
    have quiet : Quiet state data.oldId := by
      rcases edits with ⟨_, _, _, _, rfl⟩ | ⟨_, _, _, _, rfl⟩
      · exact orderly
      · exact orderly
    obtain ⟨row, item, stored, inside⟩ := replaceable_eq_true found
    exact .inr ⟨rfl, ⟨quiet.calls, quiet.operations⟩, row, item, stored, inside,
      allowed_cancellable allowed _ inside⟩
  | forgot free found =>
    cases holds
    have quiet : Quiet state _ := orderly
    obtain ⟨⟨row, there⟩, item, stored, inside⟩ := replaceable_eq_true found
    refine .inr ⟨rfl, ⟨quiet.calls, quiet.operations⟩, row, there, ?_⟩
    exact consistent.idle there stored (allowed_cancellable (.inr rfl) _ inside)
  | withdrawn | reported | doubted =>
    simp only [State.finish] at holds
    split at holds
    · cases holds
    · exact .inl holds
  | enqueued | admitted | joined | created | operated | sent | observed | takenOver =>
    exact .inl holds

/-- The transactions that only the holder of the lock makes. -/
def ofLock : Writer → Bool
  | .reduce event => match event.body with
    | .cancelQueued .. | .queueReplaced _ | .queueBlocked .. => true
    | _ => false
  | .contentUnavailable .. => true
  | _ => false

theorem lock_of_move (written : writer = some transaction)
    (locked : ofLock transaction = true) (move : Move uuid5 session state label writer next) :
    ∃ now, (∃ submissionId reason, state.holder = some (.blocking submissionId reason) ∧
        transaction = .reduce (blockedEvent session submissionId reason now)) ∨
      (∃ submissionId, state.holder = some (.unavailable submissionId) ∧
        transaction = .contentUnavailable submissionId now) ∨
      (∃ submissionIds, state.holder = some (.cancelling submissionIds) ∧
        transaction = .reduce (cancelEvent uuid5 session submissionIds now)) ∨
      ∃ data, state.holder = some (.replacing data) ∧
        transaction = .reduce (replacedEvent session data now) := by
  cases move with
  | @blocked submissionId reason now holds =>
    cases written
    exact ⟨now, .inl ⟨submissionId, reason, holds, rfl⟩⟩
  | @marked submissionId now holds =>
    cases written
    exact ⟨now, .inr (.inl ⟨submissionId, holds, rfl⟩)⟩
  | @cancelled submissionIds now holds =>
    cases written
    exact ⟨now, .inr (.inr (.inl ⟨submissionIds, holds, rfl⟩))⟩
  | @replaced data now holds =>
    cases written
    exact ⟨now, .inr (.inr (.inr ⟨data, holds, rfl⟩))⟩
  | reported =>
    obtain ⟨_, rfl⟩ | rfl | rfl | rfl := reportOf_cases written <;> cases locked
  | operated found moves => cases moves <;> cases written <;> cases locked
  | @observed event outside =>
    cases written
    unfold Event.outside at outside
    unfold ofLock at locked
    split at outside <;> simp_all
  | enqueued | doubted | takenOver | restarted =>
    cases written
    cases locked
  | admitted | pumped | left | blocks | misses | dispatches | cancels | replaces | forgot | joined
  | created | withdrawn | sent => cases written

theorem not_parts {waits : List QueueState}
    (consistent : Consistent state) (written : writer = some transaction)
    (move : Move uuid5 session state label writer next)
    (loud : ∀ reason, QueueState.blocked reason ∉ waits → ¬ Quiet state id) :
    ¬ Parts waits transaction id (state.db.submission id) := by
  rintro (⟨event, ids, states, rfl, body, sends⟩ | ⟨⟨_, rfl⟩, row, stored, sends⟩ |
    ⟨event, reason, rfl, body, outside⟩)
  · have locked : ofLock (.reduce event) = true := by simp [ofLock, body]
    obtain ⟨now, ⟨_, _, _, same⟩ | ⟨_, _, same⟩ | ⟨listed, _, same⟩ | ⟨_, _, same⟩⟩ :=
      lock_of_move written locked move
    · cases same
      cases body
    · cases same
    · cases same
      cases body
      simp [cancellableStates] at sends
    · cases same
      cases body
  · obtain ⟨now, ⟨_, _, _, same⟩ | ⟨_, holds, same⟩ | ⟨_, _, same⟩ | ⟨_, _, same⟩⟩ :=
      lock_of_move written rfl move
    · cases same
    · cases same
      obtain ⟨_, other, found, idle⟩ := consistent.held _ holds
      rw [stored] at found
      cases found
      exact idle sends
    · cases same
    · cases same
  · have locked : ofLock (.reduce event) = true := by simp [ofLock, body]
    obtain ⟨now, ⟨_, _, holds, same⟩ | ⟨_, _, same⟩ | ⟨_, _, same⟩ | ⟨_, _, same⟩⟩ :=
      lock_of_move written locked move
    · cases same
      cases body
      exact loud reason outside (consistent.held _ holds)
    · cases same
    · cases same
      cases body
    · cases same
      cases body

/-- The pump apart, who holds the lock keeps dispatches from starting. -/
theorem quiet_of_holder (consistent : Consistent state)
    (orderly : Orderly uuid5 session state label)
    (move : Move uuid5 session state label writer next) (holds : state.holder = some holder)
    (busy : holder ≠ .pumping) (quiet : Quiet state submissionId) : Quiet next submissionId := by
  rcases quiet_move consistent.keyed quiet orderly move with still | ⟨free | turn, _⟩
  · exact still
  · rw [holds] at free
    cases free
  · rw [holds] at turn
    cases turn
    exact absurd rfl busy

theorem held_of_eq (held : Held state holder) (same : next.db = state.db)
    (quiet : ∀ submissionId, Quiet state submissionId → Quiet next submissionId) :
    Held next holder := by
  cases holder with
  | pumping | dispatching | cancelling => trivial
  | blocking submissionId reason => exact quiet submissionId held
  | unavailable submissionId =>
    unfold Held
    rw [same]
    exact ⟨quiet _ held.1, held.2⟩
  | replacing data =>
    unfold Held
    rw [same]
    exact ⟨quiet _ held.1, held.2⟩

theorem consistent_move (consistent : Consistent state)
    (orderly : Orderly uuid5 session state label)
    (move : Move uuid5 session state label none next) : Consistent next := by
  have same := move.db
  refine ⟨?_, ?_, ?_, ?_, ?_⟩
  · rw [same]
    exact consistent.keyed
  · rw [same]
    exact consistent.unsent
  · intro id
    rw [same]
    exact consistent.matched id
  · intro id loud
    rw [same]
    by_cases quiet : Quiet state id
    · rcases quiet_move consistent.keyed quiet orderly move with still | ⟨_, _, item, found, waits⟩
      · exact absurd still loud
      · have matched := consistent.matched id
        refine ⟨matched.1, ?_⟩
        intro row stored
        refine ⟨?_, (matched.2 row stored).sending⟩
        intro _
        exact ⟨item, found, by simp [waits]⟩
    · exact consistent.ready id quiet
  · intro holder holds
    rcases held_move consistent orderly move holds with before | ⟨_, held⟩
    · by_cases turn : holder = .pumping
      · subst turn
        trivial
      · refine held_of_eq (consistent.held holder before) same ?_
        intro submissionId quiet
        exact quiet_of_holder consistent orderly move before turn quiet
    · exact held

theorem consistent_write {commits : List Event}
    (consistent : Consistent state) (orderly : Orderly uuid5 session state label)
    (move : Move uuid5 session state label (some transaction) next)
    (done : write uuid5 state.db transaction = some db) :
    Consistent { next with db, commits } := by
  have matched : ∀ waits id, QueueState.localQueued ∈ waits →
      (∀ queued ∈ waits, queued ∈ cancellableStates) →
      (∀ reason, QueueState.blocked reason ∉ waits → ¬ Quiet state id) →
      Matched waits (state.db.view id) → Matched waits (db.view id) := by
    intro waits id first among loud before
    have change := change_of_write id done
    have own : ∀ row, (state.db.view id).row = some row → row.unsent := by
      intro row stored
      exact consistent.unsent id row stored
    exact Change.matched change consistent.unsent own first among before
      (not_parts consistent rfl move loud)
  refine ⟨nodup_write consistent.keyed done, unsent_write consistent.unsent done, ?_, ?_, ?_⟩
  · intro id
    refine matched cancellableStates id (by decide) (fun _ inside => inside) ?_
      (consistent.matched id)
    intro reason outside
    exact absurd (mem_cancellableStates.mpr (.inr ⟨reason, rfl⟩)) outside
  · intro id loud
    have before : ¬ Quiet state id := by
      intro quiet
      rcases quiet_move consistent.keyed quiet orderly move with still | ⟨_, none, _⟩
      · exact loud (quiet_of_eq still rfl rfl)
      · cases none
    exact matched [.localQueued] id (by simp) (by decide) (fun _ _ => before)
      (consistent.ready id before)
  · intro holder holds
    rcases held_move consistent orderly move holds with held | ⟨none, _⟩
    · by_cases turn : holder = .pumping
      · subst turn
        trivial
      · refine held_write (consistent.held holder held) done rfl ?_ ?_
        · intro submissionId quiet
          have still := quiet_of_holder consistent orderly move held turn quiet
          exact quiet_of_eq still rfl rfl
        · intro submissionId quiet
          have keeps : next.holder = some holder := holds
          exact foreign_move quiet keeps rfl move
    · cases none

end Invariant

/-! ## What stops the reducer -/

section Failures

variable {db : Db} {event : Event} {failure : Failure}

variable {receivedAt : ℚ}

theorem split_error {appState : SubmissionState}
    (stopped : splitObservedSubmission uuid5 sdkSessionId submissionId appState
      receivedAt db = .error failure) : failure = .integrity := by
  unfold splitObservedSubmission at stopped
  split at stopped
  · cases stopped
  · split at stopped
    · cases stopped
    · dsimp only at stopped
      split at stopped
      · cases stopped
        rfl
      · cases stopped

theorem bind_error {α β : Type} {first : Except Failure α} {next : α → Except Failure β}
    (stopped : first.bind next = .error failure) (goesOn : ∀ value, ∃ result,
      next value = .ok result) : first = .error failure := by
  cases first with
  | error other =>
    cases stopped
    rfl
  | ok value =>
    obtain ⟨result, done⟩ := goesOn value
    simp only [Except.bind, done] at stopped
    cases stopped

theorem accepted_error {exactMapping : Bool} {messageId : String}
    (stopped : accepted uuid5 exactMapping sdkSessionId submissionId messageId
      receivedAt db = .error failure) : failure = .integrity := by
  unfold accepted at stopped
  split at stopped
  · cases stopped
  · split at stopped
    · cases stopped
    · have first := bind_error stopped ?_
      · split at first
        · exact split_error first
        · cases first
      · intro value
        split
        · exact ⟨_, rfl⟩
        · exact ⟨_, rfl⟩

theorem rejected_error
    (stopped : rejected uuid5 sdkSessionId submissionId receivedAt db = .error failure) :
    failure = .integrity := by
  unfold rejected at stopped
  split at stopped
  · cases stopped
  · split at stopped
    · cases stopped
    · split at stopped
      · cases stopped
      · have first := bind_error stopped (fun _ => ⟨_, rfl⟩)
        split at first
        · exact split_error first
        · cases first

theorem submitting_error {data : SubmittingData}
    (stopped : submitting sdkSessionId data receivedAt db = .error failure) :
    ∃ row, db.submission data.submissionId = some row ∧ row.state = .localQueued ∧
      ∀ item, db.item data.submissionId = some item → item.state ≠ .localQueued := by
  unfold submitting at stopped
  dsimp only at stopped
  split at stopped
  · cases stopped
  · split at stopped
    · cases stopped
    next claims =>
      split at stopped
      next diverged =>
        simp only [Bool.not_eq_eq_eq_not, Bool.not_true, Bool.not_eq_false,
          Option.any_eq_true] at claims
        obtain ⟨row, stored, waits⟩ := claims
        refine ⟨row, stored, (of_decide_eq_true waits).2.2, ?_⟩
        intro item found queued
        simp [found, queued, item_key found] at diverged
      · cases stopped

theorem queueReplaced_error {data : ReplacedData}
    (stopped : queueReplaced data db = .error failure) :
    db.item data.newId = none ∧ ∀ item row, db.item data.oldId = some item →
      db.submission data.oldId = some row → item.state ∉ data.allowed := by
  unfold queueReplaced at stopped
  split at stopped
  · cases stopped
  · split at stopped
    · cases stopped
    next absent =>
      split at stopped
      · cases stopped
      next new =>
        refine ⟨by simpa using new, ?_⟩
        intro item row found stored inside
        refine absent item row ?_ stored
        rw [Option.filter_eq_some_iff]
        exact ⟨found, decide_eq_true inside⟩

theorem persist_error (stopped : persist uuid5 event db = .error failure) :
    (∃ data row, event.body = .submitting data ∧ db.submission data.submissionId = some row ∧
      row.state = .localQueued ∧
      ∀ item, db.item data.submissionId = some item → item.state ≠ .localQueued) ∨
    (∃ data, event.body = .queueReplaced data ∧ db.item data.newId = none ∧
      ∀ item row, db.item data.oldId = some item → db.submission data.oldId = some row →
        item.state ∉ data.allowed) ∨
    failure = .missingEventId ∨ failure = .integrity := by
  unfold persist at stopped
  split at stopped
  · cases stopped
  · have handled := bind_error stopped (fun _ => ⟨_, rfl⟩)
    unfold applyDomainState at handled
    split at handled
    next data body =>
      cases handled
    next data body =>
      obtain ⟨row, stored, waits, diverged⟩ := submitting_error handled
      exact .inl ⟨data, row, body, stored, waits, diverged⟩
    · cases handled
    · cases handled
    next data body => exact .inr (.inl ⟨data, body, queueReplaced_error handled⟩)
    · cases handled
    · cases handled
    · exact .inr (.inr (.inr (accepted_error handled)))
    · cases handled
    · exact .inr (.inr (.inr (rejected_error handled)))
    · split at handled
      · cases handled
        exact .inr (.inr (.inl rfl))
      · cases handled
    all_goals cases handled

end Failures

/-! ## Runs -/

section Runs

variable {state next after : State} {label : Label} {writer : Option Writer}

theorem claim_of_move {event : Event} {data : SubmittingData}
    (written : writer = some (.reduce event)) (body : event.body = .submitting data)
    (move : Move uuid5 session state label writer next) :
    ∃ operation ∈ state.operations, operation.phase = .pending ∧
      operation.submissionId = data.submissionId := by
  cases move with
  | operated found moves =>
    cases moves with
    | claims ready now phase =>
      cases written
      cases body
      exact ⟨_, Pool.mem_of_getElem? found, phase, rfl⟩
    | postpones | accepts =>
      cases written
      cases body
    | _ => cases written
  | reported =>
    obtain ⟨_, same⟩ | same | same | same := reportOf_cases written <;> cases same <;> cases body
  | observed outside =>
    cases written
    simp [Event.outside, body] at outside
  | enqueued | blocked | cancelled | replaced | doubted =>
    cases written
    cases body
  | _ => cases written

theorem Consistent.claimable (consistent : Consistent state) (inside : operation ∈ state.operations)
    (pending : operation.phase = .pending)
    (stored : state.db.submission operation.submissionId = some row)
    (waits : row.state = .localQueued) :
    ∃ item, state.db.item operation.submissionId = some item ∧ item.state = .localQueued := by
  have loud : ¬ Quiet state operation.submissionId := by
    intro quiet
    have settled := quiet.operations operation inside rfl
    rw [pending] at settled
    cases settled
  obtain ⟨item, found, queued⟩ := ((consistent.ready _ loud).2 row stored).waiting waits
  exact ⟨item, found, List.mem_singleton.mp queued⟩

theorem Consistent.replaceable {data : ReplacedData} (consistent : Consistent state)
    (holds : state.holder = some (.replacing data)) :
    ∃ item row, state.db.item data.oldId = some item ∧ state.db.submission data.oldId = some row ∧
      item.state ∈ data.allowed := by
  obtain ⟨_, ⟨row, stored⟩, item, found, allowed, _⟩ := consistent.held _ holds
  exact ⟨item, row, found, stored, allowed⟩

theorem consistent_failure {event : Event} {failure : Failure} (consistent : Consistent state)
    (move : Move uuid5 session state label (some (.reduce event)) next)
    (stopped : persist uuid5 event state.db = .error failure) :
    failure = .missingEventId ∨ failure = .integrity := by
  rcases persist_error stopped with ⟨data, row, body, stored, waits, diverged⟩ |
    ⟨data, body, _, refused⟩ | other
  · obtain ⟨operation, inside, pending, same⟩ := claim_of_move rfl body move
    rw [← same] at stored diverged
    obtain ⟨item, found, queued⟩ := consistent.claimable inside pending stored waits
    exact absurd queued (diverged item found)
  · have locked : ofLock (.reduce event) = true := by simp [ofLock, body]
    obtain ⟨now, ⟨_, _, _, same⟩ | ⟨_, _, same⟩ | ⟨_, _, same⟩ | ⟨held, holds, same⟩⟩ :=
      lock_of_move rfl locked move
    · cases same
      cases body
    · cases same
    · cases same
      cases body
    · cases same
      cases body
      obtain ⟨item, row, found, stored, allowed⟩ := consistent.replaceable holds
      exact absurd allowed (refused item row found stored)
  · exact other

/-- What stopped the reducer is not an error of the queue's handlers. -/
def Unstopped (state : State) : Prop :=
  ∀ failure, state.failure = some failure → failure = .missingEventId ∨ failure = .integrity

theorem Move.failure (move : Move uuid5 session state label writer next) :
    next.failure = state.failure ∨ next.failure = none := by
  cases move with
  | restarted => exact .inr rfl
  | _ => exact .inl rfl

theorem unstopped_move (unstopped : Unstopped state)
    (move : Move uuid5 session state label writer next) (same : after.failure = next.failure) :
    Unstopped after := by
  intro failure stopped
  rw [same] at stopped
  rcases Move.failure move with kept | cleared
  · rw [kept] at stopped
    exact unstopped failure stopped
  · rw [cleared] at stopped
    cases stopped

theorem consistent_step (taken : step uuid5 session state label = some after)
    (orderly : Orderly uuid5 session state label) (consistent : Consistent state)
    (unstopped : Unstopped state) : Consistent after ∧ Unstopped after := by
  obtain ⟨writer, next, move, ⟨rfl, rfl⟩ | ⟨transaction, db, rfl, done, rfl⟩ |
    ⟨event, failure, rfl, stopped, rfl⟩⟩ := step_cases taken
  · exact ⟨consistent_move consistent orderly move, unstopped_move unstopped move rfl⟩
  · exact ⟨consistent_write consistent orderly move done, unstopped_move unstopped move rfl⟩
  · constructor
    · exact ⟨consistent.keyed, consistent.unsent, consistent.matched,
        fun id loud => consistent.ready id fun quiet => loud ⟨quiet.calls, quiet.operations⟩,
        fun holder holds => held_of_eq (consistent.held holder holds) rfl
          fun _ quiet => ⟨quiet.calls, quiet.operations⟩⟩
    · intro other found
      cases found
      exact consistent_failure consistent move stopped

theorem consistent_run {labels : List Label}
    (reached : Run.run (step uuid5 session) {} labels = some state)
    (along : Run.Along (step uuid5 session) (Orderly uuid5 session) {} labels) :
    Consistent state ∧ Unstopped state := by
  have keep : ∀ s label t, Consistent s ∧ Unstopped s → Orderly uuid5 session s label →
      step uuid5 session s label = some t → Consistent t ∧ Unstopped t := by
    rintro s label t ⟨consistent, unstopped⟩ orderly taken
    exact consistent_step taken orderly consistent unstopped
  have start : Consistent {} ∧ Unstopped {} := by
    refine ⟨consistent_empty, ?_⟩
    intro failure stopped
    cases stopped
  exact Run.run_inv_along keep along start reached

/-- In a run whose steps are orderly, a claim that finds its submission waiting finds its queue
row waiting, a replacement finds its old item in an allowed state, and neither of the two
handlers ever stopped the reducer. -/
theorem queue_operations_keep_reducer {labels : List Label}
    (reached : Run.run (step uuid5 session) {} labels = some state)
    (along : Run.Along (step uuid5 session) (Orderly uuid5 session) {} labels) :
    (∀ operation ∈ state.operations, operation.phase = .pending →
      ∀ row, state.db.submission operation.submissionId = some row →
        row.state = .localQueued → ∃ item, state.db.item operation.submissionId = some item ∧
          item.state = .localQueued) ∧
    (∀ data, state.holder = some (.replacing data) →
      (∃ item row, state.db.item data.oldId = some item ∧
        state.db.submission data.oldId = some row ∧ item.state ∈ data.allowed) ∨
      (state.db.item data.newId).isSome) ∧
    ∀ submissionId, state.failure ≠ some (.queueDiverged submissionId) ∧
      state.failure ≠ some (.cannotReplace submissionId) := by
  obtain ⟨consistent, unstopped⟩ := consistent_run reached along
  refine ⟨?_, ?_, ?_⟩
  · intro operation inside pending row stored waits
    exact consistent.claimable inside pending stored waits
  · intro data holds
    exact .inl (consistent.replaceable holds)
  · intro submissionId
    constructor
    · intro stopped
      rcases unstopped _ stopped with other | other
      · cases other
      · cases other
    · intro stopped
      rcases unstopped _ stopped with other | other
      · cases other
      · cases other

end Runs

instance (state : State) (submissionId : String) : Decidable (Quiet state submissionId) :=
  decidable_of_iff ((∀ call ∈ state.calls, call.submissionId ≠ submissionId) ∧
    ∀ operation ∈ state.operations, operation.submissionId = submissionId →
      isSettled operation.phase = true)
    ⟨fun quiet => ⟨quiet.1, quiet.2⟩, fun quiet => ⟨quiet.calls, quiet.operations⟩⟩

instance (uuid5 : String → String) (session : Session) (state : State) (label : Label) :
    Decidable (Orderly uuid5 session state label) := by
  unfold Orderly
  split <;> infer_instance

/-- An immediate send submits its operation, and the pump decides on its item, which is still
queued, before the operation runs. -/
def driftDuringSend (decision : Decision) : List Label :=
  [.enqueue "key-1" { submissionId := "", threadId := "", promptHash := "hash", createdAt := 1 } 1,
    .immediate "key-1", .submit 0, .pump, .pick decision]

theorem queue_operations_keep_reducer_left :
    ∃ state, Run.run (step uuid5OfSession oneSession) {} (driftDuringSend .leave) = some state ∧
      state.operations.map (·.submissionId) = [onlyId] ∧
      (∃ item, state.db.item onlyId = some item ∧ item.state = .localQueued) ∧
      state.failure ≠ some (.queueDiverged onlyId) := by
  have runs : (Run.run (step uuid5OfSession oneSession) {} (driftDuringSend .leave)).map
      (fun state => (state.operations, (state.db.submission onlyId).map (·.state))) =
      some ([{ operationId := "442c65e3-c65e-5411-8e9d-823102926ee7", submissionId := onlyId
               dispatchAttempt := 0 }], some .localQueued) := by
    decide +kernel
  have along : Run.Along (step uuid5OfSession oneSession) (Orderly uuid5OfSession oneSession)
      {} (driftDuringSend .leave) := by decide +kernel
  obtain ⟨state, reached, ends⟩ := Option.map_eq_some_iff.mp runs
  obtain ⟨operations, waits⟩ := Prod.mk.inj ends
  obtain ⟨row, stored, waits⟩ := Option.map_eq_some_iff.mp waits
  obtain ⟨claims, _, unstopped⟩ := queue_operations_keep_reducer reached along
  refine ⟨state, reached, by simp [operations], ?_, (unstopped onlyId).1⟩
  exact claims _ (by rw [operations]; exact List.mem_singleton_self _) rfl row stored waits

/-- The pump blocks the item of an operation that did not run yet, and its claim stops the
reducer. -/
theorem blocked_dispatch_stops_reducer :
    (Run.run (step uuid5OfSession oneSession) {}
      (driftDuringSend (.block .modeDrift) ++ [.apply 2, .claim 0 true 3])).map (·.failure) =
      some (some (.queueDiverged onlyId)) := by
  decide +kernel

end Copilotd.Guarantees.QueueConsistency
