import Copilotd.Source.Core.QueueRuntime

/-!
# What one step of the queue's runtime does

`Move` lists the steps with what each requires of the state, what it writes and what it leaves
beside the tables; the steps of the mailbox's operations are listed apart in `OperationMove`.
`step_cases` says that a step is one of them: without a transaction, with one that goes
through, or with an event that stops the reducer.
-/
namespace Copilotd.Source.Core.QueueRuntime

open Source.Core.Submissions
open Source.Storage (SubmissionState)

section Moves

variable (uuid5 : String → String) (session : Session)

/-- A step of one operation: its transaction and its next phase. -/
inductive OperationMove (db : Db) (operation : Operation) :
    Option Writer → OperationPhase → Prop where
  | fenced (settles : Bool) (phase : operation.phase = .pending) :
      OperationMove db operation
        (some (.requeue session.sdkSessionId operation.submissionId operation.operationId
          operation.dispatchAttempt))
        (.settled (if settles then .deferred else .unknown))
  | claims (ready : Bool) (now : ℚ) (phase : operation.phase = .pending) :
      OperationMove db operation
        (some (.reduce (submittingEvent session
          { submissionId := operation.submissionId, operationId := operation.operationId
            dispatchAttempt := operation.dispatchAttempt, ready } now))) .reading
  | won (phase : operation.phase = .reading)
      (answer : claimAnswer session operation db = .claimed) :
      OperationMove db operation none .checking
  | lost (outcome : Outcome) (phase : operation.phase = .reading)
      (unsent : outcome = .claimDeferred ∨ outcome = .rejected) :
      OperationMove db operation none (.settled outcome)
  | defers (phase : operation.phase = .checking) : OperationMove db operation none .deferring
  | requeues (outcome : Outcome) (phase : operation.phase = .checking)
      (unsent : outcome = .claimDeferred ∨ outcome = .unknown) :
      OperationMove db operation
        (some (.requeue session.sdkSessionId operation.submissionId operation.operationId
          operation.dispatchAttempt)) (.settled outcome)
  | postpones (now : ℚ) (phase : operation.phase = .deferring) :
      OperationMove db operation
        (some (.reduce (deferredEvent session operation.submissionId operation.dispatchAttempt
          now))) (.settled .claimDeferred)
  | oversize (phase : operation.phase = .checking) :
      OperationMove db operation none (.settled .rejected)
  | accepts (messageId : String) (confirmed : Bool) (now : ℚ)
      (phase : operation.phase = .accepting messageId) :
      OperationMove db operation
        (some (.reduce (acceptedEvent session operation.submissionId messageId now)))
        (.settled (if confirmed then .accepted messageId else .unknown))
  | interrupted (phase : ∀ outcome, operation.phase ≠ .settled outcome) :
      OperationMove db operation none (.settled .unknown)

/-- The phase after `bridge.send`. -/
def sentPhase : SendOutcome → OperationPhase
  | .accepted messageId => .accepting messageId
  | .rejected => .settled .rejected
  | .unknown => .settled .unknown

inductive Move (state : State) : Label → Option Writer → State → Prop where
  | enqueued {key : String} {data : QueuedData} {now : ℚ} :
      Move state (.enqueue key data now)
        (some (.reduce (queuedEvent session { data with
          submissionId := submissionIdOf uuid5 session key
          threadId := session.threadId } now))) state
  | admitted {key : String} {row : Submission} {item : QueueItem} (free : state.holder = none)
      (found : state.db.submission (submissionIdOf uuid5 session key) = some row)
      (waiting : row.state = .localQueued)
      (queued : state.db.item (submissionIdOf uuid5 session key) = some item) :
      Move state (.immediate key) none
        { state with calls := state.calls ++ [immediateCall uuid5 session key item] }
  | pumped (free : state.holder = none) :
      Move state .pump none { state with holder := some .pumping }
  | left {decision : Decision} :
      Move state (.pick decision) none { state with holder := none }
  | blocks {reason : BlockReason} {item : QueueItem} (turn : state.holder = some .pumping)
      (next : nextQueued session state.db = some item) :
      Move state (.pick (.block reason)) none
        { state with holder := some (.blocking item.id reason) }
  | misses {item : QueueItem} (turn : state.holder = some .pumping)
      (next : nextQueued session state.db = some item) :
      Move state (.pick .unavailable) none
        { state with holder := some (.unavailable item.id) }
  | dispatches {item : QueueItem} (turn : state.holder = some .pumping)
      (next : nextQueued session state.db = some item) :
      Move state (.pick .dispatch) none (pickItem uuid5 session .dispatch item state)
  | cancels {target : Option String} (free : state.holder = none) :
      Move state (.cancel target) none
        { state with holder := some (.cancelling (cancellableIds session target state.db)) }
  | replaces {label : Label} {data : ReplacedData} (free : state.holder = none)
      (edits : (∃ key promptHash requestedMode createdAt,
          label = .update data.oldId key promptHash requestedMode createdAt) ∨
        ∃ key promptHash requestedMode createdAt,
          label = .resubmit data.oldId key (some promptHash) requestedMode createdAt)
      (allowed : data.allowed = updatableStates ∨ data.allowed = resubmittableStates)
      (found : replaceable session data.allowed data.oldId state.db = true) :
      Move state label none { state with holder := some (.replacing data) }
  | forgot {submissionId key requestedMode : String} {createdAt : ℚ} (free : state.holder = none)
      (found : replaceable session resubmittableStates submissionId state.db = true) :
      Move state (.resubmit submissionId key none requestedMode createdAt) none
        { state with holder := some (.unavailable submissionId) }
  | blocked {submissionId : String} {reason : BlockReason} {now : ℚ}
      (holds : state.holder = some (.blocking submissionId reason)) :
      Move state (.apply now) (some (.reduce (blockedEvent session submissionId reason now)))
        { state with holder := none }
  | marked {submissionId : String} {now : ℚ}
      (holds : state.holder = some (.unavailable submissionId)) :
      Move state (.apply now) (some (.contentUnavailable submissionId now))
        { state with holder := none }
  | cancelled {submissionIds : List String} {now : ℚ}
      (holds : state.holder = some (.cancelling submissionIds)) :
      Move state (.apply now) (some (.reduce (cancelEvent uuid5 session submissionIds now)))
        { state with holder := none }
  | replaced {data : ReplacedData} {now : ℚ} (holds : state.holder = some (.replacing data)) :
      Move state (.apply now) (some (.reduce (replacedEvent session data now)))
        { state with holder := none }
  | joined {index : Nat} {call : Call} {late : Bool} (found : state.calls[index]? = some call) :
      Move state (.submit index) none
        { state with calls := state.calls.set index { call with phase := .waiting late } }
  | created {index : Nat} {call : Call} (found : state.calls[index]? = some call)
      (new : state.operation call.operationId = none) :
      Move state (.submit index) none { state with
        calls := state.calls.set index { call with phase := .waiting false }
        operations := state.operations ++
          [{ operationId := call.operationId, submissionId := call.submissionId
             dispatchAttempt := call.dispatchAttempt }] }
  | withdrawn {index : Nat} {call : Call} (found : state.calls[index]? = some call) :
      Move state (.withdraw index) none (state.finish index call)
  | reported {index : Nat} {now : ℚ} {call : Call} {late : Bool} {operation : Operation}
      {outcome : Outcome} (found : state.calls[index]? = some call)
      (phase : call.phase = .waiting late)
      (known : state.operation call.operationId = some operation)
      (settled : operation.phase = .settled outcome) :
      Move state (.report index now) (reportOf session call late now outcome)
        (state.finish index call)
  | doubted {index : Nat} {now : ℚ} {call : Call} (found : state.calls[index]? = some call) :
      Move state (.doubt index now)
        (some (.reduce (acceptanceUnknownEvent session call.submissionId now)))
        (state.finish index call)
  | operated {label : Label} {index : Nat} {operation : Operation} {writer : Option Writer}
      {phase : OperationPhase} (found : state.operations[index]? = some operation)
      (moves : OperationMove session state.db operation writer phase) :
      Move state label writer (state.setPhase index operation phase)
  | sent {index : Nat} {operation : Operation} {outcome : SendOutcome}
      (found : state.operations[index]? = some operation) (phase : operation.phase = .checking) :
      Move state (.send index outcome) none
        { state.setPhase index operation (sentPhase outcome) with
          sends := state.sends ++ [{ submissionId := operation.submissionId
                                     operationId := operation.operationId, outcome }] }
  | observed {event : Event} (outside : Event.outside event = true) :
      Move state (.event event) (some (.reduce event)) state
  | takenOver {now : ℚ} :
      Move state (.takeover now) (some (.takeover session.sdkSessionId now)) state
  | restarted {lost expired : List String} {now : ℚ} :
      Move state (.restart lost expired now) (some (.recover lost expired now)) { state with
        holder := none, calls := [], operations := state.operations.map interrupted
        failure := none }

def commitsAfter (commits : List Event) : Writer → List Event
  | .reduce event => commits ++ [event]
  | _ => commits

end Moves

section Inversion

variable {uuid5 : String → String} {session : Session} {state after : State} {label : Label}

theorem immediateRead_eq_some {db : Db} {submissionId : String} {item : QueueItem}
    (read : immediateRead db submissionId = some item) :
    ∃ row, db.submission submissionId = some row ∧ row.state = .localQueued ∧
      db.item submissionId = some item := by
  unfold immediateRead at read
  split at read
  next row other found queued =>
    split at read
    next passes =>
      cases read
      exact ⟨row, found, passes.2, queued⟩
    · cases read
  · cases read

theorem claimAnswer_claimed {db : Db} {operation : Operation}
    (answer : claimAnswer session operation db = .claimed) :
    ∃ row item, db.submission operation.submissionId = some row ∧ row.state = .submitting ∧
      row.sourceOperationId = some operation.operationId ∧
      db.item operation.submissionId = some item ∧ item.state = .submitting := by
  unfold claimAnswer at answer
  split at answer
  next row item found queued =>
    split at answer
    next claimed =>
      obtain ⟨stored, _⟩ := submissionOf_eq_some.mp found
      exact ⟨row, item, stored, claimed.1, claimed.2.2, queued, claimed.2.1⟩
    · split at answer <;> cases answer
  · cases answer

theorem reportOf_cases {call : Call} {late : Bool} {now : ℚ} {outcome : Outcome} {writer : Writer}
    (reported : reportOf session call late now outcome = some writer) :
    (∃ messageId, writer = .reduce (acceptedEvent session call.submissionId messageId now)) ∨
      writer = .reduce (rejectedEvent session call.submissionId now) ∨
      writer = .reduce (acceptanceUnknownEvent session call.submissionId now) ∨
      writer = .requeue session.sdkSessionId call.submissionId call.operationId
        call.dispatchAttempt := by
  cases outcome with
  | accepted messageId =>
    cases reported
    exact .inl ⟨messageId, rfl⟩
  | rejected =>
    cases reported
    exact .inr (.inl rfl)
  | unknown =>
    cases reported
    exact .inr (.inr (.inl rfl))
  | deferred =>
    cases late with
    | true =>
      cases reported
      exact .inr (.inl rfl)
    | false =>
      cases reported
      exact .inr (.inr (.inr rfl))
  | claimDeferred =>
    cases late with
    | true =>
      cases reported
      exact .inr (.inl rfl)
    | false => cases reported

variable {writer : Option Writer} {next : State}

theorem move_pick {decision : Decision}
    (planned : plan uuid5 session state (.pick decision) = some (writer, next)) :
    Move uuid5 session state (.pick decision) writer next := by
  simp only [plan] at planned
  split at planned
  · cases planned
  next turn =>
    rw [not_ne_iff] at turn
    split at planned
    · cases planned
      exact .left
    next item found =>
      cases planned
      cases decision with
      | leave => exact .left
      | dispatch => exact .dispatches turn found
      | block reason => exact .blocks turn found
      | unavailable => exact .misses turn found

theorem move_apply {now : ℚ}
    (planned : plan uuid5 session state (.apply now) = some (writer, next)) :
    Move uuid5 session state (.apply now) writer next := by
  simp only [plan, applyHolder] at planned
  split at planned
  next submissionId reason holds =>
    cases planned
    exact .blocked holds
  next submissionId holds =>
    cases planned
    exact .marked holds
  next submissionIds holds =>
    cases planned
    exact .cancelled holds
  next data holds =>
    cases planned
    exact .replaced holds
  · cases planned

theorem move_submit {index : Nat}
    (planned : plan uuid5 session state (.submit index) = some (writer, next)) :
    Move uuid5 session state (.submit index) writer next := by
  obtain ⟨call, found, rest⟩ := Option.bind_eq_some_iff.mp planned
  split at rest
  · cases rest
    unfold State.submit
    split
    · exact .joined found
    next new => exact .created found new
  · cases rest

theorem move_report {index : Nat} {now : ℚ}
    (planned : plan uuid5 session state (.report index now) = some (writer, next)) :
    Move uuid5 session state (.report index now) writer next := by
  obtain ⟨call, found, rest⟩ := Option.bind_eq_some_iff.mp planned
  split at rest
  next late outcome phase settled =>
    cases rest
    obtain ⟨operation, known, same⟩ := Option.map_eq_some_iff.mp settled
    exact .reported found phase known same
  · cases rest

theorem move_operation {index : Nat} {plans : Operation → Option (Option Writer × State)}
    (planned : operationStep index state plans = some (writer, next))
    (moves : ∀ operation, plans operation = some (writer, next) →
      ∃ phase, OperationMove session state.db operation writer phase ∧
        next = state.setPhase index operation phase) :
    Move uuid5 session state label writer next := by
  obtain ⟨operation, found, rest⟩ := Option.bind_eq_some_iff.mp planned
  obtain ⟨phase, move, rfl⟩ := moves operation rest
  exact .operated found move

theorem move_of_plan (planned : plan uuid5 session state label = some (writer, next)) :
    Move uuid5 session state label writer next := by
  cases label with
  | enqueue key data now =>
    simp only [plan] at planned
    split at planned
    · cases planned
    · cases planned
      exact .enqueued
  | immediate key =>
    simp only [plan] at planned
    split at planned
    · cases planned
    next free =>
      obtain ⟨item, read, same⟩ := Option.map_eq_some_iff.mp planned
      cases same
      obtain ⟨row, found, waiting, queued⟩ := immediateRead_eq_some read
      exact .admitted (by simpa using free) found waiting queued
  | pump =>
    simp only [plan] at planned
    split at planned
    · cases planned
    next free =>
      cases planned
      rw [not_or] at free
      exact .pumped (by simpa using free.1)
  | pick decision => exact move_pick planned
  | cancel target =>
    simp only [plan] at planned
    split at planned
    · cases planned
    next free =>
      cases planned
      rw [not_or] at free
      exact .cancels (by simpa using free.1)
  | update submissionId key promptHash requestedMode createdAt =>
    simp only [plan] at planned
    split at planned
    · cases planned
    next free =>
      cases planned
      rw [not_or] at free
      exact .replaces (by simpa using free.1)
        (.inl ⟨key, promptHash, requestedMode, createdAt, rfl⟩) (.inl rfl) (by simpa using free.2)
  | resubmit submissionId key promptHash requestedMode createdAt =>
    simp only [plan] at planned
    split at planned
    · cases planned
    next free =>
      rw [not_or] at free
      cases promptHash with
      | none =>
        cases planned
        exact .forgot (by simpa using free.1) (by simpa using free.2)
      | some promptHash =>
        cases planned
        exact .replaces (by simpa using free.1)
          (.inr ⟨key, promptHash, requestedMode, createdAt, rfl⟩) (.inr rfl)
          (by simpa using free.2)
  | apply now => exact move_apply planned
  | submit index => exact move_submit planned
  | withdraw index =>
    obtain ⟨call, found, rest⟩ := Option.bind_eq_some_iff.mp planned
    split at rest
    · cases rest
      exact .withdrawn found
    · cases rest
  | report index now => exact move_report planned
  | doubt index now =>
    obtain ⟨call, found, rest⟩ := Option.bind_eq_some_iff.mp planned
    cases rest
    exact .doubted found
  | fence index settles =>
    refine move_operation planned ?_
    intro operation rest
    split at rest
    next pending =>
      cases rest
      exact ⟨_, .fenced settles pending, rfl⟩
    · cases rest
  | claim index ready now =>
    refine move_operation planned ?_
    intro operation rest
    split at rest
    next pending =>
      cases rest
      exact ⟨_, .claims ready now pending, rfl⟩
    · cases rest
  | readBack index =>
    refine move_operation planned ?_
    intro operation rest
    split at rest
    next reading =>
      cases rest
      refine ⟨_, ?_, rfl⟩
      split
      next answer => exact .won reading answer
      · exact .lost _ reading (.inl rfl)
      · exact .lost _ reading (.inr rfl)
    · cases rest
  | unready index owner =>
    refine move_operation planned ?_
    intro operation rest
    split at rest
    next checking =>
      split at rest
      · cases rest
        exact ⟨_, .defers checking, rfl⟩
      · cases rest
        refine ⟨_, .requeues _ checking ?_, rfl⟩
        split
        · exact .inl rfl
        · exact .inr rfl
    · cases rest
  | postpone index now =>
    refine move_operation planned ?_
    intro operation rest
    split at rest
    next deferring =>
      cases rest
      exact ⟨_, .postpones now deferring, rfl⟩
    · cases rest
  | oversize index =>
    refine move_operation planned ?_
    intro operation rest
    split at rest
    next checking =>
      cases rest
      exact ⟨_, .oversize checking, rfl⟩
    · cases rest
  | send index outcome =>
    obtain ⟨operation, found, rest⟩ := Option.bind_eq_some_iff.mp planned
    split at rest
    next checking =>
      cases rest
      cases outcome <;> exact .sent found checking
    · cases rest
  | accept index confirmed now =>
    refine move_operation planned ?_
    intro operation rest
    split at rest
    next messageId accepting =>
      cases rest
      exact ⟨_, .accepts messageId confirmed now accepting, rfl⟩
    · cases rest
  | interrupt index =>
    refine move_operation planned ?_
    intro operation rest
    split at rest
    · cases rest
    next unsettled =>
      cases rest
      exact ⟨_, .interrupted unsettled, rfl⟩
  | event event =>
    simp only [plan] at planned
    split at planned
    next outside =>
      cases planned
      exact .observed outside
    · cases planned
  | takeover now =>
    cases planned
    exact .takenOver
  | restart lost expired now =>
    cases planned
    exact .restarted

theorem Move.db (move : Move uuid5 session state label writer next) : next.db = state.db := by
  cases move <;> rfl

theorem Move.commits
    (move : Move uuid5 session state label writer next) : next.commits = state.commits := by
  cases move <;> rfl

/-- What a step does with its plan: it changes what is beside the tables, or a transaction goes
through with it, or an event stops the reducer. -/
theorem step_planned (taken : step uuid5 session state label = some after) :
    ∃ writer next, plan uuid5 session state label = some (writer, next) ∧
      (writer = none ∧ after = next ∨
        (∃ transaction db, writer = some transaction ∧
          write uuid5 state.db transaction = some db ∧
          after = { next with db, commits := commitsAfter state.commits transaction }) ∨
        ∃ event failure, writer = some (.reduce event) ∧
          persist uuid5 event state.db = .error failure ∧
          after = { state with failure := some failure }) := by
  obtain ⟨⟨writer, next⟩, planned, done⟩ := Option.bind_eq_some_iff.mp taken
  have move := move_of_plan planned
  refine ⟨writer, next, planned, ?_⟩
  cases writer with
  | none =>
    cases done
    exact .inl ⟨rfl, rfl⟩
  | some transaction =>
    have same := move.commits
    right
    cases transaction with
    | reduce event =>
      simp only [perform] at done
      split at done
      · cases done
      · split at done
        next db persisted =>
          cases done
          refine .inl ⟨_, db, rfl, ?_, rfl⟩
          simp [write, persisted, Except.toOption]
        next failure stopped =>
          cases done
          exact .inr ⟨event, failure, rfl, stopped, rfl⟩
    | contentUnavailable submissionId now =>
      cases done
      exact .inl ⟨_, _, rfl, rfl, by simp [commitsAfter, ← same]⟩
    | requeue sdkSessionId submissionId operationId dispatchAttempt =>
      cases done
      exact .inl ⟨_, _, rfl, rfl, by simp [commitsAfter, ← same]⟩
    | recover lost expired now =>
      cases done
      exact .inl ⟨_, _, rfl, rfl, by simp [commitsAfter, ← same]⟩
    | takeover sdkSessionId now =>
      cases done
      exact .inl ⟨_, _, rfl, rfl, by simp [commitsAfter, ← same]⟩

theorem step_cases (taken : step uuid5 session state label = some after) :
    ∃ writer next, Move uuid5 session state label writer next ∧
      (writer = none ∧ after = next ∨
        (∃ transaction db, writer = some transaction ∧
          write uuid5 state.db transaction = some db ∧
          after = { next with db, commits := commitsAfter state.commits transaction }) ∨
        ∃ event failure, writer = some (.reduce event) ∧
          persist uuid5 event state.db = .error failure ∧
          after = { state with failure := some failure }) := by
  obtain ⟨writer, next, planned, done⟩ := step_planned taken
  exact ⟨writer, next, move_of_plan planned, done⟩

end Inversion

end Copilotd.Source.Core.QueueRuntime
