import Copilotd.Source.Core.QueueMoves

/-!
# One dispatch of a submission

An operation sends only after its claim is in force: the submission has left `local_queued`
and names the operation as its source.  Nothing takes a claim back but the operation itself,
before it sends.  So a sent submission names the operation that sent it for good, and no other
operation ever wins its claim.

The loser of the claim reports a rejection, and the handler of `copilotd.submission.rejected`
does not ask whose claim is in force.
-/
namespace Copilotd.Guarantees.DispatchOnce

open Base Source.Core.Submissions Source.Core.QueueRuntime
open Source.Storage (SubmissionState)

variable {uuid5 : String → String} {session : Session}

/-! ## Claims in the tables -/

def Claimed (db : Db) (submissionId operationId : String) : Prop :=
  ∃ row, db.submission submissionId = some row ∧ row.state ≠ .localQueued ∧
    row.sourceOperationId = some operationId

variable {operationId : String}

variable {db : Db} {submissionId : String}

theorem Claimed.unique {other : String}
    (claimed : Claimed db submissionId operationId) (also : Claimed db submissionId other) :
    operationId = other := by
  obtain ⟨row, found, _, source⟩ := claimed
  obtain ⟨again, foundToo, _, sourceToo⟩ := also
  rw [found] at foundToo
  cases foundToo
  rw [source] at sourceToo
  exact Option.some.inj sourceToo

/-- The transactions that hand a claimed item back. -/
def Releases (writer : Option Writer) (submissionId operationId : String) : Prop :=
  (∃ event, writer = some (.reduce event) ∧ event.body = .preSendDeferred submissionId) ∨
    ∃ sdkSessionId dispatchAttempt,
      writer = some (.requeue sdkSessionId submissionId operationId dispatchAttempt)

variable {writer : Writer}

theorem Change.claimed {id : String} {view result : View}
    (change : Change db id writer view result) (kept : ¬ Releases (some writer) id operationId)
    (before : ∃ row, view.row = some row ∧ row.state ≠ .localQueued ∧
      row.sourceOperationId = some operationId) :
    ∃ row, result.row = some row ∧ row.state ≠ .localQueued ∧
      row.sourceOperationId = some operationId := by
  obtain ⟨row, found, left, source⟩ := before
  cases change with
  | kept | postponed | blocked | noticed => exact ⟨row, found, left, source⟩
  | inserted body new queued => exact ⟨row, by simp [found], left, source⟩
  | retired | forgotten =>
    cases found
    exact ⟨_, rfl, by simp, source⟩
  | claimed body target session waiting queued =>
    cases found
    exact absurd waiting left
  | cancelled | contentLost =>
    simp only [found, Option.map_some, if_neg left]
    exact ⟨row, rfl, left, source⟩
  | deferred body => exact absurd (.inl ⟨_, rfl, body⟩) kept
  | @requeued _ requeuer _ _ _ attempt unevidenced own =>
    cases found
    have mine : row.sourceOperationId = some requeuer := by
      have matched := own
      unfold requeueMatches at matched
      rw [if_neg (fun both => left both.1)] at matched
      exact (of_decide_eq_true matched).2
    rw [source] at mine
    cases mine
    exact absurd (.inr ⟨_, _, rfl⟩) kept
  | accepted =>
    cases found
    refine ⟨_, rfl, (left_waiting (acceptance_left _ _ _)).1, ?_⟩
    split
    · exact source
    · exact source
  | corrected =>
    cases found
    refine ⟨_, rfl, ?_, source⟩
    simp [recordAcceptance, clearObservation]
  | copied => cases found
  | doubted =>
    simp only [found, Option.map_some]
    refine ⟨_, rfl, ?_, ?_⟩
    · split
      · simp
      · exact left
    · split
      · exact source
      · exact source
  | refused =>
    cases found
    exact ⟨_, rfl, left, source⟩
  | rejected body session unaccepted unsettled same state =>
    cases found
    exact ⟨_, rfl, by simp [state], same.source.trans source⟩
  | observed body same state =>
    cases found
    exact ⟨_, rfl, by simp [state], same.source.trans source⟩
  | created => cases found
  | idled body running same evidence state =>
    cases found
    refine ⟨_, rfl, ?_, same.source.trans source⟩
    rw [state]
    exact (left_waiting (idleState_not_waiting _ _)).1
  | orphaned body session unobserved created sent same evidence state =>
    cases found
    exact ⟨_, rfl, by simp [state], same.source.trans source⟩
  | tasked body same evidence state =>
    cases found
    refine ⟨_, rfl, ?_, same.source.trans source⟩
    rcases state with state | state
    · rw [state]
      exact left
    · simp [state]
  | settled body settles same evidence =>
    cases found
    refine ⟨_, rfl, ?_, same.source.trans source⟩
    rcases (settles_states settles).2 with state | state
    · simp [state]
    · simp [state]
  | reopened body complete same evidence state =>
    cases found
    exact ⟨_, rfl, by simp [state], same.source.trans source⟩
  | recovered gone means =>
    simp only [found, Option.map_some]
    rw [if_neg (fun both => left both.2)]
    refine ⟨_, rfl, ?_, ?_⟩
    · split
      · exact (left_waiting (lostState_not_waiting row.state)).1
      · exact left
    · split
      · exact source
      · exact source
  | takenOver =>
    simp only [found, Option.map_some]
    refine ⟨_, rfl, ?_, ?_⟩
    · split
      · exact (left_waiting (lostState_not_waiting row.state)).1
      · exact left
    · split
      · exact source
      · exact source

/-- Every other transaction leaves a claim in force. -/
theorem Claimed.write {after : Db}
    (claimed : Claimed db submissionId operationId) (done : write uuid5 db writer = some after)
    (kept : ¬ Releases (some writer) submissionId operationId) :
    Claimed after submissionId operationId :=
  Change.claimed (change_of_write submissionId done) kept claimed

/-! ## Operations and sends -/

/-- The operation won its claim and has not settled. -/
def live : OperationPhase → Bool
  | .checking | .deferring | .accepting _ => true
  | _ => false

/-- The operation did not call `bridge.send`. -/
def unsent : OperationPhase → Bool
  | .pending | .reading | .checking | .deferring | .settled .deferred
  | .settled .claimDeferred => true
  | _ => false

/-- Some operation or send builds on this claim. -/
def Builds (operations : List Operation) (sends : List Send)
    (submissionId operationId : String) : Prop :=
  (∃ operation ∈ operations, live operation.phase = true ∧
      operation.submissionId = submissionId ∧ operation.operationId = operationId) ∨
    ∃ send ∈ sends, send.submissionId = submissionId ∧ send.operationId = operationId

/-- What the operations and the sends have to do with the tables. -/
structure Ledger (db : Db) (operations : List Operation) (sends : List Send) : Prop where
  distinct : (operations.map (·.operationId)).Nodup
  claimed : ∀ submissionId operationId, Builds operations sends submissionId operationId →
    Claimed db submissionId operationId
  fresh : ∀ operation ∈ operations, unsent operation.phase = true →
    ∀ send ∈ sends, send.operationId ≠ operation.operationId
  known : ∀ send ∈ sends, ∃ operation ∈ operations, operation.operationId = send.operationId
  refused : ∀ operation ∈ operations, operation.phase = .settled .rejected →
    ∀ send ∈ sends, send.operationId = operation.operationId → send.outcome = .rejected
  once : (sends.map (·.submissionId)).Nodup

theorem ledger_empty : Ledger {} [] [] := by
  constructor <;> simp [Builds]

variable {outcome : Outcome}

section Ledger

variable {db after : Db} {operations : List Operation} {sends : List Send} {index : Nat}
  {operation : Operation}

section

variable (ledger : Ledger db operations sends)
include ledger

theorem Ledger.write (done : write uuid5 db writer = some after)
    (kept : ∀ submissionId operationId, Builds operations sends submissionId operationId →
      ¬ Releases (some writer) submissionId operationId) : Ledger after operations sends := by
  refine ⟨ledger.distinct, ?_, ledger.fresh, ledger.known, ledger.refused, ledger.once⟩
  intro submissionId operationId builds
  exact (ledger.claimed _ _ builds).write done (kept _ _ builds)

theorem Ledger.unique {other : Operation}
    (member : operation ∈ operations) (also : other ∈ operations)
    (same : other.operationId = operation.operationId) : other = operation := by
  have found := Table.lookup_of_mem ledger.distinct member
  have foundToo := Table.lookup_of_mem ledger.distinct also
  rw [same, found] at foundToo
  exact (Option.some.inj foundToo).symm

theorem Ledger.setPhase {phase : OperationPhase} (found : operations[index]? = some operation)
    (claims : live phase = true → Claimed db operation.submissionId operation.operationId)
    (forward : unsent phase = true → unsent operation.phase = true)
    (refuses : phase = .settled .rejected → unsent operation.phase = true) :
    Ledger db (operations.set index { operation with phase }) sends := by
  have member := Pool.mem_of_getElem? found
  constructor
  · have keys : (operations.set index { operation with phase }).map (·.operationId) =
        operations.map (·.operationId) := Pool.map_set found rfl
    rw [keys]
    exact ledger.distinct
  · rintro submissionId operationId (⟨other, inside, active, rfl, rfl⟩ | sent)
    · rcases Pool.mem_set_cases found inside with rfl | old
      · exact claims active
      · exact ledger.claimed _ _
          (.inl ⟨other, Pool.mem_of_mem_eraseIdx old, active, rfl, rfl⟩)
    · exact ledger.claimed _ _ (.inr sent)
  · apply Pool.forall_set found ledger.fresh
    intro quiet
    exact ledger.fresh operation member (forward quiet)
  · intro send sent
    obtain ⟨other, inside, same⟩ := ledger.known send sent
    rcases Pool.mem_cases found inside with rfl | old
    · exact ⟨_, Pool.mem_set_self found _, same⟩
    · exact ⟨other, Pool.mem_set_other found _ old, same⟩
  · apply Pool.forall_set found ledger.refused
    intro settled send sent same
    exact absurd same (ledger.fresh operation member (refuses settled) send sent)
  · exact ledger.once

theorem Ledger.released (found : operations[index]? = some operation)
    (quiet : unsent operation.phase = true) :
    ¬ Builds (operations.set index { operation with phase := .settled outcome }) sends
      submissionId operation.operationId := by
  rintro (⟨other, inside, active, _, same⟩ | ⟨send, sent, _, same⟩)
  · rcases Pool.mem_set_cases found inside with rfl | old
    · cases active
    · exact Pool.key_ne ledger.distinct found old same
  · exact ledger.fresh operation (Pool.mem_of_getElem? found) quiet send sent same

end

theorem Ledger.sent (ledger : Ledger db operations sends)
    (found : operations[index]? = some operation) (checking : operation.phase = .checking)
    (outcome : SendOutcome) :
    Ledger db (operations.set index { operation with phase := sentPhase outcome })
      (sends ++ [{ submissionId := operation.submissionId
                   operationId := operation.operationId, outcome }]) := by
  have member := Pool.mem_of_getElem? found
  have holds : Claimed db operation.submissionId operation.operationId :=
    ledger.claimed _ _ (.inl ⟨operation, member, by rw [checking, live], rfl, rfl⟩)
  have quiet : unsent operation.phase = true := by rw [checking, unsent]
  have moved : Ledger db (operations.set index { operation with phase := sentPhase outcome })
      sends := by
    refine ledger.setPhase found (fun _ => holds) ?_ (fun _ => quiet)
    intro _
    exact quiet
  have untouched : ∀ other ∈ operations.set index { operation with phase := sentPhase outcome },
      other.operationId = operation.operationId → other.phase = sentPhase outcome := by
    intro other inside same
    rcases Pool.mem_set_cases found inside with rfl | old
    · rfl
    · exact absurd same (Pool.key_ne ledger.distinct found old)
  constructor
  · exact moved.distinct
  · rintro submissionId operationId (active | ⟨send, sent, rfl, rfl⟩)
    · exact moved.claimed _ _ (.inl active)
    · rcases List.mem_append.mp sent with old | new
      · exact moved.claimed _ _ (.inr ⟨send, old, rfl, rfl⟩)
      · rw [List.mem_singleton.mp new]
        exact holds
  · intro other inside still send sent same
    rcases List.mem_append.mp sent with old | new
    · exact moved.fresh other inside still send old same
    · rw [List.mem_singleton.mp new] at same
      rw [untouched other inside same.symm] at still
      cases outcome <;> cases still
  · exact Pool.forall_push moved.known ⟨_, Pool.mem_set_self found _, rfl⟩
  · intro other inside settled send sent same
    rcases List.mem_append.mp sent with old | new
    · exact moved.refused other inside settled send old same
    · rw [List.mem_singleton.mp new] at same ⊢
      rw [untouched other inside same.symm] at settled
      cases outcome with
      | rejected => rfl
      | accepted messageId => cases settled
      | unknown => cases settled
  · rw [List.map_append, List.nodup_append]
    refine ⟨ledger.once, by simp, ?_⟩
    intro first old second new same
    obtain ⟨send, sent, rfl⟩ := List.mem_map.mp old
    rw [List.map_singleton, List.mem_singleton] at new
    have before := ledger.claimed _ _ (.inr ⟨send, sent, same.trans new, rfl⟩)
    exact ledger.fresh operation member quiet send sent (before.unique holds)

theorem Ledger.created (ledger : Ledger db operations sends)
    (pending : operation.phase = .pending)
    (new : ∀ other ∈ operations, other.operationId ≠ operation.operationId) :
    Ledger db (operations ++ [operation]) sends := by
  constructor
  · exact Table.nodup_insert ledger.distinct new
  · rintro submissionId operationId (⟨other, inside, active, rfl, rfl⟩ | sent)
    · rcases List.mem_append.mp inside with old | last
      · exact ledger.claimed _ _ (.inl ⟨other, old, active, rfl, rfl⟩)
      · rw [List.mem_singleton.mp last, pending] at active
        cases active
    · exact ledger.claimed _ _ (.inr sent)
  · intro other inside quiet send sent same
    rcases List.mem_append.mp inside with old | last
    · exact ledger.fresh other old quiet send sent same
    · obtain ⟨sender, known, its⟩ := ledger.known send sent
      refine new sender known ?_
      rw [its, same, List.mem_singleton.mp last]
  · intro send sent
    obtain ⟨sender, known, its⟩ := ledger.known send sent
    exact ⟨sender, List.mem_append_left _ known, its⟩
  · intro other inside settled
    rcases List.mem_append.mp inside with old | last
    · exact ledger.refused other old settled
    · rw [List.mem_singleton.mp last, pending] at settled
      cases settled
  · exact ledger.once

theorem interrupted_id (operation : Operation) :
    (interrupted operation).operationId = operation.operationId := by
  unfold interrupted
  split <;> rfl

theorem interrupted_settled (other : outcome ≠ .unknown)
    (settled : (interrupted operation).phase = .settled outcome) :
    operation.phase = .settled outcome := by
  unfold interrupted at settled
  split at settled
  · exact settled
  · cases settled
    exact absurd rfl other

theorem interrupted_not_live : live (interrupted operation).phase = false := by
  unfold interrupted
  split
  next outcome settled =>
    rw [settled]
    rfl
  · rfl

theorem interrupted_unsent (quiet : unsent (interrupted operation).phase = true) :
    unsent operation.phase = true := by
  unfold interrupted at quiet
  split at quiet
  · exact quiet
  · cases quiet

theorem Ledger.restarted (ledger : Ledger db operations sends) :
    Ledger db (operations.map interrupted) sends := by
  constructor
  · rw [List.map_map]
    have same : (fun operation : Operation => operation.operationId) ∘ interrupted =
        fun operation => operation.operationId := funext interrupted_id
    rw [same]
    exact ledger.distinct
  · rintro submissionId operationId (⟨other, inside, active, _, _⟩ | sent)
    · obtain ⟨old, _, rfl⟩ := List.mem_map.mp inside
      rw [interrupted_not_live] at active
      cases active
    · exact ledger.claimed _ _ (.inr sent)
  · intro other inside quiet
    obtain ⟨old, member, rfl⟩ := List.mem_map.mp inside
    rw [interrupted_id]
    exact ledger.fresh old member (interrupted_unsent quiet)
  · intro send sent
    obtain ⟨sender, known, its⟩ := ledger.known send sent
    exact ⟨interrupted sender, List.mem_map_of_mem known, (interrupted_id sender).trans its⟩
  · intro other inside settled
    obtain ⟨old, member, rfl⟩ := List.mem_map.mp inside
    rw [interrupted_id]
    exact ledger.refused old member (interrupted_settled (by simp) settled)
  · exact ledger.once

end Ledger

/-! ## Every step keeps the ledger -/

variable {event : Event}

theorem not_releases_event (other : ∀ target, event.body ≠ .preSendDeferred target) :
    ¬ Releases (some (.reduce event)) submissionId operationId := by
  rintro (⟨same, written, body⟩ | ⟨_, _, written⟩)
  · cases written
    exact other submissionId body
  · cases written

theorem not_releases_none :
    ¬ Releases none submissionId operationId := by
  rintro (⟨_, written, _⟩ | ⟨_, _, written⟩)
  · cases written
  · cases written

theorem outside_not_deferred (outside : Event.outside event = true)
    (target : String) : event.body ≠ .preSendDeferred target := by
  intro body
  simp [Event.outside, body] at outside

variable {operation : Operation}

section Steps

variable {state after : State} {label : Label}

theorem operation_of_call (known : state.operation operationId = some operation) :
    operation ∈ state.operations ∧ operation.operationId = operationId :=
  ⟨List.mem_of_find?_eq_some known, by simpa using List.find?_some known⟩

section

variable (ledger : Ledger state.db state.operations state.sends)
include ledger

theorem Ledger.idle (member : operation ∈ state.operations) (quiet : unsent operation.phase = true)
    (still : live operation.phase = false) :
    ¬ Builds state.operations state.sends submissionId operation.operationId := by
  rintro (⟨other, inside, active, _, same⟩ | ⟨send, sent, _, same⟩)
  · rw [ledger.unique member inside same, still] at active
    cases active
  · exact ledger.fresh operation member quiet send sent same

theorem ledger_operation {index : Nat} {writer : Option Writer}
    {phase : OperationPhase} (found : state.operations[index]? = some operation)
    (moves : OperationMove session state.db operation writer phase) :
    Ledger state.db (state.operations.set index { operation with phase }) state.sends ∧
      ∀ submissionId operationId,
        Builds (state.operations.set index { operation with phase }) state.sends submissionId
          operationId → ¬ Releases writer submissionId operationId := by
  have member := Pool.mem_of_getElem? found
  cases moves with
  | fenced settles pending =>
    have quiet : unsent operation.phase = true := by rw [pending, unsent]
    refine ⟨ledger.setPhase found (by simp [live]) (fun _ => quiet) (fun _ => quiet), ?_⟩
    rintro submissionId operationId builds (⟨_, written, _⟩ | ⟨_, _, written⟩)
    · cases written
    · cases written
      exact ledger.released found quiet builds
  | claims ready now pending =>
    have quiet : unsent operation.phase = true := by rw [pending, unsent]
    refine ⟨ledger.setPhase found (by simp [live]) (fun _ => quiet) (fun _ => quiet), ?_⟩
    intro submissionId operationId _
    exact not_releases_event (by simp [submittingEvent, internal])
  | won reading answer =>
    have quiet : unsent operation.phase = true := by rw [reading, unsent]
    refine ⟨ledger.setPhase found ?_ (fun _ => quiet) (fun _ => quiet),
      fun _ _ _ => not_releases_none⟩
    intro _
    obtain ⟨row, _, stored, sending, source, _⟩ := claimAnswer_claimed answer
    exact ⟨row, stored, by simp [sending], source⟩
  | lost outcome reading settles =>
    have quiet : unsent operation.phase = true := by rw [reading, unsent]
    exact ⟨ledger.setPhase found (by simp [live]) (fun _ => quiet) (fun _ => quiet),
      fun _ _ _ => not_releases_none⟩
  | defers checking =>
    have quiet : unsent operation.phase = true := by rw [checking, unsent]
    have holds : Claimed state.db operation.submissionId operation.operationId :=
      ledger.claimed _ _ (.inl ⟨operation, member, by rw [checking, live], rfl, rfl⟩)
    exact ⟨ledger.setPhase found (fun _ => holds) (fun _ => quiet) (fun _ => quiet),
      fun _ _ _ => not_releases_none⟩
  | requeues outcome checking settles =>
    have quiet : unsent operation.phase = true := by rw [checking, unsent]
    refine ⟨ledger.setPhase found (by simp [live]) (fun _ => quiet) (fun _ => quiet), ?_⟩
    rintro submissionId operationId builds (⟨_, written, _⟩ | ⟨_, _, written⟩)
    · cases written
    · cases written
      exact ledger.released found quiet builds
  | postpones now deferring =>
    have quiet : unsent operation.phase = true := by rw [deferring, unsent]
    have holds : Claimed state.db operation.submissionId operation.operationId :=
      ledger.claimed _ _ (.inl ⟨operation, member, by rw [deferring, live], rfl, rfl⟩)
    have moved : Ledger state.db (state.operations.set index
        { operation with phase := .settled .claimDeferred }) state.sends :=
      ledger.setPhase found (by simp [live]) (fun _ => quiet) (fun _ => quiet)
    refine ⟨moved, ?_⟩
    -- whatever builds on a claim of this item builds on the claim of this operation
    rintro submissionId operationId builds (⟨_, written, body⟩ | ⟨_, _, written⟩)
    · cases written
      cases body
      have mine := (moved.claimed _ _ builds).unique holds
      subst mine
      exact ledger.released found quiet builds
    · cases written
  | oversize checking =>
    have quiet : unsent operation.phase = true := by rw [checking, unsent]
    exact ⟨ledger.setPhase found (by simp [live]) (fun _ => quiet) (fun _ => quiet),
      fun _ _ _ => not_releases_none⟩
  | accepts messageId confirmed now accepting =>
    refine ⟨ledger.setPhase found (by simp [live]) ?_ ?_, ?_⟩
    · cases confirmed <;> simp [unsent]
    · cases confirmed <;> simp
    · intro submissionId operationId _
      exact not_releases_event (by simp [acceptedEvent, internal])
  | interrupted unsettled =>
    exact ⟨ledger.setPhase found (by simp [live]) (by simp [unsent]) (by simp),
      fun _ _ _ => not_releases_none⟩

theorem ledger_move {writer : Option Writer} {next : State}
    (move : Move uuid5 session state label writer next) :
    Ledger state.db next.operations next.sends ∧
      ∀ submissionId operationId,
        Builds next.operations next.sends submissionId operationId →
          ¬ Releases writer submissionId operationId := by
  cases move with
  | enqueued =>
    refine ⟨ledger, ?_⟩
    intro submissionId operationId _
    exact not_releases_event (by simp [queuedEvent, internal])
  | admitted | pumped | left | blocks | misses | dispatches | cancels | replaces | forgot
  | joined | withdrawn => exact ⟨ledger, fun _ _ _ => not_releases_none⟩
  | blocked =>
    refine ⟨ledger, ?_⟩
    intro submissionId operationId _
    exact not_releases_event (by simp [blockedEvent, internal])
  | marked | takenOver =>
    refine ⟨ledger, ?_⟩
    rintro submissionId operationId _ (⟨_, written, _⟩ | ⟨_, _, written⟩)
    · cases written
    · cases written
  | cancelled =>
    refine ⟨ledger, ?_⟩
    intro submissionId operationId _
    exact not_releases_event (by simp [cancelEvent, internal])
  | replaced =>
    refine ⟨ledger, ?_⟩
    intro submissionId operationId _
    exact not_releases_event (by simp [replacedEvent, internal])
  | created found new =>
    refine ⟨ledger.created rfl ?_, fun _ _ _ => not_releases_none⟩
    intro other member same
    have absent := List.find?_eq_none.mp new other member
    simp [same] at absent
  | @reported _ now call late operation outcome found phase known settled =>
    refine ⟨ledger, ?_⟩
    obtain ⟨member, mine⟩ := operation_of_call known
    intro submissionId operationId builds
    cases outcome with
    | accepted messageId => exact not_releases_event (by simp [acceptedEvent, internal])
    | rejected => exact not_releases_event (by simp [rejectedEvent, internal])
    | unknown => exact not_releases_event (by simp [acceptanceUnknownEvent, internal])
    | deferred =>
      have quiet : unsent operation.phase = true := by rw [settled, unsent]
      have still : live operation.phase = false := by
        rw [settled]
        rfl
      cases late with
      | true => exact not_releases_event (by simp [rejectedEvent, internal])
      | false =>
        rintro (⟨_, written, _⟩ | ⟨_, _, written⟩)
        · cases written
        · cases written
          rw [← mine] at builds
          exact ledger.idle member quiet still builds
    | claimDeferred =>
      cases late with
      | true => exact not_releases_event (by simp [rejectedEvent, internal])
      | false => exact not_releases_none
  | doubted =>
    refine ⟨ledger, ?_⟩
    intro submissionId operationId _
    exact not_releases_event (by simp [acceptanceUnknownEvent, internal])
  | operated found moves => exact ledger_operation ledger found moves
  | sent found checking => exact ⟨ledger.sent found checking _, fun _ _ _ => not_releases_none⟩
  | observed outside =>
    refine ⟨ledger, ?_⟩
    intro submissionId operationId _
    exact not_releases_event (outside_not_deferred outside)
  | restarted =>
    refine ⟨ledger.restarted, ?_⟩
    rintro submissionId operationId _ (⟨_, written, _⟩ | ⟨_, _, written⟩)
    · cases written
    · cases written

theorem ledger_step (taken : step uuid5 session state label = some after) :
    Ledger after.db after.operations after.sends := by
  obtain ⟨writer, next, move, result⟩ := step_cases taken
  obtain ⟨moved, kept⟩ := ledger_move ledger move
  obtain ⟨_, same⟩ | ⟨transaction, db, written, done, rfl⟩ | ⟨_, _, _, _, rfl⟩ := result
  · rw [same, move.db]
    exact moved
  · rw [written] at kept
    exact moved.write done kept
  · exact ledger

end

theorem ledger_run {labels : List Label} (reached : Run.run (step uuid5 session) {} labels =
    some state) : Ledger state.db state.operations state.sends :=
  Run.run_inv (fun _ _ _ ledger taken => ledger_step ledger taken) ledger_empty reached

end Steps

/-! ## Rejections -/

/-- A rejected submission was not sent or was rejected by the SDK, and no operation is about
to send it. -/
structure Truthful (submissionId : String) (operations : List Operation) (sends : List Send) :
    Prop where
  refused : ∀ send ∈ sends, send.submissionId = submissionId → send.outcome = .rejected
  idle : ∀ operation ∈ operations, operation.submissionId = submissionId →
    operation.phase ≠ .checking

def RejectedTruthfully (db : Db) (operations : List Operation) (sends : List Send) : Prop :=
  ∀ submissionId row, db.submission submissionId = some row → row.state = .rejected →
    Truthful submissionId operations sends

theorem Change.rejects {id : String} {view result : View}
    (change : Change db id writer view result) {row : Submission}
    (after : result.row = some row) (state : row.state = .rejected) :
    view.row = none ∨ ∃ old, view.row = some old ∧ (old.state = .rejected ∨
      old.state = .localQueued ∨ old.acceptedMessageId = none ∧
        ∃ event, writer = .reduce event ∧ event.body = .rejected id) := by
  cases change with
  | kept | postponed | blocked | refused | noticed => exact .inr ⟨row, after, .inl state⟩
  | inserted body new queued =>
    rcases Option.or_eq_some_iff.mp after with old | ⟨none, _⟩
    · exact .inr ⟨row, old, .inl state⟩
    · exact .inl none
  | retired | claimed | deferred | requeued | forgotten =>
    cases after
    cases state
  | cancelled | doubted =>
    obtain ⟨old, found, rfl⟩ := Option.map_eq_some_iff.mp after
    refine .inr ⟨old, found, .inl ?_⟩
    split at state
    · cases state
    · exact state
  | accepted =>
    cases after
    refine .inr ⟨_, rfl, .inl ?_⟩
    split at state
    · simp only [recordAcceptance] at state
      split at state
      · cases state
      · exact state
    · exact state
  | corrected =>
    cases after
    simp [recordAcceptance, clearObservation] at state
  | copied | created => exact .inl rfl
  | rejected body session unaccepted =>
    exact .inr ⟨_, rfl, .inr (.inr ⟨unaccepted, _, rfl, body⟩)⟩
  | observed body same active =>
    cases after
    rw [active] at state
    cases state
  | idled body running same evidence idle =>
    cases after
    rw [idle] at state
    unfold idleState at state
    split at state
    · cases state
    · split at state
      · cases state
      · split at state <;> cases state
  | orphaned body session unobserved created sent same evidence unknown =>
    cases after
    rw [unknown] at state
    cases state
  | tasked body same evidence next =>
    cases after
    refine .inr ⟨_, rfl, .inl ?_⟩
    rcases next with next | next
    · rw [← next, state]
    · rw [next] at state
      cases state
  | settled body settles same evidence =>
    cases after
    rcases (settles_states settles).2 with next | next
    · rw [next] at state
      cases state
    · rw [next] at state
      cases state
  | reopened body complete same evidence next =>
    cases after
    rw [next] at state
    cases state
  | contentLost =>
    obtain ⟨old, found, rfl⟩ := Option.map_eq_some_iff.mp after
    refine .inr ⟨old, found, ?_⟩
    split at state
    next waiting => exact .inr (.inl waiting)
    · exact .inl state
  | recovered gone means =>
    obtain ⟨old, found, rfl⟩ := Option.map_eq_some_iff.mp after
    refine .inr ⟨old, found, ?_⟩
    split at state
    next lost => exact .inr (.inl lost.2)
    · split at state
      · simp only [loseOwner, lostState] at state
        split at state <;> cases state
      · exact .inl state
  | takenOver =>
    obtain ⟨old, found, rfl⟩ := Option.map_eq_some_iff.mp after
    refine .inr ⟨old, found, .inl ?_⟩
    split at state
    · simp only [loseOwner, lostState] at state
      split at state <;> cases state
    · exact state

/-- The call reports a rejection of its operation. -/
def refusal (call : Call) (operation : Operation) : Bool :=
  match call.phase, operation.phase with
  | .waiting _, .settled .rejected => true
  | .waiting true, .settled .deferred => true
  | .waiting true, .settled .claimDeferred => true
  | _, _ => false

/-- A rejection that is reported is settled already or a repeated one, or the acceptance is
recorded, or no other operation has the claim. -/
def Rightful (session : Session) (state : State) : Label → Prop
  | .report index now => ∀ call ∈ state.calls[index]?,
    ∀ operation ∈ state.operation call.operationId, refusal call operation = true →
    journaled state.db (rejectedEvent session call.submissionId now) = true ∨
      ∀ row ∈ state.db.submission call.submissionId, row.state = .rejected ∨
        row.acceptedMessageId.isSome ∨ row.sourceOperationId = none ∨
        row.sourceOperationId = some call.operationId
  | _ => True

instance (session : Session) (state : State) (label : Label) :
    Decidable (Rightful session state label) := by
  unfold Rightful
  split <;> infer_instance

section Rejections

variable {db : Db} {operations : List Operation} {sends : List Send} {state after : State}
  {label : Label} {submissionId : String}

/-- Without a claim in force nothing was sent and nothing is about to be. -/
theorem truthful_of_unclaimed (ledger : Ledger db operations sends)
    (unclaimed : ∀ operationId, ¬ Claimed db submissionId operationId) :
    Truthful submissionId operations sends := by
  constructor
  · intro send sent same
    exact absurd (ledger.claimed _ _ (.inr ⟨send, sent, same, rfl⟩)) (unclaimed _)
  · intro operation member same checking
    exact unclaimed _ (ledger.claimed _ _
      (.inl ⟨operation, member, by rw [checking, live], same, rfl⟩))

theorem truthful_of_refused (ledger : Ledger db operations sends) (member : operation ∈ operations)
    (settled : operation.phase = .settled .rejected ∨ unsent operation.phase = true ∧
      operation.phase ≠ .checking)
    (own : ∀ operationId, Claimed db submissionId operationId →
      operationId = operation.operationId) : Truthful submissionId operations sends := by
  constructor
  · intro send sent same
    have mine := own _ (ledger.claimed _ _ (.inr ⟨send, sent, same, rfl⟩))
    rcases settled with rejected | ⟨quiet, _⟩
    · exact ledger.refused operation member rejected send sent mine
    · exact absurd mine (ledger.fresh operation member quiet send sent)
  · intro other inside same checking
    have mine := own _ (ledger.claimed _ _
      (.inl ⟨other, inside, by rw [checking, live], same, rfl⟩))
    rw [ledger.unique member inside mine] at checking
    rcases settled with rejected | ⟨_, elsewhere⟩
    · rw [checking] at rejected
      cases rejected
    · exact elsewhere checking

theorem refusal_settled {call : Call}
    (refuses : refusal call operation = true) : operation.phase = .settled .rejected ∨
      unsent operation.phase = true ∧ operation.phase ≠ .checking := by
  unfold refusal at refuses
  split at refuses
  next settled => exact .inl settled
  next settled => exact .inr ⟨by rw [settled, unsent], by simp [settled]⟩
  next settled => exact .inr ⟨by rw [settled, unsent], by simp [settled]⟩
  · cases refuses

theorem outside_not_rejected (outside : Event.outside event = true)
    (target : String) : event.body ≠ .rejected target := by
  intro body
  simp [Event.outside, body] at outside

theorem reportOf_rejected {call : Call} {late : Bool} {now : ℚ} (phase : call.phase = .waiting late)
    (settled : operation.phase = .settled outcome)
    (written : reportOf session call late now outcome = some (.reduce event))
    (body : event.body = .rejected submissionId) :
    refusal call operation = true ∧ submissionId = call.submissionId ∧
      event = rejectedEvent session call.submissionId now := by
  cases outcome with
  | accepted messageId =>
    cases written
    cases body
  | rejected =>
    cases written
    cases body
    exact ⟨by simp [refusal, phase, settled], rfl, rfl⟩
  | unknown =>
    cases written
    cases body
  | deferred | claimDeferred =>
    cases late with
    | true =>
      cases written
      cases body
      exact ⟨by simp [refusal, phase, settled], rfl, rfl⟩
    | false => cases written

theorem rejection_of_move {writer : Option Writer} {next : State}
    (move : Move uuid5 session state label writer next) (written : writer = some (.reduce event))
    (body : event.body = .rejected submissionId) :
    ∃ index now call operation, label = .report index now ∧ state.calls[index]? = some call ∧
      state.operation call.operationId = some operation ∧ refusal call operation = true ∧
      submissionId = call.submissionId ∧ event = rejectedEvent session call.submissionId now ∧
      next = state.finish index call := by
  cases move with
  | @reported index now call late operation outcome found phase known settled =>
    obtain ⟨refuses, same, its⟩ := reportOf_rejected phase settled written body
    exact ⟨index, now, call, operation, rfl, found, known, refuses, same, its, rfl⟩
  | operated found moves =>
    cases moves with
    | claims | postpones | accepts =>
      cases written
      cases body
    | fenced | won | lost | defers | requeues | oversize | interrupted => cases written
  | observed outside =>
    cases written
    exact absurd body (outside_not_rejected outside _)
  | enqueued | blocked | cancelled | replaced | doubted =>
    cases written
    cases body
  | admitted | pumped | left | blocks | misses | dispatches | cancels | replaces | forgot | marked
  | joined | created | withdrawn | sent | takenOver | restarted => cases written

theorem truthful_move {writer : Option Writer} {next : State} {row : Submission}
    (truthful : Truthful submissionId state.operations state.sends)
    (found : state.db.submission submissionId = some row) (rejected : row.state = .rejected)
    (move : Move uuid5 session state label writer next) :
    Truthful submissionId next.operations next.sends := by
  cases move with
  | created found new =>
    refine ⟨truthful.refused, Pool.forall_push truthful.idle ?_⟩
    simp
  | @operated _ index operation _ phase located moves =>
    refine ⟨truthful.refused, ?_⟩
    intro other inside same
    rcases Pool.mem_set_cases located inside with rfl | old
    · cases moves with
      | won reading answer =>
        -- the claim is in force, so the row is not a rejected one
        obtain ⟨claimed, _, stored, sending, _⟩ := claimAnswer_claimed answer
        rw [same, found] at stored
        cases stored
        rw [sending] at rejected
        cases rejected
      | fenced | claims | lost | defers | requeues | postpones | oversize | accepts
      | interrupted => simp
    · exact truthful.idle other (Pool.mem_of_mem_eraseIdx old) same
  | @sent index operation outcome located checking =>
    have member := Pool.mem_of_getElem? located
    have other : operation.submissionId ≠ submissionId := by
      intro same
      exact truthful.idle operation member same checking
    constructor
    · exact Pool.forall_push truthful.refused fun same => absurd same other
    · exact Pool.forall_set located truthful.idle fun same => absurd same other
  | restarted =>
    refine ⟨truthful.refused, ?_⟩
    intro operation inside _ checking
    obtain ⟨old, _, rfl⟩ := List.mem_map.mp inside
    have settled : live (interrupted old).phase = false := interrupted_not_live
    rw [checking] at settled
    cases settled
  | enqueued | admitted | pumped | left | blocks | misses | dispatches | cancels | replaces | forgot
  | blocked | marked | cancelled | replaced | joined | withdrawn | reported | doubted | observed
  | takenOver => exact truthful

theorem truthful_report {index : Nat} {now : ℚ} {call : Call}
    {row : Submission} (ledger : Ledger state.db state.operations state.sends)
    (rightful : Rightful session state (.report index now))
    (new : journaled state.db (rejectedEvent session call.submissionId now) = false)
    (located : state.calls[index]? = some call)
    (known : state.operation call.operationId = some operation)
    (refuses : refusal call operation = true)
    (found : state.db.submission call.submissionId = some row)
    (unsettled : row.state ≠ .rejected) (unaccepted : row.acceptedMessageId = none) :
    Truthful call.submissionId state.operations state.sends := by
  obtain ⟨member, mine⟩ := operation_of_call known
  have source : row.sourceOperationId = none ∨ row.sourceOperationId = some call.operationId := by
    rcases rightful call located operation known refuses with repeated | free
    · rw [new] at repeated
      cases repeated
    · rcases free row found with settled | accepted | free
      · exact absurd settled unsettled
      · simp [unaccepted] at accepted
      · exact free
  refine truthful_of_refused ledger member (refusal_settled refuses) ?_
  rintro operationId ⟨again, foundToo, _, claims⟩
  rw [found] at foundToo
  cases foundToo
  rcases source with none | own
  · rw [none] at claims
    cases claims
  · rw [own] at claims
    rw [mine]
    exact (Option.some.inj claims).symm

theorem write_journaled {after : Db} (repeated : journaled db event = true)
    (done : write uuid5 db (.reduce event) = some after) : after = db := by
  simp only [write, persist, repeated, if_true] at done
  cases done
  rfl

theorem truthful_step (ledger : Ledger state.db state.operations state.sends)
    (truthful : RejectedTruthfully state.db state.operations state.sends)
    (rightful : Rightful session state label)
    (taken : step uuid5 session state label = some after) :
    RejectedTruthfully after.db after.operations after.sends := by
  obtain ⟨writer, next, move, result⟩ := step_cases taken
  obtain ⟨_, same⟩ | ⟨transaction, db, written, done, rfl⟩ | ⟨_, _, _, _, rfl⟩ := result
  · rw [same, move.db]
    intro submissionId row found rejected
    exact truthful_move (truthful submissionId row found rejected) found rejected move
  · intro submissionId row found rejected
    have moved := (ledger_move ledger move).1
    have change := change_of_write submissionId done
    change Truthful submissionId next.operations next.sends
    rcases Change.rejects change found rejected with absent | ⟨old, stored, origin⟩
    · have absent : state.db.submission submissionId = none := absent
      refine truthful_of_unclaimed moved ?_
      rintro operationId ⟨claimed, foundToo, _⟩
      rw [absent] at foundToo
      cases foundToo
    · have stored : state.db.submission submissionId = some old := stored
      by_cases already : old.state = .rejected
      · exact truthful_move (truthful submissionId old stored already) stored already move
      · rcases origin with settled | waiting | ⟨unaccepted, event, its, body⟩
        · exact absurd settled already
        · refine truthful_of_unclaimed moved ?_
          rintro operationId ⟨claimed, foundToo, left, _⟩
          rw [stored] at foundToo
          cases foundToo
          exact left waiting
        · subst its
          obtain ⟨index, now, call, operation, rfl, located, known, refuses, rfl, rfl, rfl⟩ :=
            rejection_of_move move written body
          have new : journaled state.db (rejectedEvent session call.submissionId now) = false := by
            cases repeated : journaled state.db (rejectedEvent session call.submissionId now) with
            | false => rfl
            | true =>
              rw [write_journaled repeated done] at found
              rw [stored] at found
              cases found
              exact absurd rejected already
          change Truthful call.submissionId state.operations state.sends
          exact truthful_report ledger rightful new located known refuses stored already unaccepted
  · exact truthful

end Rejections

/-- The invariant of the runs whose rejections are rightful. -/
def Sound (state : State) : Prop :=
  Ledger state.db state.operations state.sends ∧
    RejectedTruthfully state.db state.operations state.sends

theorem sound_empty : Sound {} := by
  refine ⟨ledger_empty, ?_⟩
  intro submissionId row found
  cases found

/-- Over every interleaving a submission is sent at most once; and if every rejection that is
reported is rightful, a rejected submission was never sent or was rejected by the SDK. -/
theorem submissions_are_sent_once {labels : List Label} {state : State}
    (reached : Run.run (step uuid5 session) {} labels = some state) (submissionId : String) :
    (state.sends.filter (·.submissionId = submissionId)).length ≤ 1 ∧
      (Run.Along (step uuid5 session) (Rightful session) {} labels →
        ∀ row, state.db.submission submissionId = some row → row.state = .rejected →
          ∀ send ∈ state.sends, send.submissionId = submissionId → send.outcome = .rejected) := by
  constructor
  · have once := (ledger_run reached).once
    have counted : (state.sends.map (·.submissionId)).count submissionId ≤ 1 :=
      List.nodup_iff_count_le_one.mp once submissionId
    rw [List.count, List.countP_map, List.countP_eq_length_filter] at counted
    refine le_trans (le_of_eq ?_) counted
    congr 1
  · intro along row found rejected
    have sound : Sound state := by
      refine Run.run_inv_along ?_ along sound_empty reached
      intro before label next inv rightful taken
      exact ⟨ledger_step inv.1 taken, truthful_step inv.1 inv.2 rightful taken⟩
    exact (sound.2 submissionId row found rejected).refused

def oneSession : Session := { sdkSessionId := "session-1", threadId := "thread-1" }

/-- The submission of the idempotency key `key-1`. -/
def onlyId : String := "f160b806-5fc3-5cf2-b4d3-0829cbab296d"

/-- `uuid.uuid5` over `uuid.NAMESPACE_URL`, on the names the runs ask for. -/
def uuid5OfSession (name : String) : String :=
  if name = "copilotd:session-1:submission:key-1" then onlyId
  else if name = "copilotd:session-1:operation:send:key-1" then
    "442c65e3-c65e-5411-8e9d-823102926ee7"
  else if name = "copilotd:session-1:operation:send:queue:" ++ onlyId ++ ":0" then
    "db4beb37-a6eb-58b1-92f2-546d0d0e4ac8"
  else "3bc13c9d-cb02-5dec-9a1b-8277c172ba06"

/-- An immediate send and, before its operation claims the item, a pass of the pump.  The
first operation is answered, the second one loses the claim. -/
def racingDispatches (outcome : SendOutcome) : List Label :=
  [.enqueue "key-1" { submissionId := "", threadId := "", promptHash := "hash", createdAt := 1 } 1,
    .immediate "key-1", .submit 0, .pump, .pick .dispatch, .submit 1,
    .claim 0 true 2, .readBack 0, .send 0 outcome, .report 0 3,
    .claim 1 true 4, .readBack 1, .report 0 5]

theorem submissions_are_sent_once_refused :
    ∃ state, Run.run (step uuid5OfSession oneSession) {} (racingDispatches .rejected) =
        some state ∧
      (state.db.submission onlyId).map (·.state) = some .rejected ∧
      (state.sends.filter (·.submissionId = onlyId)).length ≤ 1 ∧
      ∀ send ∈ state.sends, send.submissionId = onlyId → send.outcome = .rejected := by
  have runs : (Run.run (step uuid5OfSession oneSession) {} (racingDispatches .rejected)).map
      (fun state => (state.db.submission onlyId).map (·.state)) = some (some .rejected) := by
    decide +kernel
  obtain ⟨state, reached, ends⟩ := Option.map_eq_some_iff.mp runs
  obtain ⟨once, truthful⟩ := submissions_are_sent_once reached onlyId
  obtain ⟨row, found, rejected⟩ := Option.map_eq_some_iff.mp ends
  have along : Run.Along (step uuid5OfSession oneSession) (Rightful oneSession) {}
      (racingDispatches .rejected) := by decide +kernel
  exact ⟨state, reached, ends, once, truthful along row found rejected⟩

/-- The send of the first operation has an unknown outcome, and the rejection that the second
one reports for its lost claim settles the submission. -/
theorem lost_claim_rejects_sent_submission :
    (Run.run (step uuid5OfSession oneSession) {} (racingDispatches .unknown)).map
      (fun state => ((state.db.submission onlyId).map (·.state),
        state.sends.map fun send => (send.submissionId, send.outcome))) =
      some (some .rejected, [(onlyId, .unknown)]) := by
  decide +kernel

end Copilotd.Guarantees.DispatchOnce
