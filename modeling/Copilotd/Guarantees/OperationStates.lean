import Copilotd.Base.Run
import Copilotd.Source.Core.Operations

/-!
# Durable operation states only move forward

Writers of `session_operations`: the reducer's three operation handlers,
`settle_deferred`, `discard_result` and the owner takeover.  A run mixes them in
any order.  A transition may be requested from any record, however stale, and a
committed event stays deliverable: the reducer may see it late, again, or after
another writer has moved the row.
-/
namespace Copilotd.Guarantees.OperationStates

open Base.Run Base.Table Source.Storage Source.Core

/-- The part of an envelope that the inbox adds to an event. -/
structure Posting where
  sdkSessionId : String
  generation : Int
  fenceToken : Int
  inboxSeq : Nat
  internalEventId : String

def Posting.envelope (posting : Posting) (event : OperationEvent) : Envelope :=
  { sdkSessionId := posting.sdkSessionId, generation := posting.generation
    fenceToken := posting.fenceToken, inboxSeq := posting.inboxSeq
    internalEventId := posting.internalEventId, event }

inductive Label where
  | begin (args : BeginArgs) (createdAt : ℚ) (posting : Posting)
  | transition (record : OperationRecord) (state : OperationState)
      (resultRef errorCode : Option String) (transitionedAt : ℚ) (posting : Posting)
  | markUnsettledUnknown (runtimeGeneration ownerFenceToken : Int) (errorCode : String)
      (settledAt : ℚ) (posting : Posting)
  | reduce (requireBindingFence : Bool) (index : Nat)
  | settleDeferred (record : OperationRecord) (errorCode : String) (timestamp : ℚ)
  | discardResult (record : OperationRecord)
  | acquire (store : OwnerLeaseStore) (sdkSessionId ownerId : String) (timestamp : ℚ)
  | bind (bindings : List BindingRow)

structure State where
  db : CoreDatabase := {}
  committed : List Envelope := []

def step (s : State) : Label → Option State
  | .begin args createdAt posting =>
    match beginRead args s.db.operations with
    | none => some { s with
        committed := s.committed ++ [posting.envelope (beginEvent args createdAt)] }
    | some _ => some s
  | .transition record state resultRef errorCode transitionedAt posting =>
    match transitionEvent record state resultRef errorCode transitionedAt with
    | .ok event => some { s with committed := s.committed ++ [posting.envelope event] }
    | .error _ => some s
  | .markUnsettledUnknown runtimeGeneration ownerFenceToken errorCode settledAt posting =>
    some { s with
      committed := s.committed ++ [posting.envelope
        (.unsettledUnknown runtimeGeneration ownerFenceToken errorCode settledAt)] }
  | .reduce requireBindingFence index => do
    let env ← s.committed[index]?
    match persist requireBindingFence env s.db with
    | .ok db => some { s with db }
    | .error _ => some s
  | .settleDeferred record errorCode timestamp =>
    match settleDeferred record errorCode timestamp s.db.operations with
    | .ok (_, rows) => some { s with db := s.db.setOperations rows }
    | .error _ => some s
  | .discardResult record =>
    some { s with db := s.db.setOperations (discardResult record s.db.operations) }
  | .acquire store sdkSessionId ownerId timestamp =>
    match store.acquire sdkSessionId ownerId timestamp s.db.toDatabase with
    | .ok (_, db) => some { s with db := { s.db with toDatabase := db } }
    | .error _ => some s
  | .bind bindings => some { s with db := { s.db with bindings } }

/-- Every committed transition was admitted by the `allowed` table. -/
def CommittedAdmissible (s : State) : Prop := ∀ env ∈ s.committed, Admissible env.event

theorem step_keeps_admissible (s : State) (label : Label) (t : State)
    (before : CommittedAdmissible s) (taken : step s label = some t) :
    CommittedAdmissible t := by
  have posted : ∀ env, Admissible env.event →
      CommittedAdmissible { s with committed := s.committed ++ [env] } := by
    intro env admissible old member
    rcases List.mem_append.mp member with earlier | last
    · exact before old earlier
    · rw [List.mem_singleton] at last
      exact last ▸ admissible
  cases label with
  | begin args createdAt posting =>
    simp only [step] at taken
    split at taken
    · cases taken
      exact posted _ trivial
    · cases taken
      exact before
  | transition record state resultRef errorCode transitionedAt posting =>
    simp only [step] at taken
    split at taken
    next event built =>
      cases taken
      exact posted _ (transitionEvent_admissible built)
    · cases taken
      exact before
  | markUnsettledUnknown runtimeGeneration ownerFenceToken errorCode settledAt posting =>
    cases taken
    exact posted _ trivial
  | reduce requireBindingFence index =>
    obtain ⟨env, _, rest⟩ := Option.bind_eq_some_iff.mp taken
    split at rest <;> cases rest <;> exact before
  | settleDeferred record errorCode timestamp =>
    simp only [step] at taken
    split at taken <;> cases taken <;> exact before
  | discardResult record =>
    cases taken
    exact before
  | acquire store sdkSessionId ownerId timestamp =>
    simp only [step] at taken
    split at taken <;> cases taken <;> exact before
  | bind bindings =>
    cases taken
    exact before

theorem step_moves (s : State) (label : Label) (t : State) (admissible : CommittedAdmissible s)
    (taken : step s label = some t) : RowsMove s.db.operations t.db.operations := by
  cases label with
  | begin args createdAt posting =>
    simp only [step] at taken
    split at taken <;> cases taken <;> exact RowsMove.refl _
  | transition record state resultRef errorCode transitionedAt posting =>
    simp only [step] at taken
    split at taken <;> cases taken <;> exact RowsMove.refl _
  | markUnsettledUnknown runtimeGeneration ownerFenceToken errorCode settledAt posting =>
    cases taken
    exact RowsMove.refl _
  | reduce requireBindingFence index =>
    obtain ⟨env, found, rest⟩ := Option.bind_eq_some_iff.mp taken
    split at rest
    next db reduced =>
      cases rest
      rcases persist_cases reduced with ⟨rfl, _⟩ | ⟨_, _, rows, applied, rfl⟩
      · exact RowsMove.refl _
      · exact applyDomainState_moves (admissible env (List.mem_of_getElem? found)) applied
    · cases rest
      exact RowsMove.refl _
  | settleDeferred record errorCode timestamp =>
    simp only [step] at taken
    split at taken
    next settled =>
      cases taken
      exact settleDeferred_moves settled
    · cases taken
      exact RowsMove.refl _
  | discardResult record =>
    cases taken
    exact discardResult_moves record _
  | acquire store sdkSessionId ownerId timestamp =>
    simp only [step] at taken
    split at taken
    next lease db returned =>
      cases taken
      obtain ⟨_, _, _, _, how⟩ := acquire_cases returned
      change RowsMove s.db.tables.operations db.tables.operations
      rcases how with ⟨_, _, tables⟩ | ⟨_, _, ⟨_, _, _, tables⟩ | ⟨_, _, tables⟩⟩
      · rw [tables]
        exact RowsMove.refl _
      · rw [tables]
        exact RowsMove.refl _
      · rw [tables]
        exact orphanPreviousOwners_moves ..
    · cases taken
      exact RowsMove.refl _
  | bind bindings =>
    cases taken
    exact RowsMove.refl _

/-- A row's state with the error code that can reopen it. -/
abbrev Standing := OperationState × Option String

/-- One forward move, seen on the state and the error code. -/
def Moves (before after : Standing) : Prop :=
  ∃ row : OperationRow, row.state = before.1 ∧ row.errorCode = before.2 ∧ Forward row after.1

def standing (row : OperationRow) : Standing := (row.state, row.errorCode)

/-- Every row of the first table is a row of the second, further along its path. -/
def Follows (before after : State) : Prop :=
  ∀ id row, operationById before.db.operations id = some row →
    ∃ next, operationById after.db.operations id = some next ∧
      Relation.ReflTransGen Moves (standing row) (standing next)

theorem Follows.of_rowsMove {s t : State} (moves : RowsMove s.db.operations t.db.operations) :
    Follows s t := by
  intro id row found
  obtain ⟨next, isNext, move⟩ := moves.old id row found
  refine ⟨next, isNext, ?_⟩
  rcases move.state with ⟨state, code⟩ | forward
  · have unchanged : standing next = standing row := by simp [standing, state, code]
    rw [unchanged]
  · exact .single ⟨row, rfl, rfl, forward⟩

theorem run_follows {s t : State} {labels : List Label} (admissible : CommittedAdmissible s)
    (reached : run step s labels = some t) : CommittedAdmissible t ∧ Follows s t := by
  induction labels generalizing s with
  | nil =>
    cases reached
    exact ⟨admissible, fun id row found => ⟨row, found, .refl⟩⟩
  | cons label labels ih =>
    obtain ⟨mid, taken, rest⟩ := run_cons_eq_some.mp reached
    have first := Follows.of_rowsMove (step_moves s label mid admissible taken)
    obtain ⟨after, second⟩ := ih (step_keeps_admissible s label mid admissible taken) rest
    refine ⟨after, ?_⟩
    intro id row found
    obtain ⟨next, isNext, path⟩ := first id row found
    obtain ⟨last, isLast, onward⟩ := second id next isNext
    exact ⟨last, isLast, path.trans onward⟩

private theorem no_move_from {before after : Standing}
    (settled : before.1 = .confirmed ∨ before.1 = .rejected) : ¬ Moves before after := by
  obtain ⟨target, code⟩ := after
  rintro ⟨row, state, _, forward⟩
  rw [← state] at settled
  cases forward with
  | start was | confirm was | defer was => simp [was] at settled
  | reject was | lose was => rcases was with was | was <;> simp [was] at settled

theorem absorbing {before after : Standing} (path : Relation.ReflTransGen Moves before after)
    (settled : before.1 = .confirmed ∨ before.1 = .rejected) : after = before := by
  induction path with
  | refl => rfl
  | tail _ move ih =>
    subst ih
    exact absurd move (no_move_from settled)

/-- Over every run from any database: each step moves each row by at most one
edge of the machine, new rows are pending, and along the rest of the run a row
follows a path of such edges, with `confirmed` and `rejected` absorbing and
`unknown` left only towards `rejected` under the takeover's error code. -/
theorem operation_states_forward (db : CoreDatabase) (labels : List Label) (s : State)
    (reached : run step { db } labels = some s) :
    (∀ label t, step s label = some t → RowsMove s.db.operations t.db.operations) ∧
    ∀ more t, run step s more = some t →
      ∀ id row, operationById s.db.operations id = some row →
        ∃ next, operationById t.db.operations id = some next ∧
          Relation.ReflTransGen Moves (standing row) (standing next) ∧
          (row.state = .confirmed ∨ row.state = .rejected → next.state = row.state) ∧
          (row.state = .unknown → next.state = .unknown ∨
            (next.state = .rejected ∧ row.errorCode = some "owner_fence_takeover")) := by
  have none_committed : CommittedAdmissible { db } := by
    intro env member
    cases member
  obtain ⟨admissible, _⟩ := run_follows none_committed reached
  refine ⟨fun label t taken => step_moves s label t admissible taken, ?_⟩
  intro more t continued id row found
  obtain ⟨next, isNext, path⟩ := (run_follows admissible continued).2 id row found
  refine ⟨next, isNext, path, ?_, ?_⟩
  · intro settled
    have same := absorbing path settled
    exact congrArg Prod.fst same
  · intro unknown
    rcases Relation.ReflTransGen.cases_head path with
      same | ⟨mid, ⟨witness, state, code, forward⟩, onward⟩
    · left
      have sameState := congrArg Prod.fst same
      exact sameState.symm.trans unknown
    · right
      have was : witness.state = .unknown := state.trans unknown
      obtain ⟨midState, midCode⟩ := mid
      cases forward with
      | start pending => simp [was] at pending
      | confirm started => simp [was] at started
      | lose live | reject live => simp [was] at live
      | defer _ takeover =>
        have stays := absorbing onward (.inr rfl)
        exact ⟨congrArg Prod.fst stays, code.symm.trans takeover⟩

/-- An operation is begun and started, a second owner takes the session over, and
the deferred settlement rejects it. -/
def takeoverThenDeferred : List Label :=
  let args : BeginArgs :=
    { sdkSessionId := "s", runtimeGeneration := 1, ownerFenceToken := 1, kind := "send"
      idempotencyKey := "k", inputHash := "h" }
  let record : OperationRecord :=
    { operationId := args.operationId, sdkSessionId := "s", runtimeGeneration := 1
      ownerFenceToken := 1, kind := "send", idempotencyKey := "k", inputHash := "h"
      state := .pending }
  [.acquire .standard "s" "a" 0,
    .begin args 1 ⟨"s", 1, 1, 1, "pending"⟩, .reduce false 0,
    .transition record .started none none 2 ⟨"s", 1, 1, 2, "started"⟩, .reduce false 1,
    .acquire .standard "s" "b" 100,
    .settleDeferred record "mailbox_emergency_deferred" 101]

theorem operation_states_forward_takeover :
    ∃ s, run step {} takeoverThenDeferred = some s ∧
      (s.db.operations.map (·.state)) = [.rejected] ∧
      ∀ label t, step s label = some t → RowsMove s.db.operations t.db.operations := by
  have states : (run step {} takeoverThenDeferred).map
      (fun s => s.db.operations.map (·.state)) = some [.rejected] := by decide +kernel
  obtain ⟨s, reached, rejected⟩ := Option.map_eq_some_iff.mp states
  exact ⟨s, reached, rejected, (operation_states_forward {} takeoverThenDeferred s reached).1⟩

end Copilotd.Guarantees.OperationStates
