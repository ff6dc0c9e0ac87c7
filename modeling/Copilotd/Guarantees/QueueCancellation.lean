import Copilotd.Source.Core.SubmissionLeases

/-!
# Queue cancellation

One event touches three tables, each under a guard of its own: the queue item's state is one
that the event names, the submission is `local_queued`, the lease is active.  No guard looks at
another table, so the three agree only where the rows did before.
-/
namespace Copilotd.Guarantees.QueueCancellation

open Base.Table
open Source.Storage (SubmissionState LivenessState)
open Source.Core.Submissions Source.Core.SubmissionLeases

variable {uuid5 : String → String} {attachment : Attachment} {ledger after : Ledger}
  {ids : List String} {cancellable : List QueueState} {id key : String} {receivedAt : ℚ}

def cancelQueuedEvent (attachment : Attachment) (key : String) (receivedAt : ℚ) (ids : List String)
    (cancellable : List QueueState) : Event :=
  { sdkSessionId := attachment.sdkSessionId
    internalEventId := some key
    receivedAt
    body := .cancelQueued ids cancellable }

def leaseOf (id : String) (lease : LivenessLease) : Bool :=
  lease.kind = .submission ∧ lease.sourceId = id

/-- Queue item and submission are cancelled, and the lease is released. -/
structure Cancelled (id : String) (after : Ledger) : Prop where
  item : ∃ item, after.db.item id = some item ∧ item.state = .cancelled
  row : ∃ row, after.db.submission id = some row ∧ row.state = .cancelled
  lease : ∀ lease ∈ after.leases, leaseOf id lease = true → lease.state = .released

structure Untouched (id : String) (before after : Ledger) : Prop where
  item : after.db.item id = before.db.item id
  row : after.db.submission id = before.db.submission id
  lease : after.leases.filter (leaseOf id) = before.leases.filter (leaseOf id)

/-- Every submission of the event that is in the queue is cancelled, or nothing of it is touched. -/
def AllOrNothing (ids : List String) (cancellable : List QueueState) (before after : Ledger) :
    Prop :=
  ∀ id ∈ ids, ∀ item, before.db.item id = some item →
    if item.state ∈ cancellable then Cancelled id after else Untouched id before after

/-- The submission and the lease can follow a queue item that is cancelled. -/
structure Following (attachment : Attachment) (id : String) (before : Ledger) : Prop where
  row :
    ∃ row, before.db.submission id = some row ∧ (row.state = .localQueued ∨ row.state = .cancelled)
  lease : ∀ lease ∈ before.leases, leaseOf id lease = true →
    lease.state = .released ∨ lease.state = .active ∧ lease.sdkSessionId = attachment.sdkSessionId

/-- Nothing of a submission is left that the event would end by itself. -/
structure Departed (attachment : Attachment) (id : String) (before : Ledger) : Prop where
  row : ∀ row, before.db.submission id = some row → row.state ≠ .localQueued
  lease : ∀ lease ∈ before.leases, leaseOf id lease = true →
    lease.sdkSessionId = attachment.sdkSessionId → lease.state ≠ .active

/-- The three tables agree on what the event is to do. -/
def Agreeing (attachment : Attachment) (ids : List String) (cancellable : List QueueState)
    (before : Ledger) : Prop :=
  ∀ id ∈ ids, ∀ item, before.db.item id = some item →
    if item.state ∈ cancellable then Following attachment id before
    else Departed attachment id before

/-! ## What the event does to each table -/

/-- The event as it is reduced, when it names ids and states. -/
structure Reduced (attachment : Attachment) (ids : List String) (cancellable : List QueueState)
    (before after : Ledger) : Prop where
  item : ∀ id ∈ ids, after.db.item id = (before.db.item id).map fun item =>
    if item.state ∈ cancellable then { item with state := .cancelled } else item
  row : ∀ id ∈ ids, after.db.submission id = (before.db.submission id).map fun row =>
    if row.state = .localQueued then { row with state := .cancelled } else row
  leases : after.leases = release attachment (· ∈ ids) before.leases

theorem persist_cancelQueued (named : cancellable ≠ [])
    (fresh :
      journaled ledger.db (cancelQueuedEvent attachment key receivedAt ids cancellable) = false)
    (done :
      persistLedger uuid5 attachment (cancelQueuedEvent attachment key receivedAt ids cancellable)
      ledger = .ok after) :
    ids = [] ∨ Reduced attachment ids cancellable ledger after := by
  by_cases none : ids = []
  · exact .inl none
  refine .inr ?_
  unfold persistLedger at done
  rw [fresh, if_neg Bool.false_ne_true] at done
  simp only [applyDomainState, applyLeases, cancelQueuedEvent, cancelQueued, named, none, or_self,
    if_false, Except.bind, Except.ok.injEq] at done
  subst done
  constructor
  · intro id listed
    refine (lookup_updateWhere (by intro item; rfl) id ledger.db.queue).trans ?_
    refine item_map_congr ledger.db id ?_
    rintro item rfl
    simp [listed]
  · intro id listed
    refine (lookup_updateWhere (by intro row; rfl) id ledger.db.submissions).trans ?_
    refine submission_map_congr ledger.db id ?_
    rintro row rfl
    simp [listed]
  · rfl

theorem persist_unnamed
    (done : persistLedger uuid5 attachment (cancelQueuedEvent attachment key receivedAt ids [])
      ledger = .ok after) : Untouched id ledger after := by
  unfold persistLedger at done
  split at done
  · cases done
    exact ⟨rfl, rfl, rfl⟩
  · simp only [applyDomainState, applyLeases, cancelQueuedEvent, cancelQueued, or_true, if_true,
      Except.bind, Except.ok.injEq] at done
    subst done
    exact ⟨rfl, rfl, rfl⟩

/-- A lease of a listed submission, as the event leaves it. -/
def ended (attachment : Attachment) (lease : LivenessLease) : LivenessLease :=
  if lease.sdkSessionId = attachment.sdkSessionId ∧ lease.state = .active then
    { lease with state := .released }
  else lease

theorem ended_released {lease : LivenessLease} : (ended attachment lease).state = .released ↔
    lease.state = .released ∨ lease.state = .active ∧
      lease.sdkSessionId = attachment.sdkSessionId := by
  unfold ended
  split
  · next both => simp [both.1, both.2]
  · next other =>
    refine (or_iff_left ?_).symm
    exact fun both => other both.symm

theorem ended_eq_self {lease : LivenessLease} : ended attachment lease = lease ↔
    (lease.sdkSessionId = attachment.sdkSessionId → lease.state ≠ .active) := by
  unfold ended
  split
  · next both =>
    refine iff_of_false ?_ fun never => never both.1 both.2
    intro same
    have state := congrArg LivenessLease.state same
    rw [both.2] at state
    cases state
  · next other => exact iff_of_true rfl fun own active => other ⟨own, active⟩

namespace Reduced

variable (reduced : Reduced attachment ids cancellable ledger after) (listed : id ∈ ids)

include reduced listed

theorem leases_of : after.leases.filter (leaseOf id) =
    (ledger.leases.filter (leaseOf id)).map (ended attachment) := by
  rw [reduced.leases]
  unfold release updateWhere
  rw [List.filter_map]
  have same : leaseOf id ∘ (fun lease => if decide (lease.sdkSessionId = attachment.sdkSessionId ∧
      lease.kind = .submission ∧ decide (lease.sourceId ∈ ids) = true ∧
        lease.state = .active) = true
      then { lease with state := .released } else lease) = leaseOf id := by
    funext lease
    rw [Function.comp_apply]
    split <;> rfl
  rw [same]
  refine List.map_congr_left ?_
  intro lease member
  have mine := (List.mem_filter.mp member).2
  simp only [leaseOf, decide_eq_true_eq] at mine
  simp [ended, mine.1, mine.2, listed]

theorem cancelled_iff {item : QueueItem} (found : ledger.db.item id = some item)
    (cancels : item.state ∈ cancellable) : Cancelled id after ↔ Following attachment id ledger := by
  have leases : (∀ lease ∈ after.leases, leaseOf id lease = true → lease.state = .released) ↔
      ∀ lease ∈ ledger.leases, leaseOf id lease = true →
        lease.state = .released ∨ lease.state = .active ∧
          lease.sdkSessionId = attachment.sdkSessionId := by
    have after_iff : (∀ lease ∈ after.leases, leaseOf id lease = true → lease.state = .released) ↔
        ∀ lease ∈ after.leases.filter (leaseOf id), lease.state = .released := by
      simp only [List.mem_filter, and_imp]
    rw [after_iff, reduced.leases_of listed, List.forall_mem_map]
    simp only [List.mem_filter, and_imp, ended_released]
  have row : (∃ row, after.db.submission id = some row ∧ row.state = .cancelled) ↔
      ∃ row, ledger.db.submission id = some row ∧
        (row.state = .localQueued ∨ row.state = .cancelled) := by
    rw [reduced.row id listed]
    cases ledger.db.submission id with
    | none => simp
    | some row =>
      by_cases queued : row.state = .localQueued
      · simp [queued]
      · simp [queued]
  constructor
  · rintro ⟨-, rowAfter, leaseAfter⟩
    exact ⟨row.mp rowAfter, leases.mp leaseAfter⟩
  · rintro ⟨rowBefore, leaseBefore⟩
    refine ⟨⟨{ item with state := .cancelled }, ?_, rfl⟩, row.mpr rowBefore, leases.mpr leaseBefore⟩
    rw [reduced.item id listed, found, Option.map_some, if_pos cancels]

theorem untouched_iff {item : QueueItem} (found : ledger.db.item id = some item)
    (keeps : item.state ∉ cancellable) :
    Untouched id ledger after ↔ Departed attachment id ledger := by
  have leases : after.leases.filter (leaseOf id) = ledger.leases.filter (leaseOf id) ↔
      ∀ lease ∈ ledger.leases, leaseOf id lease = true →
        lease.sdkSessionId = attachment.sdkSessionId → lease.state ≠ .active := by
    rw [reduced.leases_of listed]
    conv_lhs => rhs; rw [← List.map_id (ledger.leases.filter (leaseOf id))]
    rw [List.map_inj_left]
    simp only [List.mem_filter, id_eq, and_imp, ended_eq_self]
  have row : after.db.submission id = ledger.db.submission id ↔
      ∀ row, ledger.db.submission id = some row → row.state ≠ .localQueued := by
    rw [reduced.row id listed]
    cases ledger.db.submission id with
    | none => simp
    | some row =>
      simp only [Option.map_some, Option.some.injEq, forall_eq']
      split
      · next queued =>
        refine iff_of_false ?_ fun other => other queued
        intro same
        have state := congrArg Submission.state same
        rw [queued] at state
        cases state
      · next other => exact iff_of_true rfl other
  constructor
  · rintro ⟨-, rowSame, leaseSame⟩
    exact ⟨row.mp rowSame, leases.mp leaseSame⟩
  · rintro ⟨rowLeft, leaseLeft⟩
    refine ⟨?_, row.mpr rowLeft, leases.mpr leaseLeft⟩
    rw [reduced.item id listed, found, Option.map_some, if_neg keeps]

end Reduced

/-! ## All or nothing -/

/-- A reduced cancellation is all or nothing for each submission exactly if the tables agree. -/
theorem cancellation_is_all_or_nothing
    (fresh :
      journaled ledger.db (cancelQueuedEvent attachment key receivedAt ids cancellable) = false)
    (done :
      persistLedger uuid5 attachment (cancelQueuedEvent attachment key receivedAt ids cancellable)
      ledger = .ok after) :
    AllOrNothing ids cancellable ledger after ↔
      cancellable = [] ∨ Agreeing attachment ids cancellable ledger := by
  by_cases unnamed : cancellable = []
  · subst unnamed
    refine iff_of_true ?_ (.inl rfl)
    intro id _ item _
    rw [if_neg List.not_mem_nil]
    exact persist_unnamed done
  rw [or_iff_right unnamed]
  rcases persist_cancelQueued unnamed fresh done with rfl | reduced
  · exact iff_of_true (by simp [AllOrNothing]) (by simp [Agreeing])
  unfold AllOrNothing Agreeing
  refine forall_congr' fun id => forall_congr' fun listed => forall_congr' fun item =>
    forall_congr' fun found => ?_
  split
  · next cancels => exact reduced.cancelled_iff listed found cancels
  · next keeps => exact reduced.untouched_iff listed found keeps

/-! ## Two submissions of one event -/

section Examples

open Source.Core.QueueRuntime (cancellableStates)

def ours : Attachment := { sdkSessionId := "s", runtimeGeneration := 1, ownerFenceToken := 1 }

/-- `a` waits in the queue, and `b` has left it in `state`. -/
def waitingAndLeft (state : QueueState) (row : SubmissionState) (lease : LivenessState) :
    Ledger where
  db :=
    { submissions :=
        [{ submissionId := "a", sdkSessionId := "s", origin := "app_message"
           state := .localQueued, createdAt := 1 },
         { submissionId := "b", sdkSessionId := "s", origin := "app_message"
           state := row, createdAt := 2 }]
      queue :=
        [{ id := "a", threadId := "t", position := 1, state := .localQueued },
          { id := "b", threadId := "t", position := 2, state }] }
  leases := [ours.lease .submission "a", { ours.lease .submission "b" with state := lease }]

def cancelBoth : Event :=
  cancelQueuedEvent ours "submissions:c:cancelled" 5 ["a", "b"] cancellableStates

/-- `b` is sent and its runtime has ended the lease, so the event cancels `a` alone. -/
theorem cancellation_is_all_or_nothing_sent :
    ∃ after, persistLedger (fun name => name) ours cancelBoth
        (waitingAndLeft .submitted .semanticComplete .released) = .ok after ∧
      AllOrNothing ["a", "b"] cancellableStates
        (waitingAndLeft .submitted .semanticComplete .released) after := by
  have done : ∃ after, persistLedger (fun name => name) ours cancelBoth
      (waitingAndLeft .submitted .semanticComplete .released) = .ok after := ⟨_, rfl⟩
  obtain ⟨after, done⟩ := done
  refine ⟨after, done, (cancellation_is_all_or_nothing rfl done).mpr (.inr ?_)⟩
  intro id listed item found
  simp only [List.mem_cons, List.not_mem_nil, or_false] at listed
  rcases listed with rfl | rfl
  · cases found
    rw [if_pos (by decide)]
    exact ⟨⟨_, rfl, .inl rfl⟩, by decide⟩
  · cases found
    rw [if_neg (by decide)]
    refine ⟨?_, by decide⟩
    rintro row ⟨⟩
    decide

/-- `b` was claimed between the query of `_cancel_queued` and the event: it is being sent, and its
lease is released. -/
theorem cancellation_releases_sending_submission :
    ∃ after, persistLedger (fun name => name) ours cancelBoth
        (waitingAndLeft .submitting .submitting .active) = .ok after ∧
      ¬ AllOrNothing ["a", "b"] cancellableStates
        (waitingAndLeft .submitting .submitting .active) after := by
  refine ⟨_, rfl, ?_⟩
  intro whole
  have left := whole "b" (by decide) _ rfl
  rw [if_neg (by decide)] at left
  exact absurd left.lease (by decide)

end Examples

end Copilotd.Guarantees.QueueCancellation
