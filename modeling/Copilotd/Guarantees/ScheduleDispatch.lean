import Mathlib.Data.Fintype.Defs
import Mathlib.Tactic.Linarith
import Copilotd.Base.Run
import Copilotd.Source.Core.ScheduleRuns

/-!
# A dispatched schedule run is not claimed again

A run and its queue item are two state machines.  While the reducer takes an item
out of `local_queued` only when it also moves the item's run (`Tracked`), a
dispatched run carries `send_started_at`, or it was accepted with no lease on it
and no live item; `claim_next` selects neither (`dispatched_run_not_claimed`).  A
retry of a queued submission breaks this: the run goes to `retry_wait` and the item
stays, so the item is sent without a trace in the run
(`retried_run_is_claimed_after_dispatch`).
-/
namespace Copilotd.Guarantees.ScheduleDispatch

open Base.Run Base.Table
open Source.Storage (QueueState)
open Source.Core.Scheduler

structure World where
  db : Db := {}
  /-- The runs whose item has left `local_queued` for sending. -/
  dispatched : List String := []

def step (w : World) (event : Event) : Option World :=
  some { db := w.db.react event, dispatched := w.db.dispatchedBy event ++ w.dispatched }

/-- The reducer takes an item out of `local_queued` only together with its run. -/
def Tracked (w : World) : Event → Prop
  | .submitting event _ =>
    event.succeeds w.db → ∀ item ∈ w.db.queue, event.takes item →
      ∀ runId ∈ item.scheduleRunId, ∀ row ∈ w.db.run runId,
        row.status = .claimed ∨ row.status = .submitting
  | .accepted event _ =>
    event.admitted w.db → ∀ item ∈ w.db.queue, item.id = event.submissionId →
      item.state = .localQueued → ∀ runId ∈ item.scheduleRunId, ∀ row ∈ w.db.run runId,
        row.status ∈ [ScheduleRunState.claimed, .submitting, .accepted] ∧
          (row.leaseOwner = none ∨ row.sendStartedAt ≠ none)
  | _ => True

/-! ## The invariant -/

/-- The run names its own queue item. -/
def Linked (row : RunRow) : Prop := row.resultSubmissionId = some (submissionId row.runId)

/-- No `claim_next` selects the run, now or later. -/
structure Safe (db : Db) (row : RunRow) : Prop where
  status : row.status ≠ .pending ∧ row.status ≠ .retryWait
  sent : row.sendStartedAt ≠ none ∨
    (row.leaseOwner = none ∧ row.status ≠ .claimed ∧ row.status ≠ .submitting ∧
      db.existingItem row.runId = none)

/-- The keys of the two tables and the link between them. -/
structure Shape (db : Db) : Prop where
  runIds : (db.runs.map RunRow.runId).Nodup
  itemIds : (db.queue.map QueueItem.id).Nodup
  own : ∀ item ∈ db.queue, ∀ runId, item.scheduleRunId = some runId →
    item.id = submissionId runId
  linked : ∀ runId, db.hasItem runId = true → ∃ row, db.run runId = some row ∧ Linked row

structure Sound (w : World) : Prop where
  shape : Shape w.db
  safe : ∀ runId ∈ w.dispatched, w.db.hasItem runId = true ∧
    ∀ row, w.db.run runId = some row → Safe w.db row

/-- What every transaction keeps of a run with a queue item. -/
structure Kept (db after : Db) : Prop where
  items : ∀ runId, db.hasItem runId = true → after.hasItem runId = true
  settled : ∀ runId, db.hasItem runId = true → db.existingItem runId = none →
    after.existingItem runId = none
  rows : ∀ runId row, db.run runId = some row → ∃ now, after.run runId = some now ∧
    (db.hasItem runId = true → Linked row → Linked now ∧ (Safe db row → Safe after now))

variable {b a c : Db}

theorem Kept.trans (first : Kept a b) (second : Kept b c) : Kept a c := by
  refine ⟨?_, ?_, ?_⟩
  · intro runId has
    exact second.items runId (first.items runId has)
  · intro runId has settled
    exact second.settled runId (first.items runId has) (first.settled runId has settled)
  · intro runId row found
    obtain ⟨middle, isMiddle, one⟩ := first.rows runId row found
    obtain ⟨now, isNow, two⟩ := second.rows runId middle isMiddle
    refine ⟨now, isNow, ?_⟩
    intro has linked
    have left := one has linked
    have right := two (first.items runId has) left.1
    exact ⟨right.1, fun safe => right.2 (left.2 safe)⟩

/-- A transaction keeps the shape and what it should of every run. -/
structure Keeps (db after : Db) : Prop where
  shape : Shape after
  kept : Kept db after

theorem Keeps.trans (first : Keeps a b) (second : Keeps b c) : Keeps a c :=
  ⟨second.shape, first.kept.trans second.kept⟩

variable {db after : Db}

theorem Kept.of_eq (runs : after.runs = db.runs) (queue : after.queue = db.queue) :
    Kept db after := by
  have existing : ∀ runId, after.existingItem runId = db.existingItem runId := by
    intro runId
    unfold Db.existingItem Db.queuedItem
    rw [queue]
  refine ⟨?_, ?_, ?_⟩
  · intro runId has
    unfold Db.hasItem
    rw [queue]
    exact has
  · intro runId _ settled
    rw [existing]
    exact settled
  · intro runId row found
    refine ⟨row, ?_, ?_⟩
    · unfold Db.run
      rw [runs]
      exact found
    · intro _ linked
      refine ⟨linked, ?_⟩
      intro safe
      refine ⟨safe.status, ?_⟩
      rw [existing]
      exact safe.sent

theorem Shape.of_eq (shape : Shape db) (runs : after.runs = db.runs)
    (queue : after.queue = db.queue) : Shape after := by
  refine ⟨?_, ?_, ?_, ?_⟩
  · rw [runs]
    exact shape.runIds
  · rw [queue]
    exact shape.itemIds
  · rw [queue]
    exact shape.own
  · intro runId has
    unfold Db.hasItem at has
    unfold Db.run
    rw [queue] at has
    rw [runs]
    exact shape.linked runId has

variable {runId : String}

theorem mem_hasItem :
    db.hasItem runId = true ↔ ∃ item ∈ db.queue, item.scheduleRunId = some runId := by
  unfold Db.hasItem
  simp

theorem existingItem_eq_none :
    db.existingItem runId = none ↔ ∀ item ∈ db.queue, item.scheduleRunId = some runId →
      item.state ∈ [QueueState.cancelled, .submitted, .failed] := by
  unfold Db.existingItem Db.queuedItem
  rw [List.find?_eq_none]
  constructor
  · intro none_ item member mine
    by_contra live
    exact none_ item member (decide_eq_true ⟨mine, live⟩)
  · intro settled item member found
    obtain ⟨mine, live⟩ := of_decide_eq_true found
    exact live (settled item member mine)

variable {item : QueueItem}

theorem existingItem_some (found : db.existingItem runId = some item) :
    item ∈ db.queue ∧ item.scheduleRunId = some runId := by
  have mine := List.find?_some found
  rw [decide_eq_true_eq] at mine
  exact ⟨List.mem_of_find?_eq_some found, mine.1⟩

/-! ## Statements on one table -/

variable {set : RunRow → RunRow} {hit : RunRow → Bool}

theorem updateRuns_kept (shape : Shape db) (key : ∀ row, (set row).runId = row.runId)
    (rows : ∀ row, db.run row.runId = some row → hit row = true →
      db.hasItem row.runId = true → Linked row →
      Linked (set row) ∧ (Safe db row → Safe db (set row))) :
    Keeps db (db.updateRuns hit set) := by
  have moved : ∀ runId, (db.updateRuns hit set).run runId =
      (db.run runId).map fun row => if hit row then set row else row := by
    intro runId
    exact lookup_updateWhere key runId db.runs
  have each : ∀ runId row, db.run runId = some row → db.hasItem runId = true → Linked row →
      Linked (if hit row then set row else row) ∧
        (Safe db row → Safe db (if hit row then set row else row)) := by
    intro runId row found has linked
    have mine : row.runId = runId := lookup_some_key found
    split
    · next taken =>
      rw [← mine] at found has
      exact rows row found taken has linked
    · exact ⟨linked, id⟩
  have kept : Kept db (db.updateRuns hit set) := by
    refine ⟨fun _ => id, fun _ _ => id, ?_⟩
    intro runId row found
    refine ⟨_, by rw [moved, found]; rfl, ?_⟩
    intro has linked
    have both := each runId row found has linked
    refine ⟨both.1, ?_⟩
    intro safe
    exact ⟨(both.2 safe).status, (both.2 safe).sent⟩
  refine ⟨⟨?_, shape.itemIds, shape.own, ?_⟩, kept⟩
  · unfold Db.updateRuns
    rw [map_updateWhere key]
    exact shape.runIds
  · intro runId has
    obtain ⟨row, found, linked⟩ := shape.linked runId has
    refine ⟨_, by rw [moved, found]; rfl, ?_⟩
    exact (each runId row found has linked).1

theorem updateRuns_misses (shape : Shape db) (key : ∀ row, (set row).runId = row.runId)
    (link : ∀ row, (set row).resultSubmissionId = row.resultSubmissionId)
    (misses : ∀ row, db.run row.runId = some row → hit row = true →
      db.hasItem row.runId = true → ¬ Safe db row) :
    Keeps db (db.updateRuns hit set) := by
  refine updateRuns_kept shape key ?_
  intro row selected taken has linked
  refine ⟨?_, ?_⟩
  · unfold Linked
    rw [key, link]
    exact linked
  · intro safe
    exact absurd safe (misses row selected taken has)

theorem updateQueue_kept {hit : QueueItem → Bool} {set : QueueItem → QueueItem} (shape : Shape db)
    (runs : after.runs = db.runs) (queue : after.queue = updateWhere hit set db.queue)
    (keys : ∀ item, (set item).id = item.id ∧ (set item).scheduleRunId = item.scheduleRunId)
    (live : ∀ item, hit item = true →
      item.state ∉ [QueueState.cancelled, .submitted, .failed]) :
    Keeps db after := by
  have same : ∀ item, (if hit item then set item else item).id = item.id ∧
      (if hit item then set item else item).scheduleRunId = item.scheduleRunId := by
    intro item
    split
    · exact keys item
    · exact ⟨rfl, rfl⟩
  have has : ∀ runId, after.hasItem runId = true ↔ db.hasItem runId = true := by
    intro runId
    rw [mem_hasItem, mem_hasItem, queue]
    constructor
    · rintro ⟨item, member, mine⟩
      obtain ⟨old, oldMember, rfl⟩ := mem_updateWhere.mp member
      exact ⟨old, oldMember, (same old).2 ▸ mine⟩
    · rintro ⟨item, member, mine⟩
      exact ⟨_, mem_updateWhere.mpr ⟨item, member, rfl⟩, (same item).2.trans mine⟩
  have settled : ∀ runId, db.existingItem runId = none → after.existingItem runId = none := by
    intro runId none_
    rw [existingItem_eq_none] at none_ ⊢
    rw [queue]
    intro item member mine
    obtain ⟨old, oldMember, rfl⟩ := mem_updateWhere.mp member
    have ended := none_ old oldMember ((same old).2 ▸ mine)
    split
    · next taken => exact absurd ended (live old taken)
    · exact ended
  have found : ∀ runId, after.run runId = db.run runId := by
    intro runId
    unfold Db.run
    rw [runs]
  refine ⟨⟨?_, ?_, ?_, ?_⟩, ⟨fun runId => (has runId).mpr, fun runId _ => settled runId, ?_⟩⟩
  · rw [runs]
    exact shape.runIds
  · rw [queue, map_updateWhere fun item => (keys item).1]
    exact shape.itemIds
  · rw [queue]
    intro item member runId mine
    obtain ⟨old, oldMember, rfl⟩ := mem_updateWhere.mp member
    rw [(same old).1]
    exact shape.own old oldMember runId ((same old).2 ▸ mine)
  · intro runId is
    rw [found]
    exact shape.linked runId ((has runId).mp is)
  · intro runId row isRow
    refine ⟨row, (found runId).trans isRow, ?_⟩
    intro _ linked
    refine ⟨linked, ?_⟩
    intro safe
    refine ⟨safe.status, ?_⟩
    rcases safe.sent with sent | ⟨free, claimed, submitting, none_⟩
    · exact .inl sent
    · exact .inr ⟨free, claimed, submitting, settled _ none_⟩

/-! ## The calls of the repository -/

variable {row : RunRow}

theorem Safe.sent_of_open (safe : Safe db row)
    (open_ : row.status = .claimed ∨ row.status = .submitting) : row.sendStartedAt ≠ none := by
  rcases safe.sent with sent | ⟨_, claimed, submitting, _⟩
  · exact sent
  · rcases open_ with is | is
    · exact absurd is claimed
    · exact absurd is submitting

variable {status : ScheduleRunState}

theorem open_iff :
    status ∈ [ScheduleRunState.claimed, .submitting] ↔
      status = .claimed ∨ status = .submitting := by
  simp

variable {fenceToken : Int} {ownerId : String}

theorem Safe.sent_of_held (safe : Safe db row) (held : row.heldBy ownerId fenceToken = true) :
    row.sendStartedAt ≠ none := by
  have owner : row.leaseOwner = some ownerId := (of_decide_eq_true held).1
  rcases safe.sent with sent | ⟨free, _⟩
  · exact sent
  · rw [free] at owner
    cases owner

variable {now : ℚ}

theorem not_safe_of_claimable (claimable : db.claimable now row = true) : ¬ Safe db row := by
  intro safe
  unfold Db.claimable at claimable
  split at claimable
  · next is => exact safe.status.1 is
  · next is => exact safe.status.2 is
  · next is => exact safe.sent_of_open (.inl is) (of_decide_eq_true claimable).2.2
  · next is => exact safe.sent_of_open (.inr is) (of_decide_eq_true claimable).2.1
  · cases claimable

theorem terminal_ne (terminal : status.terminal = true) :
    (status ≠ .pending ∧ status ≠ .retryWait) ∧ status ≠ .claimed ∧ status ≠ .submitting := by
  refine ⟨⟨?_, ?_⟩, ?_, ?_⟩ <;>
  · rintro rfl
    cases terminal

section

variable (shape : Shape db)
include shape

theorem forcedRestart_kept (row : RunRow) (now : ℚ) :
    Keeps db (db.forcedRestart row now) := by
  refine updateQueue_kept shape rfl rfl ?_ ?_
  · intro item
    exact ⟨rfl, rfl⟩
  · intro item taken settled
    have live := (of_decide_eq_true taken).2
    simp only [List.mem_cons, List.not_mem_nil, or_false] at live settled
    tauto

theorem finalizeInTransaction_kept {basis : Option String} {category : Option ErrorCategory}
    {code : Option String} {expected : Option (String × Int)} (terminal : status.terminal = true)
    (done : db.finalizeInTransaction runId status basis category code now expected = .ok after) :
    Keeps db after := by
  unfold Db.finalizeInTransaction at done
  split at done
  · cases done
  · next current found =>
    split at done
    · cases done
    · split at done
      · cases done
        exact ⟨shape, Kept.of_eq rfl rfl⟩
      · have finished : ∀ final : ScheduleRunState, final.terminal = true →
            Keeps db (db.updateRuns (fun other => other.runId = runId)
              fun other => other.finalized final basis category code now) := by
          intro final ended
          refine updateRuns_kept shape ?_ ?_
          · intro row
            rfl
          · intro row _ _ _ linked
            refine ⟨linked, ?_⟩
            intro safe
            have ne := terminal_ne ended
            refine ⟨ne.1, ?_⟩
            rcases safe.sent with sent | ⟨_, _, _, none_⟩
            · exact .inl sent
            · exact .inr ⟨rfl, ne.2.1, ne.2.2, none_⟩
        have final : (if code = some "forced_restart" ∧ status = .dispatchUnknown ∧
              (db.dispatchObserved current ∨ current.acceptedMessageId ≠ none) then
            ScheduleRunState.outcomeUnknown else status).terminal = true := by
          split
          · rfl
          · exact terminal
        have one := finished _ final
        simp only [Except.ok.injEq] at done
        rw [← done]
        split
        · exact one.trans (forcedRestart_kept one.1 current now)
        · exact one

theorem firstRun_selected (first : firstRun (db.runs.filter (db.claimable now)) = some row) :
    db.run row.runId = some row ∧ db.claimable now row = true := by
  have member := List.mem_filter.mp (firstRun_mem first)
  exact ⟨lookup_of_mem shape.runIds member.1, member.2⟩

theorem claimNext_kept {leaseSeconds : ℚ} {claimed : Option RunRow}
    (done : claimNext ownerId now leaseSeconds db = .ok (after, claimed)) :
    Keeps db after := by
  unfold claimNext at done
  split at done
  · cases done
    exact ⟨shape, Kept.of_eq rfl rfl⟩
  · split at done
    · cases done
      exact ⟨shape, Kept.of_eq rfl rfl⟩
    · next row first =>
      have chosen := firstRun_selected shape first
      split at done
      · cases finished : db.finalizeInTransaction row.runId .failed none (some .runtime)
            (some "retry_exhausted") now none with
        | error error =>
          rw [finished] at done
          cases done
        | ok final =>
          rw [finished] at done
          cases done
          exact finalizeInTransaction_kept shape rfl finished
      · cases done
        refine updateRuns_misses shape ?_ ?_ ?_
        · intro other
          rfl
        · intro other
          rfl
        · intro other selected taken _
          have same : row.runId = other.runId := (of_decide_eq_true taken).1.symm
          have both : some row = some other := by
            rw [← chosen.1, ← selected, same]
          rw [← Option.some.inj both]
          exact not_safe_of_claimable chosen.2

theorem plan_kept (runId : String) (plannedAtUtc now : ℚ) :
    Keeps db (plan runId plannedAtUtc now db) := by
  unfold plan
  split
  · exact ⟨shape, Kept.of_eq rfl rfl⟩
  · next free =>
    have stays : ∀ (other : String) (row new : RunRow), db.run other = some row →
        lookup RunRow.runId other (db.runs ++ [new]) = some row := by
      intro other row new found
      exact lookup_append_of_some found
    refine ⟨⟨?_, shape.itemIds, shape.own, ?_⟩, ⟨fun _ => id, fun _ _ => id, ?_⟩⟩
    · exact nodup_insert shape.runIds (lookup_eq_none.mp free)
    · intro other has
      obtain ⟨row, found, linked⟩ := shape.linked other has
      exact ⟨row, stays other row _ found, linked⟩
    · intro other row found
      refine ⟨row, stays other row _ found, ?_⟩
      intro _ linked
      exact ⟨linked, fun safe => ⟨safe.status, safe.sent⟩⟩

theorem insertItem_kept {current : RunRow}
    (found : db.run runId = some current) (held : current.heldBy ownerId fenceToken = true)
    (fresh : ∀ other ∈ db.queue, other.id ≠ submissionId runId)
    (isItem : item.id = submissionId runId ∧ item.scheduleRunId = some runId)
    (key : ∀ row, (set row).runId = row.runId)
    (link : ∀ row, (set row).resultSubmissionId = some (submissionId runId))
    (queue : after.queue = db.queue ++ [item]) (runs : after.runs = updateWhere
      (fun row => row.runId = runId ∧ row.heldBy ownerId fenceToken) set db.runs) :
    Keeps db after := by
  have moved : ∀ other, after.run other = (db.run other).map fun row =>
      if (decide (row.runId = runId ∧ row.heldBy ownerId fenceToken) : Bool) then set row
      else row := by
    intro other
    unfold Db.run
    rw [runs]
    exact lookup_updateWhere key other db.runs
  have others : ∀ other, db.hasItem other = true → other ≠ runId := by
    rintro other has rfl
    obtain ⟨old, member, mine⟩ := mem_hasItem.mp has
    exact fresh old member (shape.own old member other mine)
  have stays : ∀ other row, db.hasItem other = true → db.run other = some row →
      after.run other = some row := by
    intro other row has isRow
    have key : row.runId = other := lookup_some_key isRow
    have differs : row.runId ≠ runId := by
      rw [key]
      exact others other has
    rw [moved, isRow]
    simp [differs]
  have settled : ∀ other, other ≠ runId → db.existingItem other = none →
      after.existingItem other = none := by
    intro other differs none_
    rw [existingItem_eq_none] at none_ ⊢
    rw [queue]
    intro entry member mine
    rcases List.mem_append.mp member with old | new
    · exact none_ entry old mine
    · rw [List.mem_singleton.mp new, isItem.2] at mine
      exact absurd (Option.some.inj mine).symm differs
  refine ⟨⟨?_, ?_, ?_, ?_⟩, ⟨?_, ?_, ?_⟩⟩
  · rw [runs, map_updateWhere key]
    exact shape.runIds
  · rw [queue]
    refine nodup_insert shape.itemIds ?_
    rw [isItem.1]
    exact fresh
  · rw [queue]
    intro entry member other mine
    rcases List.mem_append.mp member with old | new
    · exact shape.own entry old other mine
    · rw [List.mem_singleton.mp new] at mine ⊢
      rw [isItem.2] at mine
      rw [isItem.1, Option.some.inj mine]
  · intro other has
    rw [mem_hasItem, queue] at has
    obtain ⟨entry, member, mine⟩ := has
    rcases List.mem_append.mp member with old | new
    · have before := mem_hasItem.mpr ⟨entry, old, mine⟩
      obtain ⟨row, isRow, linked⟩ := shape.linked other before
      exact ⟨row, stays other row before isRow, linked⟩
    · rw [List.mem_singleton.mp new, isItem.2] at mine
      cases mine
      have own : current.runId = runId := lookup_some_key found
      refine ⟨set current, ?_, ?_⟩
      · rw [moved, found]
        simp [own, held]
      · unfold Linked
        rw [link, key, own]
  · intro other has
    rw [mem_hasItem] at has ⊢
    obtain ⟨entry, member, mine⟩ := has
    rw [queue]
    exact ⟨entry, List.mem_append_left _ member, mine⟩
  · intro other has
    exact settled other (others other has)
  · intro other row isRow
    by_cases has : db.hasItem other = true
    · refine ⟨row, stays other row has isRow, ?_⟩
      intro _ linked
      refine ⟨linked, ?_⟩
      intro safe
      refine ⟨safe.status, ?_⟩
      have key : row.runId = other := lookup_some_key isRow
      rcases safe.sent with sent | ⟨free, claimed, submitting, none_⟩
      · exact .inl sent
      · refine .inr ⟨free, claimed, submitting, ?_⟩
        rw [key] at none_ ⊢
        exact settled other (others other has) none_
    · refine ⟨_, by rw [moved, isRow]; rfl, ?_⟩
      intro is
      exact absurd is has

theorem enqueue_kept {target : ScheduledTarget} {promptHash : String} {ready : Bool}
    (done : enqueue runId ownerId fenceToken target promptHash ready now db = .ok after) :
    Keeps db after := by
  unfold enqueue at done
  split at done
  · cases done
  · split at done
    · cases done
    · next current found =>
      split at done
      · next existing queued =>
        split at done
        · cases done
        · cases done
          obtain ⟨member, mine⟩ := existingItem_some queued
          refine updateRuns_kept shape ?_ ?_
          · intro row
            rfl
          · intro row _ taken _ _
            have own : row.runId = runId := of_decide_eq_true taken
            refine ⟨?_, ?_⟩
            · change some existing.id = some (submissionId row.runId)
              rw [shape.own existing member runId mine, own]
            · intro safe
              refine ⟨⟨by simp, by simp⟩, ?_⟩
              rcases safe.sent with sent | ⟨_, _, _, none_⟩
              · exact .inl sent
              · rw [own, queued] at none_
                cases none_
      · split at done
        · cases done
        · next held =>
          rw [not_or, not_not, not_not] at held
          split at done
          · cases done
          · split at done
            · cases done
            · split at done
              · cases done
              · next fresh =>
                cases done
                refine insertItem_kept shape found held.1 ?_ ⟨rfl, rfl⟩ ?_ ?_ rfl rfl
                · intro other member same
                  refine fresh ?_
                  rw [List.any_eq_true]
                  exact ⟨other, member, decide_eq_true same⟩
                · intro row
                  rfl
                · intro row
                  rfl

end

variable {error : DispatchError} {attempt : Nat}

theorem retryOrFail_kept (shape : Shape db)
    (done : retryOrFail runId ownerId fenceToken attempt error now db = .ok after) :
    Keeps db after := by
  unfold retryOrFail at done
  dsimp only at done
  split at done
  · next terminal =>
    unfold finalize at done
    split at done
    · cases done
    · exact finalizeInTransaction_kept shape terminal done
  · split at done
    · cases done
    · cases done
      refine updateRuns_misses shape ?_ ?_ ?_
      · intro row
        rfl
      · intro row
        rfl
      · intro row _ taken _ safe
        obtain ⟨_, held, unsent⟩ := of_decide_eq_true taken
        exact safe.sent_of_held held unsent

theorem committed_kept {result : Except SchedulerError Db} (shape : Shape db)
    (ok : ∀ after, result = .ok after → Keeps db after) :
    Keeps db (committed db result) := by
  cases result with
  | error error => exact ⟨shape, Kept.of_eq rfl rfl⟩
  | ok after => exact ok after rfl

theorem apply_kept (shape : Shape db) (operation : Operation) :
    Keeps db (db.apply operation) := by
  cases operation with
  | plan runId plannedAtUtc now => exact plan_kept shape runId plannedAtUtc now
  | claimNext ownerId now leaseSeconds =>
    refine committed_kept shape ?_
    intro after done
    cases result : claimNext ownerId now leaseSeconds db with
    | error error =>
      rw [result] at done
      cases done
    | ok pair =>
      rw [result] at done
      cases done
      exact claimNext_kept shape result
  | renewRun runId ownerId fenceToken now leaseSeconds =>
    refine updateRuns_kept shape ?_ ?_
    · intro row
      rfl
    · intro row _ _ _ linked
      exact ⟨linked, fun safe => ⟨safe.status, safe.sent⟩⟩
  | markTargetStarted runId ownerId fenceToken newSession resultSessionId now =>
    refine committed_kept shape ?_
    intro after done
    unfold markTargetStarted at done
    dsimp only at done
    split at done
    · cases done
    · cases done
      refine updateRuns_kept shape ?_ ?_
      · intro row
        rfl
      · intro row _ taken _ linked
        refine ⟨linked, ?_⟩
        intro safe
        have claimed : row.status = .claimed := (of_decide_eq_true taken).2.2
        exact ⟨⟨by simp, by simp⟩, .inl (safe.sent_of_open (.inl claimed))⟩
  | recordTarget runId ownerId fenceToken target now =>
    refine committed_kept shape ?_
    intro after done
    unfold recordTarget at done
    dsimp only at done
    split at done
    · cases done
    · cases done
      refine updateRuns_kept shape ?_ ?_
      · intro row
        rfl
      · intro row _ _ _ linked
        exact ⟨linked, fun safe => ⟨safe.status, safe.sent⟩⟩
  | enqueue runId ownerId fenceToken target promptHash ready now =>
    refine committed_kept shape ?_
    intro after done
    exact enqueue_kept shape done
  | retryOrFail runId ownerId fenceToken attempt error now =>
    refine committed_kept shape ?_
    intro after done
    exact retryOrFail_kept shape done
  | finalize runId status basis category code now expected =>
    refine committed_kept shape ?_
    intro after done
    unfold finalize at done
    split at done
    · cases done
    · next terminal =>
      refine finalizeInTransaction_kept shape ?_ done
      simpa using terminal

/-! ## The queue error, the recovery and the reducer -/

theorem error_state_terminal (waits : error.state attempt ≠ .retryWait) :
    (error.state attempt).terminal = true := by
  unfold DispatchError.state at waits ⊢
  split
  · rfl
  · split
    · rfl
    · split
      · rfl
      · split
        · rfl
        · next a b c d =>
          rw [if_neg a, if_neg b, if_neg c, if_neg d] at waits
          exact absurd rfl waits

section

variable (shape : Shape db)
include shape

theorem queuedError_kept {ownerId : Option String} {contentUnavailable : Bool}
    (done : transitionQueuedSubmissionError runId fenceToken error ownerId contentUnavailable now
      db = .ok after) : Keeps db after := by
  unfold transitionQueuedSubmissionError at done
  split at done
  · cases done
  · next current found =>
    split at done
    · cases done
      exact ⟨shape, Kept.of_eq rfl rfl⟩
    · split at done
      · cases done
      · split at done
        · cases done
          exact ⟨shape, Kept.of_eq rfl rfl⟩
        · split at done
          · cases done
          · dsimp only at done
            split at done
            · split at done
              · cases done
              · cases done
                refine updateRuns_misses shape ?_ ?_ ?_
                · intro row
                  rfl
                · intro row
                  rfl
                · intro row _ taken _ safe
                  obtain ⟨_, _, status, unsent⟩ := of_decide_eq_true taken
                  rcases safe.sent with sent | ⟨_, claimed, submitting, _⟩
                  · exact sent unsent
                  · simp only [List.mem_cons, List.not_mem_nil, or_false] at status
                    rcases status with is | is | is
                    · exact claimed is
                    · exact submitting is
                    · exact safe.status.2 is
            · next waits =>
              cases finished : db.finalizeInTransaction current.runId (error.state current.attempt)
                  none (some error.category) (some error.code) now
                  (ownerId.map fun owner => (owner, current.fenceToken)) with
              | error problem =>
                rw [finished] at done
                cases done
              | ok final =>
                rw [finished] at done
                cases done
                have one := finalizeInTransaction_kept shape (error_state_terminal waits) finished
                refine one.trans (updateQueue_kept one.1 rfl rfl ?_ ?_)
                · intro item
                  exact ⟨rfl, rfl⟩
                · intro item taken settled
                  have live := (of_decide_eq_true taken).2
                  simp only [List.mem_cons, List.not_mem_nil, or_false] at live settled
                  tauto

theorem recoverStatement_kept (key : ∀ row, (set row).runId = row.runId)
    (link : ∀ row, (set row).resultSubmissionId = row.resultSubmissionId)
    (itemless : ∀ row, hit row = true → db.hasItem row.runId = false) :
    Keeps db (db.updateRuns hit set) := by
  refine updateRuns_misses shape key link ?_
  intro row _ taken has
  rw [itemless row taken] at has
  cases has

theorem recoverQueued_kept (now : ℚ) :
    Keeps db (db.recoverQueued now) := by
  refine updateRuns_kept shape ?_ ?_
  · intro row
    rfl
  · intro row _ taken _ linked
    refine ⟨?_, ?_⟩
    · unfold Linked
      rw [linked]
      rfl
    · intro safe
      have status := (of_decide_eq_true taken).1
      simp only [List.mem_cons, List.not_mem_nil, or_false] at status
      have open_ : row.status = .claimed ∨ row.status = .submitting := by
        rcases status with is | is | is
        · exact .inl is
        · exact .inr is
        · exact absurd is safe.status.2
      refine ⟨?_, .inl (safe.sent_of_open open_)⟩
      have other : ¬ (row.status = .retryWait ∧ row.retryAt.getD 0 > now) := by
        rintro ⟨is, _⟩
        exact safe.status.2 is
      rw [if_neg other]
      exact ⟨by simp, by simp⟩

theorem recoverDispatchUnknown_kept (now : ℚ) :
    Keeps db (db.recoverDispatchUnknown now) := by
  refine updateRuns_kept shape ?_ ?_
  · intro row
    rfl
  · intro row _ taken _ linked
    refine ⟨linked, ?_⟩
    intro _
    exact ⟨⟨by simp, by simp⟩, .inl (of_decide_eq_true taken).2.2.1⟩

theorem recoverOutcomeUnknown_kept (now : ℚ) :
    Keeps db (db.recoverOutcomeUnknown now) := by
  refine updateRuns_kept shape ?_ ?_
  · intro row
    rfl
  · intro row _ _ _ linked
    refine ⟨linked, ?_⟩
    intro safe
    refine ⟨⟨by simp, by simp⟩, ?_⟩
    rcases safe.sent with sent | ⟨free, _, _, none_⟩
    · exact .inl sent
    · exact .inr ⟨free, by simp, by simp, none_⟩

theorem recoverReconciledTarget_kept (now : ℚ) :
    Keeps db (db.recoverReconciledTarget now) := by
  refine recoverStatement_kept shape ?_ ?_ ?_
  · intro row
    rfl
  · intro row
    rfl
  · intro row taken
    simpa using (of_decide_eq_true taken).2.2.2.2.2.2.2

theorem recoverTargetUnknown_kept (now : ℚ) :
    Keeps db (db.recoverTargetUnknown now) := by
  refine recoverStatement_kept shape ?_ ?_ ?_
  · intro row
    rfl
  · intro row
    rfl
  · intro row taken
    simpa using (of_decide_eq_true taken).2.2.2.2.2

theorem recoverKnownTarget_kept (now : ℚ) :
    Keeps db (db.recoverKnownTarget now) := by
  refine recoverStatement_kept shape ?_ ?_ ?_
  · intro row
    rfl
  · intro row
    rfl
  · intro row taken
    simpa using (of_decide_eq_true taken).2.2.2.2.2.2

theorem recoverRetryWait_kept (now : ℚ) :
    Keeps db (db.recoverRetryWait now) := by
  refine recoverStatement_kept shape ?_ ?_ ?_
  · intro row
    rfl
  · intro row
    rfl
  · intro row taken
    simpa using (of_decide_eq_true taken).2.2.2.2

theorem recover_kept (now : ℚ) : Keeps db (recover now db) := by
  have queued := recoverQueued_kept shape now
  have unknown := queued.trans (recoverDispatchUnknown_kept queued.shape now)
  have reconciled := unknown.trans (recoverReconciledTarget_kept unknown.shape now)
  have target := reconciled.trans (recoverTargetUnknown_kept reconciled.shape now)
  have known := target.trans (recoverKnownTarget_kept target.shape now)
  have retry := known.trans (recoverRetryWait_kept known.shape now)
  have outcome := retry.trans (recoverOutcomeUnknown_kept retry.shape now)
  exact ⟨outcome.shape.of_eq rfl rfl, outcome.kept.trans (Kept.of_eq rfl rfl)⟩

theorem redrive_kept (now : ℚ) :
    Keeps db (redrive now db) := by
  refine updateRuns_misses shape ?_ ?_ ?_
  · intro row
    rfl
  · intro row
    rfl
  · intro row _ taken _ safe
    obtain ⟨status, _, _, unsent, _⟩ := of_decide_eq_true taken
    exact safe.sent_of_open (open_iff.mp status) unsent

theorem reconcile_kept (runId : String) (waiting : Bool)
    (acceptedMessageId : Option String) (now : ℚ) :
    Keeps db (reconcile runId (if waiting then .waiting else .accepted) acceptedMessageId now
      db) := by
  refine updateRuns_kept shape ?_ ?_
  · intro row
    rfl
  · intro row _ _ _ linked
    refine ⟨linked, ?_⟩
    intro safe
    refine ⟨?_, ?_⟩
    · cases waiting <;> exact ⟨by simp, by simp⟩
    · rcases safe.sent with sent | ⟨free, _, _, none_⟩
      · exact .inl sent
      · refine .inr ⟨free, ?_, ?_, none_⟩ <;> cases waiting <;> simp

end

variable {event : SubmittingEvent}

theorem submitting_kept (shape : Shape db) (done : reduceSubmitting event now db = .ok after) :
    Keeps db after := by
  have live : ∀ item : QueueItem, item.state = .localQueued →
      item.state ∉ [QueueState.cancelled, .submitted, .failed] := by
    intro item is
    rw [is]
    decide
  unfold reduceSubmitting at done
  split at done
  · cases done
    refine updateQueue_kept shape rfl rfl ?_ ?_
    · intro item
      exact ⟨rfl, rfl⟩
    · intro item taken
      have takes := (of_decide_eq_true taken).1
      exact live item (of_decide_eq_true takes).2
  · split at done
    · cases done
      exact ⟨shape, Kept.of_eq rfl rfl⟩
    · split at done
      · cases done
      · cases done
        have one : Keeps db (db.updateRuns
            (fun row => row.resultSubmissionId = some event.submissionId ∧
              row.status ∈ [.claimed, .submitting])
            fun row => { row with
              status := .submitting
              sendStartedAt := coalesce row.sendStartedAt (some event.receivedAt)
              lastProgressAt := some now
              updatedAt := now }) := by
          refine updateRuns_kept shape ?_ ?_
          · intro row
            rfl
          · intro row _ _ _ linked
            refine ⟨linked, ?_⟩
            intro _
            refine ⟨⟨by simp, by simp⟩, .inl ?_⟩
            unfold coalesce
            simp
        refine one.trans (updateQueue_kept one.1 rfl rfl ?_ ?_)
        · intro item
          exact ⟨rfl, rfl⟩
        · intro item taken
          exact live item (of_decide_eq_true taken).2

theorem accepted_kept (shape : Shape db) (event : AcceptedEvent) (now : ℚ) :
    Keeps db (reduceAccepted event now db) := by
  unfold reduceAccepted
  split
  · have one : Keeps db (db.updateRuns
        (fun row => row.resultSubmissionId = some event.submissionId ∧
          row.status ∈ [.claimed, .submitting, .accepted])
        fun row => { row with
          status := .accepted
          acceptedMessageId := coalesce row.acceptedMessageId (some event.messageId)
          acceptedAt := coalesce row.acceptedAt (some event.receivedAt)
          lastProgressAt := some now
          updatedAt := now }) := by
      refine updateRuns_kept shape ?_ ?_
      · intro row
        rfl
      · intro row _ _ _ linked
        refine ⟨linked, ?_⟩
        intro safe
        refine ⟨⟨by simp, by simp⟩, ?_⟩
        rcases safe.sent with sent | ⟨free, _, _, none_⟩
        · exact .inl sent
        · exact .inr ⟨free, by simp, by simp, none_⟩
    refine one.trans (updateQueue_kept one.1 rfl rfl ?_ ?_)
    · intro item
      exact ⟨rfl, rfl⟩
    · intro item taken settled
      have unsettled := (of_decide_eq_true taken).2
      simp only [List.mem_cons, List.not_mem_nil, or_false] at unsettled settled
      rcases unsettled with is | is | is <;> rw [is] at settled <;> simp at settled
  · exact ⟨shape, Kept.of_eq rfl rfl⟩

theorem react_kept (shape : Shape db) (event : Event) :
    Keeps db (db.react event) := by
  cases event with
  | operation operation => exact apply_kept shape operation
  | queuedError runId fenceToken error ownerId contentUnavailable now =>
    refine committed_kept shape ?_
    intro after done
    exact queuedError_kept shape done
  | submitting event now =>
    refine committed_kept shape ?_
    intro after done
    exact submitting_kept shape done
  | accepted event now => exact accepted_kept shape event now
  | recover now => exact recover_kept shape now
  | redrive now => exact redrive_kept shape now
  | reconcile runId waiting acceptedMessageId now =>
    exact reconcile_kept shape runId waiting acceptedMessageId now
  | setSubmissions submissions => exact ⟨shape.of_eq rfl rfl, Kept.of_eq rfl rfl⟩
  | setIntents intents => exact ⟨shape.of_eq rfl rfl, Kept.of_eq rfl rfl⟩
  | setDraining draining => exact ⟨shape.of_eq rfl rfl, Kept.of_eq rfl rfl⟩

/-! ## Newly dispatched runs -/

theorem Shape.run_of_item (shape : Shape db) (member : item ∈ db.queue)
    (mine : item.scheduleRunId = some runId) :
    ∃ row, db.run runId = some row ∧ row.runId = runId ∧
      row.resultSubmissionId = some item.id := by
  obtain ⟨row, found, linked⟩ := shape.linked runId (mem_hasItem.mpr ⟨item, member, mine⟩)
  have key : row.runId = runId := lookup_some_key found
  refine ⟨row, found, key, ?_⟩
  rw [linked, key, shape.own item member runId mine]

variable {w : World}

theorem submitting_dispatches (shape : Shape w.db) (tracked : Tracked w (.submitting event now))
    (new : runId ∈ w.db.dispatchedBy (.submitting event now)) :
    w.db.hasItem runId = true ∧ ∀ row, (w.db.react (.submitting event now)).run runId = some row →
      Safe (w.db.react (.submitting event now)) row := by
  simp only [Db.dispatchedBy] at new
  split at new
  · next succeeds =>
    obtain ⟨item, filtered, mine⟩ := List.mem_filterMap.mp new
    obtain ⟨member, takes⟩ := List.mem_filter.mp filtered
    obtain ⟨row, found, key, link⟩ := shape.run_of_item member mine
    have status := tracked succeeds item member takes runId mine row found
    have isId : item.id = event.submissionId := (of_decide_eq_true takes).1
    refine ⟨mem_hasItem.mpr ⟨item, member, mine⟩, ?_⟩
    unfold SubmittingEvent.succeeds at succeeds
    simp only [Bool.and_eq_true, Bool.not_eq_true', decide_eq_true_eq] at succeeds
    obtain ⟨⟨⟨drained, ready⟩, claims⟩, one⟩ := succeeds
    intro after isAfter
    unfold Db.react reduceSubmitting at isAfter
    simp only [drained, ready, claims, one, committed, Bool.false_eq_true, not_true_eq_false,
      or_self, if_false, ne_eq] at isAfter
    unfold Db.run at isAfter
    rw [lookup_updateWhere (by intro row; rfl)] at isAfter
    unfold Db.run at found
    rw [found] at isAfter
    have taken : (decide (row.resultSubmissionId = some event.submissionId ∧
        row.status ∈ [ScheduleRunState.claimed, .submitting])) = true := by
      rw [decide_eq_true_eq, open_iff]
      exact ⟨by rw [link, isId], status⟩
    simp only [Option.map_some, taken, if_true, Option.some.injEq] at isAfter
    rw [← isAfter]
    refine ⟨⟨by simp, by simp⟩, .inl ?_⟩
    unfold coalesce
    simp
  · cases new

theorem accepted_dispatches {event : AcceptedEvent} (shape : Shape w.db)
    (tracked : Tracked w (.accepted event now))
    (new : runId ∈ w.db.dispatchedBy (.accepted event now)) :
    w.db.hasItem runId = true ∧ ∀ row, (w.db.react (.accepted event now)).run runId = some row →
      Safe (w.db.react (.accepted event now)) row := by
  simp only [Db.dispatchedBy] at new
  split at new
  · next admitted =>
    obtain ⟨item, filtered, mine⟩ := List.mem_filterMap.mp new
    obtain ⟨member, queued⟩ := List.mem_filter.mp filtered
    obtain ⟨isId, isLocal⟩ := of_decide_eq_true queued
    obtain ⟨row, found, key, link⟩ := shape.run_of_item member mine
    obtain ⟨status, held⟩ := tracked admitted item member isId isLocal runId mine row found
    refine ⟨mem_hasItem.mpr ⟨item, member, mine⟩, ?_⟩
    intro after isAfter
    -- The item is the run's only one, and it is `submitted` now.
    have settled : (w.db.react (.accepted event now)).existingItem runId = none := by
      rw [existingItem_eq_none]
      unfold Db.react reduceAccepted
      simp only [admitted, if_true]
      intro other otherMember otherMine
      obtain ⟨old, oldMember, rfl⟩ := mem_updateWhere.mp otherMember
      have oldMine : old.scheduleRunId = some runId := by
        split at otherMine <;> exact otherMine
      have same : old = item := by
        have left := lookup_of_mem shape.itemIds oldMember
        have right := lookup_of_mem shape.itemIds member
        rw [shape.own old oldMember runId oldMine, ← shape.own item member runId mine, right]
          at left
        exact (Option.some.inj left).symm
      have takes : event.takes old = true := by
        unfold AcceptedEvent.takes
        rw [same, isLocal, isId]
        simp
      rw [if_pos takes]
      simp
    unfold Db.react reduceAccepted at isAfter
    simp only [admitted, if_true] at isAfter
    unfold Db.run at isAfter
    rw [lookup_updateWhere (by intro row; rfl)] at isAfter
    unfold Db.run at found
    rw [found] at isAfter
    have taken : (decide (row.resultSubmissionId = some event.submissionId ∧
        row.status ∈ [ScheduleRunState.claimed, .submitting, .accepted])) = true := by
      rw [decide_eq_true_eq]
      exact ⟨by rw [link, isId], status⟩
    simp only [Option.map_some, taken, if_true, Option.some.injEq] at isAfter
    rw [← isAfter]
    refine ⟨⟨by simp, by simp⟩, ?_⟩
    rcases held with free | sent
    · refine .inr ⟨free, by simp, by simp, ?_⟩
      rw [key]
      exact settled
    · exact .inl sent
  · cases new

/-! ## Whole runs -/

theorem step_sound (w : World) (event : Event) (v : World) (sound : Sound w)
    (tracked : Tracked w event) (taken : step w event = some v) : Sound v := by
  have keeps := react_kept sound.shape event
  cases taken
  refine ⟨keeps.shape, ?_⟩
  intro runId member
  rcases List.mem_append.mp member with new | old
  · have fresh : w.db.hasItem runId = true ∧
        ∀ row, (w.db.react event).run runId = some row → Safe (w.db.react event) row := by
      cases event with
      | submitting event now => exact submitting_dispatches sound.shape tracked new
      | accepted event now => exact accepted_dispatches sound.shape tracked new
      | operation | queuedError | recover | redrive | reconcile | setSubmissions | setIntents
      | setDraining => cases new
    exact ⟨keeps.kept.items runId fresh.1, fresh.2⟩
  · obtain ⟨has, safe⟩ := sound.safe runId old
    refine ⟨keeps.kept.items runId has, ?_⟩
    obtain ⟨row, found, linked⟩ := sound.shape.linked runId has
    obtain ⟨now, isNow, keep⟩ := keeps.kept.rows runId row found
    intro other isOther
    rw [isNow] at isOther
    rw [← Option.some.inj isOther]
    exact (keep has linked).2 (safe row found)

/-- Runs are planned, nothing is queued yet. -/
structure Fresh (w : World) : Prop where
  runIds : (w.db.runs.map RunRow.runId).Nodup
  queue : w.db.queue = []
  dispatched : w.dispatched = []

theorem Fresh.sound (fresh : Fresh w) : Sound w := by
  refine ⟨⟨fresh.runIds, ?_, ?_, ?_⟩, ?_⟩
  · simp [fresh.queue]
  · simp [fresh.queue]
  · intro runId has
    rw [mem_hasItem, fresh.queue] at has
    obtain ⟨item, member, _⟩ := has
    cases member
  · simp [fresh.dispatched]

theorem Shape.one_item (shape : Shape db) {other : QueueItem} (member : item ∈ db.queue)
    (also : other ∈ db.queue) (mine : item.scheduleRunId = some runId)
    (its : other.scheduleRunId = some runId) : item = other := by
  apply List.inj_on_of_nodup_map shape.itemIds member also
  rw [shape.own item member runId mine, shape.own other also runId its]

theorem run_keeps {v : World} {events : List Event} (shape : Shape w.db)
    (reached : run step w events = some v) : Keeps w.db v.db := by
  induction events generalizing w with
  | nil =>
    cases reached
    exact ⟨shape, .of_eq rfl rfl⟩
  | cons event events ih =>
    have one := react_kept shape event
    exact one.trans (ih one.shape reached)

/-- In every interleaving of the scheduler, the reducer and the recoveries a run has at most one
queue item, which its row names; once that item is at its end, none of the run lives again. -/
theorem run_queued_once {v u : World} {events more : List Event} (fresh : Fresh w)
    (reached : run step w events = some v) (onward : run step v more = some u)
    (member : item ∈ v.db.queue) (mine : item.scheduleRunId = some runId) :
    (∀ other ∈ v.db.queue, other.scheduleRunId = some runId → other = item) ∧
    (∃ row, v.db.run runId = some row ∧ row.resultSubmissionId = some item.id) ∧
    (item.state ∈ [QueueState.cancelled, .submitted, .failed] →
      u.db.existingItem runId = none) := by
  have shape := (run_keeps fresh.sound.shape reached).shape
  refine ⟨fun other also its => shape.one_item also member its mine, ?_, ?_⟩
  · obtain ⟨row, found, -, result⟩ := shape.run_of_item member mine
    exact ⟨row, found, result⟩
  · intro ended
    apply (run_keeps shape onward).kept.settled runId (mem_hasItem.mpr ⟨item, member, mine⟩)
    apply existingItem_eq_none.mpr
    intro other also its
    rwa [shape.one_item also member its mine]

/-- In every interleaving in which the reducer takes queue items only together with
their runs, `claim_next` returns no run whose item has left `local_queued` for
sending. -/
theorem dispatched_run_not_claimed (w : World) (events : List Event) (v : World)
    (fresh : Fresh w) (tracked : Along step Tracked w events)
    (reached : run step w events = some v) (ownerId : String) (now leaseSeconds : ℚ) (after : Db)
    (claimed : RunRow)
    (claim : claimNext ownerId now leaseSeconds v.db = .ok (after, some claimed)) :
    claimed.runId ∉ v.dispatched := by
  have sound := run_inv_along step_sound tracked fresh.sound reached
  intro dispatched
  unfold claimNext at claim
  split at claim
  · cases claim
  · split at claim
    · cases claim
    · next row first =>
      obtain ⟨selected, claimable⟩ := firstRun_selected sound.shape first
      split at claim
      · cases finished : v.db.finalizeInTransaction row.runId .failed none (some .runtime)
            (some "retry_exhausted") now none with
        | error error =>
          rw [finished] at claim
          cases claim
        | ok final =>
          rw [finished] at claim
          cases claim
      · simp only [Except.ok.injEq, Prod.mk.injEq] at claim
        have same : claimed.runId = row.runId := lookup_some_key claim.2
        rw [same] at dispatched
        exact not_safe_of_claimable claimable ((sound.safe row.runId dispatched).2 row selected)

/-- A run is planned, claimed and queued. -/
def untilQueued : List Event :=
  [.operation (.plan "run" 0 0), .operation (.claimNext "owner" 1 60),
    .operation (.markTargetStarted "run" "owner" 1 false none 2),
    .operation (.enqueue "run" "owner" 1 { threadId := "thread", sdkSessionId := "session" }
      "hash" true 3)]

def submittingEvent : SubmittingEvent :=
  { submissionId := submissionId "run", sdkSessionId := "session", receivedAt := 5 }

def untilSent : List Event :=
  untilQueued ++ [.submitting submittingEvent 5,
    .accepted ⟨submissionId "run", "session", "message", 6⟩ 6]

theorem run_queued_once_sent : ∃ v u item, run step {} untilSent = some v ∧
    run step v [.recover 100, .operation (.claimNext "other" 101 60)] = some u ∧
    item ∈ v.db.queue ∧ item.state = .submitted ∧ u.db.existingItem "run" = none := by
  have sent : ((run step {} untilSent).bind fun v => v.db.queue.head?.map fun item =>
      (item.state, item.scheduleRunId)) = some (.submitted, some "run") := by decide +kernel
  obtain ⟨v, reached, sent⟩ := Option.bind_eq_some_iff.mp sent
  obtain ⟨item, found, is⟩ := Option.map_eq_some_iff.mp sent
  simp only [Prod.mk.injEq] at is
  have onward : run step v [.recover 100, .operation (.claimNext "other" 101 60)] = some _ := rfl
  have fresh : Fresh {} := ⟨List.nodup_nil, rfl, rfl⟩
  have once := run_queued_once fresh reached onward (List.mem_of_head? found) is.2
  exact ⟨v, _, item, reached, onward, List.mem_of_head? found, is.1, once.2.2 (by simp [is.1])⟩

/-- The runs that were sent, and the run that another owner claims then. -/
def claimOutcome (events : List Event) (now : ℚ) : Option (List String × Option String) :=
  (run step {} events).map fun v => (v.dispatched,
    (claimNext "other" now 60 v.db).toOption.bind fun claim => claim.2.map (·.runId))

theorem claim_of_outcome {events : List Event} {now : ℚ} {sent : List String}
    (is : claimOutcome events now = some (sent, some runId)) :
    ∃ v after claimed, run step {} events = some v ∧
      claimNext "other" now 60 v.db = .ok (after, some claimed) ∧ v.dispatched = sent ∧
      claimed.runId = runId := by
  obtain ⟨v, reached, both⟩ := Option.map_eq_some_iff.mp is
  simp only [Prod.mk.injEq] at both
  cases claim : claimNext "other" now 60 v.db with
  | error error =>
    rw [claim] at both
    cases both.2
  | ok pair =>
    obtain ⟨after, claimed⟩ := pair
    rw [claim] at both
    cases claimed with
    | none => cases both.2
    | some claimed => exact ⟨v, after, claimed, reached, claim, both.1, Option.some.inj both.2⟩

/-- The queued submission is put to `retry_wait` and its item is sent: the run is
claimed again. -/
theorem retried_run_is_claimed_after_dispatch :
    ∃ v after claimed, run step {} (untilQueued ++
        [.queuedError "run" 1 { category := .discord, code := "source_content_unavailable"
                                retryable := true } none false 4,
          .submitting submittingEvent 5]) = some v ∧
      claimNext "other" 20 60 v.db = .ok (after, some claimed) ∧ claimed.runId ∈ v.dispatched := by
  have outcome : claimOutcome (untilQueued ++
      [.queuedError "run" 1 { category := .discord, code := "source_content_unavailable"
                              retryable := true } none false 4,
        .submitting submittingEvent 5]) 20 = some (["run"], some "run") := by decide +kernel
  obtain ⟨v, after, claimed, reached, claim, sent, isRun⟩ := claim_of_outcome outcome
  refine ⟨v, after, claimed, reached, claim, ?_⟩
  rw [isRun, sent]
  exact List.mem_singleton_self _

instance (w : World) (event : Event) : Decidable (Tracked w event) := by
  unfold Tracked
  split <;> infer_instance

/-- Two runs: the first is sent while it is submitting, the claim takes the second. -/
theorem dispatched_run_not_claimed_second :
    ∃ v after claimed, run step {} (untilQueued ++
        [.submitting submittingEvent 5, .operation (.plan "next" 6 6)]) = some v ∧
      claimNext "other" 100 60 v.db = .ok (after, some claimed) ∧ v.dispatched = ["run"] ∧
      claimed.runId ∉ v.dispatched := by
  have outcome : claimOutcome (untilQueued ++
      [.submitting submittingEvent 5, .operation (.plan "next" 6 6)]) 100 =
        some (["run"], some "next") := by decide +kernel
  obtain ⟨v, after, claimed, reached, claim, sent, -⟩ := claim_of_outcome outcome
  exact ⟨v, after, claimed, reached, claim, sent,
    dispatched_run_not_claimed {} _ v ⟨List.nodup_nil, rfl, rfl⟩ (by decide +kernel) reached
      "other" 100 60 after claimed claim⟩

end Copilotd.Guarantees.ScheduleDispatch
