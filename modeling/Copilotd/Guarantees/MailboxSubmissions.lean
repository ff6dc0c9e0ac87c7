import Mathlib.Algebra.BigOperators.Group.List.Basic
import Mathlib.Algebra.GroupWithZero.Nat
import Copilotd.Base.Pool
import Copilotd.Source.Core.Mailbox

/-!
# The futures of mailbox submissions

`submit` registers a future and then puts its item on the bounded queue.  In a run in
which no such put is cancelled while it waits for room, and in which no worker ends with a
`CancelledError`, each registered future that is not done belongs to an item that is queued,
executed or about to be put by the submission that holds the lock, and the workers get to it
(`submissions_are_served`).  A cancelled put leaves the future registered without an item
(`cancelled_put_strands_future`).  An operation that ends with a `CancelledError` is settled,
but `_run` is left while the mailbox goes on accepting.
-/
namespace Copilotd.Guarantees.MailboxSubmissions

open Base Base.Run Source.Core Source.Storage

/-! ## The worker settles what it takes -/

@[simp]
def siteRank : Site → Nat
  | .start => 10
  | .confirm | .reject => 5
  | .ambiguous | .outer => 1

/-- How far a phase is from its end at most. -/
@[simp]
def rank : Phase → Nat
  | .fenceBeforeStart => 12
  | .commit site .. => siteRank site + 1
  | .reread site .. => siteRank site
  | .fenceBeforeDispatch _ => 9
  | .operation _ => 8
  | .fenceAfterDispatch _ => 7
  | .settling .. | .discarding _ => 4
  | .draining _ => 1

/-- A stretch of a worker that is not cancelled takes back no settlement, registers nothing,
gets nearer to the end of its item, and does not end with its future open. -/
structure Serves (futures : Futures) (x : Execution) (bound : Nat) (resumed : Resumed) :
    Prop where
  done : futures.done ⊆ resumed.futures.done
  registered : resumed.futures.registered ⊆ futures.registered
  settles : resumed.phase = none → x.item.future ∈ resumed.futures.done
  nearer : ∀ phase ∈ resumed.phase, rank phase < bound
  calm : resumed.reraises = false

section Worker

variable {shared : Shared} {futures : Futures} {x : Execution} {now : ℚ} {bound : Nat}

theorem serves_finish {after : Shared} :
    Serves futures x bound { shared := after, futures := futures.finish x.mailbox x.item } where
  done := List.subset_cons_self ..
  registered := List.filter_subset_self ..
  settles := fun _ => List.mem_cons_self ..
  nearer := by simp
  calm := rfl

theorem serves_finishChecked {after : Shared} :
    Serves futures x bound
      { shared := after, futures := futures.finishChecked x.mailbox x.item } := by
  unfold Futures.finishChecked
  split
  · next done => exact ⟨List.Subset.refl _, List.Subset.refl _, fun _ => done, by simp, rfl⟩
  · exact serves_finish

theorem serves_next {after : Shared} {called : Bool} {phase : Phase} (nearer : rank phase < bound) :
    Serves futures x bound { shared := after, futures, called, phase := some phase } where
  done := List.Subset.refl _
  registered := List.Subset.refl _
  settles := by simp
  nearer := by simpa using nearer
  calm := rfl

variable {site : Site} {record : OperationRecord} {errorCode : String}

theorem finishAmbiguous_serves (late : site = .ambiguous ∨ site = .outer) (far : 2 < bound) :
    Serves futures x bound (finishAmbiguous site shared futures x record errorCode now) := by
  unfold finishAmbiguous
  split
  · exact serves_finishChecked
  · split
    · exact serves_finishChecked
    · refine serves_next ?_
      rcases late with rfl | rfl <;> exact far

theorem escape_serves (far : 2 < bound) :
    Serves futures x bound (escape shared futures x errorCode now) :=
  finishAmbiguous_serves (.inr rfl) far

theorem complete_serves (far : 2 < bound) :
    Serves futures x bound (complete shared futures x now) := by
  unfold complete
  split
  · exact escape_serves far
  · exact serves_finish

theorem raiseAt_serves (far : 1 < siteRank site → 2 < bound) :
    Serves futures x bound (raiseAt site shared futures x record errorCode now) := by
  cases site with
  | start | reject => exact escape_serves (far (by decide))
  | confirm => exact finishAmbiguous_serves (.inl rfl) (far (by decide))
  | ambiguous | outer => exact serves_finishChecked

theorem request_serves {state : OperationState} {resultRef errorCode : Option String}
    (nearer : siteRank site + 1 < bound) (far : 2 < bound) :
    Serves futures x bound
      (request site shared futures x record state resultRef errorCode now) := by
  unfold request
  split
  · exact raiseAt_serves fun _ => far
  · split
    · exact raiseAt_serves fun _ => far
    · exact serves_next nearer

theorem afterTransition_serves :
    Serves futures x (siteRank site)
      (afterTransition site shared futures x record now) := by
  unfold afterTransition
  cases site with
  | start => exact serves_next (by simp)
  | confirm =>
    dsimp only
    split
    · exact complete_serves (by decide)
    · exact serves_next (by simp)
  | reject => exact complete_serves (by decide)
  | ambiguous | outer => exact serves_finishChecked

theorem fenceLost_serves (far : 4 < bound) :
    Serves futures x bound (fenceLost shared futures x record errorCode now) := by
  unfold fenceLost
  split
  · exact serves_next far
  · exact finishAmbiguous_serves (.inl rfl) (by omega)

theorem resume_serves {outcome : Outcome} {resumed : Resumed} (alive : outcome ≠ .cancelled)
    (done : resume shared futures x outcome now = some resumed) :
    Serves futures x (rank x.phase) resumed := by
  obtain ⟨mailbox, inbox, item, phase, reraises⟩ := x
  cases phase with
  | fenceBeforeStart =>
    cases outcome with
    | fence valid =>
      cases valid <;> cases done
      · exact fenceLost_serves (by simp)
      · exact request_serves (by simp) (by simp)
    | raises errorCode =>
      cases done
      exact escape_serves (by simp)
    | cancelled => exact absurd rfl alive
    | _ => cases done
  | commit site record state posting =>
    have far : 1 < siteRank site → 2 < rank (.commit site record state posting) := by
      cases site <;> simp
    cases outcome with
    | reduce =>
      simp only [resume] at done
      split at done
      · cases done
        exact serves_next (Nat.lt_succ_self _)
      · cases done
        exact raiseAt_serves far
    | commitFails =>
      simp only [resume] at done
      split at done
      · cases done
        exact raiseAt_serves far
      · cases done
    | cancelled => exact absurd rfl alive
    | fence valid => cases valid <;> cases done
    | _ => cases done
  | reread site record state =>
    cases outcome with
    | read =>
      simp only [resume] at done
      split at done
      · cases done
        exact afterTransition_serves
      · cases done
        refine raiseAt_serves ?_
        cases site <;> simp
    | cancelled => exact absurd rfl alive
    | fence valid => cases valid <;> cases done
    | _ => cases done
  | fenceBeforeDispatch record =>
    cases outcome with
    | fence valid =>
      cases valid <;> cases done
      · exact fenceLost_serves (by simp)
      · exact serves_next (by simp)
    | raises errorCode =>
      cases done
      exact escape_serves (by simp)
    | cancelled => exact absurd rfl alive
    | _ => cases done
  | operation record =>
    cases outcome with
    | returns | defers =>
      cases done
      exact serves_next (by simp)
    | rejects errorCode =>
      cases done
      exact request_serves (by simp) (by simp)
    | raises =>
      cases done
      exact finishAmbiguous_serves (.inl rfl) (by simp)
    | cancelled => exact absurd rfl alive
    | fence valid => cases valid <;> cases done
    | _ => cases done
  | fenceAfterDispatch record =>
    cases outcome with
    | fence valid =>
      cases valid <;> cases done
      · exact finishAmbiguous_serves (.inl rfl) (by simp)
      · exact request_serves (by simp) (by simp)
    | persistenceRaises errorCode =>
      cases done
      exact finishAmbiguous_serves (.inl rfl) (by simp)
    | raises errorCode =>
      cases done
      exact escape_serves (by simp)
    | cancelled => exact absurd rfl alive
    | _ => cases done
  | settling record errorCode =>
    cases outcome with
    | settle =>
      simp only [resume] at done
      split at done
      · cases done
        exact complete_serves (by simp)
      · cases done
        exact complete_serves (by simp)
      · cases done
        exact escape_serves (by simp)
    | cancelled => exact absurd rfl alive
    | fence valid => cases valid <;> cases done
    | _ => cases done
  | discarding record =>
    cases outcome with
    | discard =>
      cases done
      exact complete_serves (by simp)
    | raises errorCode =>
      cases done
      exact escape_serves (by simp)
    | cancelled => exact absurd rfl alive
    | fence valid => cases valid <;> cases done
    | _ => cases done
  | draining record =>
    cases outcome with
    | settle =>
      simp only [resume] at done
      split at done
      · cases done
        exact serves_finishChecked
      · cases done
        exact serves_finishChecked
    | cancelled => exact absurd rfl alive
    | fence valid => cases valid <;> cases done
    | _ => cases done

theorem resume_enabled (shared : Shared) (futures : Futures) (x : Execution) (now : ℚ) :
    ∃ outcome resumed, outcome ≠ .cancelled ∧
      resume shared futures x outcome now = some resumed := by
  obtain ⟨mailbox, inbox, item, phase, reraises⟩ := x
  cases phase with
  | fenceBeforeStart | fenceBeforeDispatch | fenceAfterDispatch =>
    exact ⟨.fence false, _, nofun, rfl⟩
  | operation record => exact ⟨.returns, _, nofun, rfl⟩
  | discarding record => exact ⟨.discard, _, nofun, rfl⟩
  | commit site record state posting =>
    refine ⟨.reduce, ?_⟩
    simp only [resume]
    split
    · exact ⟨_, nofun, rfl⟩
    · exact ⟨_, nofun, rfl⟩
  | reread site record state =>
    refine ⟨.read, ?_⟩
    simp only [resume]
    split
    · exact ⟨_, nofun, rfl⟩
    · exact ⟨_, nofun, rfl⟩
  | settling record errorCode =>
    refine ⟨.settle, ?_⟩
    simp only [resume]
    split
    · exact ⟨_, nofun, rfl⟩
    · exact ⟨_, nofun, rfl⟩
    · exact ⟨_, nofun, rfl⟩
  | draining record =>
    refine ⟨.settle, ?_⟩
    simp only [resume]
    split
    · exact ⟨_, nofun, rfl⟩
    · exact ⟨_, nofun, rfl⟩

end Worker

/-! ## Owners of futures -/

/-- An item with the future is on the queue of the mailbox. -/
def InQueue (w : World) (m future : Nat) : Prop :=
  ∃ entry ∈ w.queued, entry.1 = m ∧ entry.2.future = future

/-- An item with the future is being executed. -/
def Executed (w : World) (m future : Nat) : Prop :=
  ∃ x ∈ w.executing, x.mailbox = m ∧ x.item.future = future

/-- The submission that registered the future has its item to put on the queue. -/
def BeingPut (w : World) (m future : Nat) : Prop :=
  ∃ caller ∈ w.callers, caller.mailbox = some m ∧ ∃ item, caller.phase = .putting item ∧
    item.future = future

/-- The future has an owner. -/
def Held (w : World) (m future : Nat) : Prop :=
  InQueue w m future ∨ Executed w m future ∨ BeingPut w m future

/-- Each registered future that is not done has an owner. -/
def Owned (w : World) : Prop :=
  ∀ m key future, (m, key, future) ∈ w.futures.registered → future ∉ w.futures.done →
    Held w m future

def isPutting : BeginPhase → Bool
  | .putting _ => true
  | _ => false

/-- No submission is cancelled while its put waits, and no `CancelledError` ends a worker. -/
def Spared (w : World) : Label → Prop
  | .caller index .abandon _ => ∀ caller ∈ w.callers[index]?, isPutting caller.phase = false
  | .execute _ outcome _ => outcome ≠ .cancelled
  | .workerEnds _ => False
  | _ => True

instance (w : World) (label : Label) : Decidable (Spared w label) := by
  unfold Spared
  split <;> infer_instance

/-- What a step other than a crash does to owners. -/
structure Keeps (w v : World) : Prop where
  registered : ∀ m key future, (m, key, future) ∈ v.futures.registered →
    future ∉ v.futures.done → (m, key, future) ∈ w.futures.registered ∨ Held v m future
  done : w.futures.done ⊆ v.futures.done
  held : ∀ m future, Held w m future → future ∉ v.futures.done → Held v m future

section Steps

variable {w u v : World}

theorem Keeps.owned (keeps : Keeps w v) (owned : Owned w) : Owned v := by
  intro m key future isRegistered notDone
  rcases keeps.registered m key future isRegistered notDone with old | held
  · exact keeps.held m future (owned m key future old fun done => notDone (keeps.done done)) notDone
  · exact held

theorem Keeps.trans (first : Keeps w u) (second : Keeps u v) : Keeps w v := by
  refine ⟨?_, fun _ done => second.done (first.done done), ?_⟩
  · intro m key future isRegistered notDone
    rcases second.registered m key future isRegistered notDone with old | held
    · have before : future ∉ u.futures.done := fun done => notDone (second.done done)
      rcases first.registered m key future old before with older | held
      · exact .inl older
      · exact .inr (second.held m future held notDone)
    · exact .inr held
  · intro m future held notDone
    exact second.held m future
      (first.held m future held fun done => notDone (second.done done)) notDone

theorem keeps_of (registered : v.futures.registered ⊆ w.futures.registered)
    (done : w.futures.done ⊆ v.futures.done)
    (queued : ∀ m future, InQueue w m future → future ∉ v.futures.done → Held v m future)
    (executing : ∀ m future, Executed w m future → future ∉ v.futures.done → Held v m future)
    (putting : ∀ m future, BeingPut w m future → future ∉ v.futures.done → Held v m future) :
    Keeps w v := by
  refine ⟨fun _ _ _ isRegistered _ => .inl (registered isRegistered), done, ?_⟩
  intro m future held notDone
  rcases held with inQueue | executed | beingPut
  · exact queued m future inQueue notDone
  · exact executing m future executed notDone
  · exact putting m future beingPut notDone

theorem keeps_same (futures : v.futures = w.futures) (queued : v.queued = w.queued)
    (executing : v.executing = w.executing)
    (putting : ∀ m future, BeingPut w m future → BeingPut v m future) : Keeps w v := by
  refine keeps_of ?_ ?_ ?_ ?_ ?_
  · rw [futures]
    exact List.Subset.refl _
  · rw [futures]
    exact List.Subset.refl _
  · intro m future inQueue _
    left
    unfold InQueue
    rw [queued]
    exact inQueue
  · intro m future executed _
    right
    left
    unfold Executed
    rw [executing]
    exact executed
  · intro m future beingPut _
    exact .inr (.inr (putting m future beingPut))

theorem Owned.same (owned : Owned w) (futures : v.futures = w.futures)
    (queued : v.queued = w.queued) (executing : v.executing = w.executing)
    (putting : ∀ m future, BeingPut w m future → BeingPut v m future) : Owned v :=
  (keeps_same futures queued executing putting).owned owned

variable {index : Nat}

/-- What a stretch of a worker leaves that no cancellation has reached. -/
def served (w : World) (index : Nat) (x : Execution) (resumed : Resumed) : World :=
  { w with
    shared := resumed.shared
    futures := resumed.futures
    started := if resumed.called then x.item.record.idempotencyKey :: w.started else w.started
    executing := w.executing.eraseIdx index ++
      (resumed.phase.map fun phase => { x with phase, reraises := false }).toList }

theorem keeps_served {x : Execution} {resumed : Resumed} {bound : Nat}
    (found : w.executing[index]? = some x) (serves : Serves w.futures x bound resumed) :
    Keeps w (served w index x resumed) := by
  refine keeps_of serves.registered serves.done ?_ ?_ ?_
  · exact fun m future inQueue _ => .inl inQueue
  · rintro m future ⟨other, member, isMailbox, isFuture⟩ notDone
    rcases Pool.mem_cases found member with rfl | elsewhere
    · cases phase : resumed.phase with
      | none =>
        rw [isFuture.symm] at notDone
        exact absurd (serves.settles phase) notDone
      | some next =>
        exact .inr (.inl ⟨{ other with phase := next, reraises := false },
          List.mem_append_right _ (by simp [phase]), isMailbox, isFuture⟩)
    · exact .inr (.inl ⟨other, List.mem_append_left _ elsewhere, isMailbox, isFuture⟩)
  · exact fun m future beingPut _ => .inr (.inr beingPut)

theorem keeps_take {m : Nat} {item : Item} {phase : Phase}
    (found : w.queued[index]? = some (m, item)) : Keeps w (w.takeItem index m item phase) := by
  refine keeps_of (List.Subset.refl _) (List.Subset.refl _) ?_ ?_ ?_
  · rintro n future ⟨entry, member, isMailbox, isFuture⟩ _
    rcases Pool.mem_cases found member with rfl | elsewhere
    · exact .inr
        (.inl ⟨_, List.mem_concat_self, isMailbox, isFuture⟩)
    · exact .inl ⟨entry, elsewhere, isMailbox, isFuture⟩
  · rintro n future ⟨x, member, rest⟩ _
    exact .inr (.inl ⟨x, List.mem_append_left _ member, rest⟩)
  · exact fun n future beingPut _ => .inr (.inr beingPut)

theorem keeps_drop {entry : Nat × Item} (found : w.queued[index]? = some entry) :
    Keeps w (w.dropItem index entry) := by
  have settles : entry.2.future ∈ (w.futures.finishChecked entry.1 entry.2).done ∧
      w.futures.done ⊆ (w.futures.finishChecked entry.1 entry.2).done ∧
      (w.futures.finishChecked entry.1 entry.2).registered ⊆ w.futures.registered := by
    unfold Futures.finishChecked
    split
    · next done => exact ⟨done, List.Subset.refl _, List.Subset.refl _⟩
    · exact ⟨List.mem_cons_self .., List.subset_cons_self .., List.filter_subset_self ..⟩
  refine keeps_of settles.2.2 settles.2.1 ?_ ?_ ?_
  · rintro m future ⟨other, member, isMailbox, isFuture⟩ notDone
    rcases Pool.mem_cases found member with rfl | elsewhere
    · rw [isFuture.symm] at notDone
      exact absurd settles.1 notDone
    · exact .inl ⟨other, elsewhere, isMailbox, isFuture⟩
  · exact fun m future executed _ => .inr (.inl executed)
  · exact fun m future beingPut _ => .inr (.inr beingPut)

variable {caller : Caller}

theorem keeps_erase (found : w.callers[index]? = some caller)
    (idle : isPutting caller.phase = false) :
    Keeps w { w with callers := w.callers.eraseIdx index } := by
  refine keeps_same rfl rfl rfl ?_
  rintro m future ⟨other, member, isMailbox, item, putting, isFuture⟩
  rcases Pool.mem_cases found member with rfl | elsewhere
  · rw [putting] at idle
    cases idle
  · exact ⟨other, elsewhere, isMailbox, item, putting, isFuture⟩

theorem BeingPut.append {m future : Nat} {more : List Caller} (beingPut : BeingPut w m future)
    (callers : v.callers = w.callers ++ more) : BeingPut v m future := by
  obtain ⟨caller, member, rest⟩ := beingPut
  refine ⟨caller, ?_, rest⟩
  rw [callers]
  exact List.mem_append_left _ member

theorem keeps_register {m : Nat} {key : String} {item : Item} {created : List String}
    (isMailbox : caller.mailbox = some m) (putting : caller.phase = .putting item)
    (isFuture : item.future = w.nextFuture) :
    Keeps w { w with
      created
      nextFuture := w.nextFuture + 1
      futures := { w.futures with registered := (m, key, w.nextFuture) :: w.futures.registered }
      callers := w.callers ++ [caller] } := by
  refine ⟨?_, List.Subset.refl _, ?_⟩
  · intro n other future isRegistered _
    rcases List.mem_cons.mp isRegistered with new | old
    · cases new
      exact .inr (.inr (.inr ⟨caller, List.mem_concat_self,
        isMailbox, item, putting, isFuture⟩))
    · exact .inl old
  · rintro n future (inQueue | executed | beingPut) _
    · exact .inl inQueue
    · exact .inr (.inl executed)
    · exact .inr (.inr (beingPut.append rfl))

theorem keeps_put {m : Nat} {item : Item} (found : w.callers[index]? = some caller)
    (isMailbox : caller.mailbox = some m) (putting : caller.phase = .putting item) :
    Keeps w { w with
      callers := w.callers.eraseIdx index
      queued := w.queued ++ [(m, item)] } := by
  refine keeps_of (List.Subset.refl _) (List.Subset.refl _) ?_ ?_ ?_
  · rintro n future ⟨entry, member, rest⟩ _
    exact .inl ⟨entry, List.mem_append_left _ member, rest⟩
  · exact fun n future executed _ => .inr (.inl executed)
  · rintro n future ⟨other, member, ofMailbox, its, isPutting, isFuture⟩ _
    rcases Pool.mem_cases found member with rfl | elsewhere
    · rw [putting] at isPutting
      rw [isMailbox] at ofMailbox
      cases isPutting
      cases ofMailbox
      exact .inl ⟨(m, item), List.mem_concat_self, rfl, isFuture⟩
    · exact .inr (.inr ⟨other, elsewhere, ofMailbox, its, isPutting, isFuture⟩)

theorem resumeCaller_keeps {action : CallerAction} {now : ℚ}
    (found : w.callers[index]? = some caller)
    (finishes : action = .abandon → isPutting caller.phase = false)
    (resumed : resumeCaller { w with callers := w.callers.eraseIdx index } caller action now =
      some v) : Keeps w v ∧ v.mailboxes = w.mailboxes ∧ v.executing = w.executing := by
  have erased : isPutting caller.phase = false →
      Keeps w { w with callers := w.callers.eraseIdx index } := keeps_erase found
  cases phase : caller.phase with
  | reading =>
    have idle := erased (by rw [phase]; rfl)
    cases action with
    | read contentAvailable =>
      simp only [resumeCaller, phase] at resumed
      split at resumed
      · split at resumed
        · cases resumed
          exact ⟨idle.trans (keeps_same rfl rfl rfl fun _ _ => id), rfl, rfl⟩
        · cases resumed
          exact ⟨idle, rfl, rfl⟩
      · cases resumed
        exact ⟨idle, rfl, rfl⟩
      · split at resumed
        · cases resumed
          exact ⟨idle, rfl, rfl⟩
        · cases resumed
          exact ⟨idle.trans (keeps_same rfl rfl rfl fun _ _ beingPut => beingPut.append rfl),
            rfl, rfl⟩
    | abandon =>
      simp only [resumeCaller, phase] at resumed
      cases resumed
      exact ⟨idle, rfl, rfl⟩
    | _ => simp [resumeCaller, phase] at resumed
  | committing posting =>
    have idle := erased (by rw [phase]; rfl)
    cases action with
    | reduce =>
      simp only [resumeCaller, phase] at resumed
      split at resumed
      · cases resumed
        exact ⟨idle.trans (keeps_same rfl rfl rfl fun _ _ beingPut => beingPut.append rfl),
          rfl, rfl⟩
      · cases resumed
        exact ⟨idle.trans (keeps_same rfl rfl rfl fun _ _ => id), rfl, rfl⟩
    | commitFails =>
      simp only [resumeCaller, phase] at resumed
      split at resumed
      · cases resumed
        exact ⟨idle, rfl, rfl⟩
      · cases resumed
    | abandon =>
      simp only [resumeCaller, phase] at resumed
      cases resumed
      exact ⟨idle, rfl, rfl⟩
    | _ => simp [resumeCaller, phase] at resumed
  | rereading =>
    have idle := erased (by rw [phase]; rfl)
    cases action with
    | reread =>
      simp only [resumeCaller, phase] at resumed
      split at resumed
      · cases resumed
        exact ⟨idle, rfl, rfl⟩
      · split at resumed
        · cases resumed
          exact ⟨idle.trans (keeps_same rfl rfl rfl fun _ _ => id), rfl, rfl⟩
        · next m isMailbox =>
          cases resumed
          exact ⟨idle.trans (keeps_register isMailbox rfl rfl), rfl, rfl⟩
    | abandon =>
      simp only [resumeCaller, phase] at resumed
      cases resumed
      exact ⟨idle, rfl, rfl⟩
    | _ => simp [resumeCaller, phase] at resumed
  | putting item =>
    cases action with
    | put =>
      simp only [resumeCaller, phase] at resumed
      split at resumed
      · next m isMailbox =>
        split at resumed
        · cases resumed
          exact ⟨keeps_put found isMailbox phase, rfl, rfl⟩
        · cases resumed
      · cases resumed
    | abandon =>
      have idle := finishes rfl
      rw [phase] at idle
      cases idle
    | _ => simp [resumeCaller, phase] at resumed

structure Working (w : World) : Prop where
  running : ∀ m, (w.mailboxes m).running = true → 0 < (w.mailboxes m).workers
  calm : ∀ x ∈ w.executing, x.reraises = false

theorem Working.update {m : Nat} {mailbox : Mailbox} (working : Working w)
    (executing : v.executing ⊆ w.executing)
    (mailboxes : v.mailboxes = Function.update w.mailboxes m mailbox)
    (kept : mailbox.running = true →
      (w.mailboxes m).running = true ∧ (w.mailboxes m).workers ≤ mailbox.workers) : Working v := by
  refine ⟨?_, fun x member => working.calm x (executing member)⟩
  intro n runs
  rw [mailboxes] at runs ⊢
  by_cases same : n = m
  · subst same
    rw [Function.update_self] at runs ⊢
    obtain ⟨before, fewer⟩ := kept runs
    exact Nat.lt_of_lt_of_le (working.running n before) fewer
  · rw [Function.update_of_ne same] at runs ⊢
    exact working.running n runs

theorem Working.take {m : Nat} {item : Item} {phase : Phase} (working : Working w) :
    Working (w.takeItem index m item phase) :=
  ⟨working.running, Pool.forall_push working.calm rfl⟩

theorem Working.served {x : Execution} {resumed : Resumed} (working : Working w) :
    Working (served w index x resumed) := by
  refine ⟨working.running, ?_⟩
  intro y member
  rcases List.mem_append.mp member with old | new
  · exact working.calm y (List.mem_of_mem_eraseIdx old)
  · obtain ⟨phase, _, rfl⟩ := Option.map_eq_some_iff.mp (Option.mem_toList.mp new)
    rfl

theorem step_execute {x : Execution} {resumed : Resumed} {outcome : Outcome} {now : ℚ}
    {bound : Nat} (working : Working w) (found : w.executing[index]? = some x)
    (is : resume w.shared w.futures x outcome now = some resumed)
    (serves : Serves w.futures x bound resumed) :
    step w (.execute index outcome now) = some (served w index x resumed) := by
  have quiet := working.calm x (List.mem_of_getElem? found)
  refine Option.bind_eq_some_iff.mpr ⟨x, found, Option.bind_eq_some_iff.mpr ⟨resumed, is, ?_⟩⟩
  rw [quiet, serves.calm]
  rfl

theorem step_owned {label : Label} (owned : Owned w) (working : Working w)
    (spared : Spared w label) (taken : step w label = some v) : Owned v ∧ Working v := by
  cases label with
  | start m =>
    simp only [step] at taken
    split at taken
    · cases taken
    · cases taken
      refine ⟨owned.same rfl rfl rfl fun _ _ => id, ?_, working.calm⟩
      intro n runs
      by_cases same : n = m
      · subst same
        simp [World.setMailbox]
      · simp only [World.setMailbox, Function.update_of_ne same] at runs ⊢
        exact working.running n runs
  | freeze m =>
    cases taken
    exact ⟨owned.same rfl rfl rfl fun _ _ => id,
      working.update (List.Subset.refl _) rfl fun runs => ⟨runs, le_refl _⟩⟩
  | thaw m =>
    simp only [step] at taken
    split at taken
    · cases taken
      exact ⟨owned.same rfl rfl rfl fun _ _ => id,
        working.update (List.Subset.refl _) rfl fun runs => ⟨runs, le_refl _⟩⟩
    · cases taken
  | submit m kind key inputHash allowWhenFrozen deferOnFenceLoss retainResultForReplay =>
    simp only [step] at taken
    split at taken
    · cases taken
      exact ⟨owned.same rfl rfl rfl fun _ _ beingPut => beingPut.append rfl,
        working.running, working.calm⟩
    · cases taken
  | begin inbox kind key inputHash =>
    cases taken
    exact ⟨owned.same rfl rfl rfl fun _ _ beingPut => beingPut.append rfl,
      working.running, working.calm⟩
  | caller index action now =>
    obtain ⟨caller, found, resumed⟩ := Option.bind_eq_some_iff.mp taken
    obtain ⟨keeps, mailboxes, executing⟩ := resumeCaller_keeps found (by
      rintro rfl
      exact spared caller found) resumed
    refine ⟨keeps.owned owned, ?_, ?_⟩
    · rw [mailboxes]
      exact working.running
    · rw [executing]
      exact working.calm
  | take index | deferItem index =>
    simp only [step, Option.bind_eq_bind, Option.bind_eq_some_iff] at taken
    obtain ⟨⟨m, item⟩, found, rest⟩ := taken
    split at rest
    · cases rest
      exact ⟨(keeps_take found).owned owned, working.take⟩
    · cases rest
  | workerEnds m => cases spared
  | execute index outcome now =>
    obtain ⟨x, found, rest⟩ := Option.bind_eq_some_iff.mp taken
    obtain ⟨resumed, is, _⟩ := Option.bind_eq_some_iff.mp rest
    have serves := resume_serves spared is
    rw [step_execute working found is serves] at taken
    cases taken
    exact ⟨(keeps_served found serves).owned owned, working.served⟩
  | stopItem index =>
    obtain ⟨entry, found, rest⟩ := Option.bind_eq_some_iff.mp taken
    cases rest
    exact ⟨(keeps_drop found).owned owned, working.running, working.calm⟩
  | sweep m =>
    simp only [step] at taken
    split at taken
    · cases taken
      refine ⟨(keeps_of (List.filter_subset_self ..) (List.subset_append_right ..) ?_ ?_ ?_).owned
        owned, working.update (List.Subset.refl _) rfl nofun⟩
      · exact fun n future inQueue _ => .inl inQueue
      · exact fun n future executed _ => .inr (.inl executed)
      · exact fun n future beingPut _ => .inr (.inr beingPut)
    · cases taken
  | markUnsettledUnknown m errorCode now =>
    simp only [step] at taken
    split at taken
    · cases taken
      exact ⟨owned, working⟩
    · cases taken
      exact ⟨owned.same rfl rfl rfl fun _ _ => id, working.running, working.calm⟩
  | acquire store ownerId now =>
    simp only [step] at taken
    split at taken
    · cases taken
      exact ⟨owned.same rfl rfl rfl fun _ _ => id, working.running, working.calm⟩
    · cases taken
      exact ⟨owned, working⟩
  | bind bindings =>
    cases taken
    exact ⟨owned.same rfl rfl rfl fun _ _ => id, working.running, working.calm⟩
  | reducerFails inbox =>
    cases taken
    exact ⟨owned.same rfl rfl rfl fun _ _ => id, working.running, working.calm⟩
  | crash m =>
    cases taken
    refine ⟨?_, working.update (List.filter_subset_self ..) rfl nofun⟩
    intro n key future isRegistered notDone
    obtain ⟨wasRegistered, other⟩ := List.mem_filter.mp isRegistered
    have elsewhere : n ≠ m := by simpa using other
    rcases owned n key future wasRegistered notDone with ⟨entry, member, isMailbox, rest⟩ |
      ⟨x, member, isMailbox, rest⟩ | ⟨caller, member, isMailbox, rest⟩
    · exact .inl
        ⟨entry, List.mem_filter.mpr ⟨member, by simp [isMailbox, elsewhere]⟩, isMailbox, rest⟩
    · exact .inr (.inl ⟨x, List.mem_filter.mpr ⟨member, by simp [isMailbox, elsewhere]⟩,
        isMailbox, rest⟩)
    · exact .inr (.inr ⟨caller, List.mem_filter.mpr ⟨member, by simp [isMailbox, elsewhere]⟩,
        isMailbox, rest⟩)

end Steps

/-! ## Every owner can go on -/

/-- A step of a worker that is not cancelled, or of a put that finds room. -/
def serving : Label → Bool
  | .take _ => true
  | .execute _ outcome _ => outcome ≠ .cancelled
  | .caller _ action _ => action = .put
  | _ => false

/-- What is left to do for the mailbox: an item that is put is queued, taken and executed. -/
def load (w : World) (m : Nat) : Nat :=
  14 * (w.callers.countP fun caller => caller.mailbox = some m && isPutting caller.phase) +
    13 * (w.queued.countP fun entry => entry.1 = m) +
      (w.executing.map fun x => if x.mailbox = m then rank x.phase else 0).sum

section Progress

variable {w : World} {m : Nat}

/-- A step that leaves less to do and keeps the workers. -/
def Advances (w : World) (m : Nat) : Prop :=
  ∃ label v, serving label = true ∧ step w label = some v ∧ load v m < load w m ∧ Keeps w v ∧
    Working v ∧ v.mailboxes = w.mailboxes

theorem rank_pos (phase : Phase) : 0 < rank phase := by
  cases phase with
  | reread site => cases site <;> simp
  | _ => simp

theorem advances_execute {x : Execution} (working : Working w) (member : x ∈ w.executing)
    (isMailbox : x.mailbox = m) : Advances w m := by
  obtain ⟨index, found⟩ := List.mem_iff_getElem?.mp member
  obtain ⟨outcome, resumed, alive, is⟩ := resume_enabled w.shared w.futures x 0
  have serves := resume_serves alive is
  refine ⟨.execute index outcome 0, served w index x resumed, decide_eq_true alive,
    step_execute working found is serves, ?_, keeps_served found serves, working.served, rfl⟩
  have split := ((Pool.perm_of_getElem? found).map fun x =>
    if x.mailbox = m then rank x.phase else 0).sum_nat
  rw [List.map_cons, List.sum_cons, if_pos isMailbox] at split
  unfold load served
  rw [List.map_append, List.sum_append]
  cases next : resumed.phase with
  | none =>
    have positive := rank_pos x.phase
    simp only [Option.map_none, Option.toList_none, List.map_nil, List.sum_nil]
    omega
  | some phase =>
    have nearer := serves.nearer phase next
    simp only [Option.map_some, Option.toList_some, List.map_cons, List.map_nil, List.sum_cons,
      List.sum_nil, if_pos isMailbox]
    omega

theorem exists_next {queued : List (Nat × Item)} {entry : Nat × Item} (member : entry ∈ queued)
    (isMailbox : entry.1 = m) :
    ∃ index item, nextOfMailbox queued index m = true ∧ queued[index]? = some (m, item) := by
  induction queued with
  | nil => cases member
  | cons head tail ih =>
    by_cases here : head.1 = m
    · subst here
      exact ⟨0, head.2, rfl, rfl⟩
    · rcases List.mem_cons.mp member with rfl | later
      · exact absurd isMailbox here
      · obtain ⟨index, item, before, found⟩ := ih later
        refine ⟨index + 1, item, ?_, found⟩
        unfold nextOfMailbox at before ⊢
        rw [List.take_succ_cons, List.all_cons, before, Bool.and_true]
        exact decide_eq_true here

theorem advances_take (working : Working w) (worker : w.hasIdleWorker m = true)
    {entry : Nat × Item} (member : entry ∈ w.queued) (isMailbox : entry.1 = m) :
    Advances w m := by
  obtain ⟨index, item, before, found⟩ := exists_next member isMailbox
  have taken : step w (.take index) = some (w.takeItem index m item .fenceBeforeStart) := by
    simp [step, found, before, worker]
  refine ⟨_, _, rfl, taken, ?_, keeps_take found, working.take, rfl⟩
  have split := Pool.countP_split found fun entry => decide (entry.1 = m)
  simp only [decide_true, if_true] at split
  simp only [load, World.takeItem, List.map_append, List.sum_append, List.map_cons, List.map_nil,
    List.sum_cons, List.sum_nil, if_true, rank]
  omega

theorem advances_put (working : Working w) (empty : ∀ entry ∈ w.queued, entry.1 ≠ m)
    {caller : Caller} {item : Item} (member : caller ∈ w.callers)
    (isMailbox : caller.mailbox = some m) (putting : caller.phase = .putting item) :
    Advances w m := by
  obtain ⟨index, found⟩ := List.mem_iff_getElem?.mp member
  have none_ : (w.queued.countP fun entry => entry.1 = m) = 0 := by
    rw [List.countP_eq_zero]
    intro entry inside
    simpa using empty entry inside
  have room : ({ w with callers := w.callers.eraseIdx index } : World).hasRoom m = true := by
    unfold World.hasRoom
    dsimp only
    rw [none_]
    cases (w.mailboxes m).capacity <;> simp
  have taken : step w (.caller index .put 0) = some { w with
      callers := w.callers.eraseIdx index
      queued := w.queued ++ [(m, item)] } := by
    simp [step, found, resumeCaller, putting, isMailbox, room]
  refine ⟨_, _, rfl, taken, ?_, keeps_put found isMailbox putting,
    ⟨working.running, working.calm⟩, rfl⟩
  have split := Pool.countP_split found fun caller =>
    decide (caller.mailbox = some m) && isPutting caller.phase
  have counts : (decide (caller.mailbox = some m) && isPutting caller.phase) = true := by
    simp [isMailbox, putting, isPutting]
  rw [if_pos counts] at split
  simp only [load, List.countP_append, List.countP_cons, List.countP_nil, decide_true, if_true]
  omega

theorem advances {future : Nat} (working : Working w) (workers : 0 < (w.mailboxes m).workers)
    (held : Held w m future) : Advances w m := by
  by_cases executing : ∃ x ∈ w.executing, x.mailbox = m
  · obtain ⟨x, member, isMailbox⟩ := executing
    exact advances_execute working member isMailbox
  · have idle : w.hasIdleWorker m = true := by
      have none_ : (w.executing.countP fun x => x.mailbox = m && x.byWorker) = 0 := by
        rw [List.countP_eq_zero]
        intro x member
        have other : x.mailbox ≠ m := fun same => executing ⟨x, member, same⟩
        simp [other]
      unfold World.hasIdleWorker
      rw [none_]
      exact decide_eq_true workers
    by_cases queued : ∃ entry ∈ w.queued, entry.1 = m
    · obtain ⟨entry, member, isMailbox⟩ := queued
      exact advances_take working idle member isMailbox
    · rcases held with ⟨entry, member, isMailbox, _⟩ | ⟨x, member, isMailbox, _⟩ |
        ⟨caller, member, isMailbox, item, putting, _⟩
      · exact absurd ⟨entry, member, isMailbox⟩ queued
      · exact absurd ⟨x, member, isMailbox⟩ executing
      · exact advances_put working (fun entry inside same => queued ⟨entry, inside, same⟩) member
          isMailbox putting

theorem held_resolves {future : Nat} (working : Working w)
    (workers : 0 < (w.mailboxes m).workers) (held : Held w m future) :
    ∃ labels v, (∀ label ∈ labels, serving label = true) ∧ run step w labels = some v ∧
      future ∈ v.futures.done := by
  induction left : load w m using Nat.strong_induction_on generalizing w with
  | _ n ih =>
    obtain ⟨label, v, serves, taken, less, keeps, works, mailboxes⟩ :=
      advances working workers held
    by_cases done : future ∈ v.futures.done
    · exact ⟨[label], v, by simpa using serves, run_cons_eq_some.mpr ⟨v, taken, rfl⟩, done⟩
    · obtain ⟨labels, u, serve, reached, resolved⟩ :=
        ih (load v m) (left ▸ less) works (mailboxes ▸ workers) (keeps.held m future held done) rfl
      exact ⟨label :: labels, u, by simpa using ⟨serves, serve⟩,
        run_cons_eq_some.mpr ⟨v, taken, reached⟩, resolved⟩

end Progress

/-! ## The guarantee -/

/-- The mailboxes have been built, and none has been started. -/
structure Fresh (w : World) : Prop where
  registered : w.futures.registered = []
  executing : w.executing = []
  stopped : ∀ m, (w.mailboxes m).running = false

/-- In every run whose steps meet the condition, a registered future that is not done belongs to
an item that is queued, executed or being put.  The submission that puts an item holds the lock:
when no put of the mailbox is under way, in particular when another submission looks the key up,
the item is on the queue or executed.  While the mailbox runs, its workers and the puts can resolve
the future without anybody else. -/
theorem submissions_are_served {w v : World} {labels : List Label} (fresh : Fresh w)
    (spared : Along step Spared w labels) (reached : run step w labels = some v)
    {m future : Nat} {key : String} (registered : (m, key, future) ∈ v.futures.registered)
    (notDone : future ∉ v.futures.done) :
    (InQueue v m future ∨ Executed v m future ∨ BeingPut v m future) ∧
      ((∀ caller ∈ v.callers, caller.mailbox = some m → isPutting caller.phase = false) →
        InQueue v m future ∨ Executed v m future) ∧
      ((v.mailboxes m).running = true →
        ∃ later u, (∀ label ∈ later, serving label = true) ∧ run step v later = some u ∧
          future ∈ u.futures.done) := by
  have start : Owned w ∧ Working w := by
    refine ⟨?_, ?_, ?_⟩
    · intro m key future isRegistered
      rw [fresh.registered] at isRegistered
      cases isRegistered
    · intro m runs
      rw [fresh.stopped m] at runs
      cases runs
    · intro x member
      rw [fresh.executing] at member
      cases member
  obtain ⟨owned, working⟩ : Owned v ∧ Working v :=
    run_inv_along (fun _ _ _ inv ok taken => step_owned inv.1 inv.2 ok taken) spared start reached
  have owner := owned m key future registered notDone
  refine ⟨owner, ?_, fun runs => held_resolves working (working.running m runs) owner⟩
  intro noPut
  rcases owner with inQueue | executed | ⟨caller, member, isMailbox, item, putting, _⟩
  · exact .inl inQueue
  · exact .inr executed
  · have idle := noPut caller member isMailbox
    rw [putting] at idle
    cases idle

/-- One mailbox whose queue has room for one item. -/
def smallMailbox : World :=
  { shared :=
      { sdkSessionId := "session", inboxes := fun _ => { generation := 1, fenceToken := 1 } }
    mailboxes := fun _ =>
      { inbox := 0, runtimeGeneration := 1, ownerFenceToken := 1, capacity := 1 } }

/-- One submission has filled the queue, and a second one has its item to put. -/
def untilFullQueue : List Label :=
  [.start 0, .submit 0 "send" "first" "hash" false false false,
    .caller 0 (.read true) 1, .caller 0 .reduce 2, .caller 0 .reread 3, .caller 0 .put 3,
    .submit 0 "send" "second" "hash" false false false,
    .caller 0 (.read true) 4, .caller 0 .reduce 5, .caller 0 .reread 6]

/-- The worker takes the first item, whose fence is lost, and settles it. -/
def settlesFirst : List Label :=
  [.take 0, .execute 0 (.fence false) 7, .execute 0 .reduce 8, .execute 0 .read 9]

/-- The second submission is cancelled while its put waits: its future stays registered, and
no item is left that could settle it. -/
theorem cancelled_put_strands_future :
    (∃ s ∈ run step smallMailbox untilFullQueue, step s (.caller 0 .put 7) = none) ∧
      ∃ v ∈ run step smallMailbox (untilFullQueue ++ [.caller 0 .abandon 7] ++ settlesFirst),
        (0, "second", 1) ∈ v.futures.registered ∧ 1 ∉ v.futures.done ∧
          v.queued = [] ∧ v.executing = [] ∧ v.callers = [] ∧
          (v.mailboxes 0).running = true := by
  decide +kernel

/-- The worker makes room, and the second item is queued. -/
theorem submissions_are_served_fullQueue :
    ∃ v, run step smallMailbox (untilFullQueue ++ [.take 0, .caller 0 .put 7]) = some v ∧
      (0, "second", 1) ∈ v.futures.registered ∧ (InQueue v 0 1 ∨ Executed v 0 1) := by
  have outcome : (run step smallMailbox (untilFullQueue ++ [.take 0, .caller 0 .put 7])).map
      (fun v => (v.futures.registered, v.futures.done, v.callers)) =
      some ([(0, "second", 1), (0, "first", 0)], [], []) := by decide +kernel
  obtain ⟨v, reached, fields⟩ := Option.map_eq_some_iff.mp outcome
  simp only [Prod.mk.injEq] at fields
  have registered : (0, "second", 1) ∈ v.futures.registered := by
    rw [fields.1]
    simp
  have notDone : 1 ∉ v.futures.done := by
    rw [fields.2.1]
    simp
  refine ⟨v, reached, registered, ?_⟩
  have fresh : Fresh smallMailbox := ⟨rfl, rfl, fun _ => rfl⟩
  refine (submissions_are_served fresh (by decide +kernel) reached registered notDone).2.1 ?_
  rw [fields.2.2]
  intro caller member
  cases member

end Copilotd.Guarantees.MailboxSubmissions
