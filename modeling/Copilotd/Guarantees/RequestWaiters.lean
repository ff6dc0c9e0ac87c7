import Copilotd.Guarantees.RequestScheduling

/-!
# The waiters of Discord requests

A future that `execute` waits for belongs to a queued entry or to an operation that will
settle it, as long as `close` does not cancel an operation that awaits the log of its
callback's failure (`waiters_are_held`).  `_invoke` fails the waiters only after that
await, where the path of a result settles them before; `cancelled_log_strands_waiter` is
the run in which a caller of `execute` waits for ever.
-/
namespace Copilotd.Guarantees.RequestWaiters

open Base Base.Run Base.Futures Source.DiscordRequests Guarantees.RequestScheduling

/-- An operation in this phase has its waiters to settle. -/
def unsettled : Phase → Bool
  | .created | .running | .loggingFailure _ => true
  | .loggingSuccess | .leaving | .ended => false

def pending (c : Coordinator) (waiter : Nat) : Prop := c.futures[waiter]? = some .pending

/-- The waiter belongs to a queued entry or to an operation that will settle it. -/
def HeldBy (c : Coordinator) (waiter : Nat) : Prop :=
  (∃ entry ∈ c.queue, waiter ∈ entry.waiters) ∨
    ∃ task ∈ c.activeTasks, unsettled task.phase = true ∧ waiter ∈ task.entry.waiters

/-- The failure of the callback is being logged. -/
def logsFailure : Phase → Bool
  | .loggingFailure _ => true
  | _ => false

instance (c : Coordinator) (waiter : Nat) : Decidable (pending c waiter) :=
  inferInstanceAs (Decidable (c.futures[waiter]? = some .pending))

/-- When `close` cancels the operations, none of them awaits the log of a failure with a
waiter that is not done. -/
def Uninterrupted (w : World) : Label → Prop
  | .cancelActive _ => ∀ task ∈ w.coordinator.activeTasks, logsFailure task.phase = true →
      ∀ waiter ∈ task.entry.waiters, ¬ pending w.coordinator waiter
  | _ => True

instance (w : World) (label : Label) : Decidable (Uninterrupted w label) := by
  unfold Uninterrupted
  split <;> infer_instance

/-- The invariant of the entries, the operations and the futures. -/
structure Held (c : Coordinator) : Prop where
  numbered : (c.queue.map Entry.sequence).Nodup
  issued : ∀ entry ∈ c.queue, entry.sequence ≤ c.sequence
  known : ∀ task ∈ c.activeTasks, ∀ waiter ∈ task.entry.waiters, waiter < c.futures.length
  named : ∀ entry ∈ c.queue, ∀ waiter ∈ entry.waiters, waiter < c.futures.length
  held : ∀ waiter, pending c waiter → HeldBy c waiter
  interrupted : ∀ task ∈ c.activeTasks, task.cancelRequested = true →
    logsFailure task.phase = true → ∀ waiter ∈ task.entry.waiters, ¬ pending c waiter

section Steps

variable {config : Config} {c after : Coordinator}

theorem Held.settle {names : List Nat} {outcome : Future Nat RequestError} (held : Held c)
    (done : outcome ≠ .pending) :
    Held { c with futures := settleAll names outcome c.futures } where
  numbered := held.numbered
  issued := held.issued
  known := by
    intro task member waiter isWaiter
    rw [length_settleAll]
    exact held.known task member waiter isWaiter
  named := by
    intro entry member waiter isWaiter
    rw [length_settleAll]
    exact held.named entry member waiter isWaiter
  held := fun waiter isPending => held.held waiter (pending_settleAll done isPending).1
  interrupted := fun task member requested failed waiter isWaiter isPending =>
    held.interrupted task member requested failed waiter isWaiter
      (pending_settleAll done isPending).1

theorem Held.drop {keep : Entry → Bool} (held : Held c)
    (settled :
      ∀ entry ∈ c.queue, keep entry = false → ∀ waiter ∈ entry.waiters, ¬ pending c waiter) :
    Held { c with queue := c.queue.filter keep } where
  numbered := held.numbered.sublist (List.filter_sublist.map _)
  issued := fun entry member => held.issued entry (List.mem_of_mem_filter member)
  known := held.known
  named := fun entry member => held.named entry (List.mem_of_mem_filter member)
  held := by
    intro waiter isPending
    rcases held.held waiter isPending with ⟨entry, member, isWaiter⟩ | inTask
    · by_cases kept : keep entry = true
      · exact .inl ⟨entry, List.mem_filter.mpr ⟨member, kept⟩, isWaiter⟩
      · exact absurd isPending (settled entry member (by simpa using kept) waiter isWaiter)
    · exact .inr inTask
  interrupted := held.interrupted

variable {index : Nat} {task : ActiveTask}

theorem Held.move {left : ActiveTask} (held : Held c)
    (found : c.activeTasks[index]? = some task) (same : left.entry = task.entry)
    (calm : left.cancelRequested = true → logsFailure left.phase = false)
    (settled : unsettled task.phase = true → unsettled left.phase = false →
      ∀ waiter ∈ task.entry.waiters, ¬ pending c waiter) :
    Held { c with activeTasks := c.activeTasks.set index left } := by
  refine ⟨held.numbered, held.issued, ?_, held.named, ?_, ?_⟩
  · apply Pool.forall_set found held.known
    rw [same]
    exact held.known task (Pool.mem_of_getElem? found)
  · intro waiter isPending
    rcases held.held waiter isPending with queued | ⟨other, isOther, holds, isWaiter⟩
    · exact .inl queued
    · rcases Pool.mem_cases found isOther with rfl | elsewhere
      · by_cases still : unsettled left.phase = true
        · refine .inr ⟨left, Pool.mem_set_self found left, still, ?_⟩
          rw [same]
          exact isWaiter
        · exact absurd isPending (settled holds (by simpa using still) waiter isWaiter)
      · exact .inr ⟨other, Pool.mem_set_other found left elsewhere, holds, isWaiter⟩
  · apply Pool.forall_set found held.interrupted
    intro requested failed
    rw [calm requested] at failed
    cases failed

theorem Held.erase {targets : List String} (held : Held c)
    (found : c.activeTasks[index]? = some task) (settled : unsettled task.phase = false) :
    Held { c with activeTargets := targets, activeTasks := c.activeTasks.eraseIdx index } := by
  refine ⟨held.numbered, held.issued, fun other member => held.known other
    (Pool.mem_of_mem_eraseIdx member), held.named, ?_, fun other member => held.interrupted other
    (Pool.mem_of_mem_eraseIdx member)⟩
  intro waiter isPending
  rcases held.held waiter isPending with queued | ⟨other, isOther, holds, isWaiter⟩
  · exact .inl queued
  · rcases Pool.mem_cases found isOther with rfl | elsewhere
    · rw [settled] at holds
      cases holds
    · exact .inr ⟨other, elsewhere, holds, isWaiter⟩

theorem pending_append {waiter : Nat} {futures : List (Future Nat RequestError)}
    (isPending : (futures ++ [.pending])[waiter]? = some .pending) :
    futures[waiter]? = some .pending ∨ waiter = futures.length := by
  rcases Nat.lt_or_ge waiter futures.length with inside | outside
  · rw [List.getElem?_append_left inside] at isPending
    exact .inl isPending
  · right
    obtain ⟨bound, -⟩ := List.getElem?_eq_some_iff.mp isPending
    rw [List.length_append, List.length_singleton] at bound
    omega

section

variable (held : Held c)
include held

theorem Held.enqueue {queue : List Entry} {sequence : Nat}
    (numbered : (queue.map Entry.sequence).Nodup)
    (issued : ∀ entry ∈ queue, entry.sequence ≤ sequence)
    (named : ∀ entry ∈ queue, ∀ waiter ∈ entry.waiters, waiter < c.futures.length + 1)
    (kept : ∀ entry ∈ c.queue, ∃ later ∈ queue, entry.waiters ⊆ later.waiters)
    (joined : ∃ entry ∈ queue, c.futures.length ∈ entry.waiters) :
    Held { c with queue, sequence, futures := c.futures ++ [.pending] } := by
  refine ⟨numbered, issued, ?_, ?_, ?_, ?_⟩
  · intro task member waiter isWaiter
    have old := held.known task member waiter isWaiter
    rw [List.length_append]
    omega
  · intro entry member waiter isWaiter
    have bound := named entry member waiter isWaiter
    rw [List.length_append, List.length_singleton]
    exact bound
  · intro waiter isPending
    rcases pending_append isPending with old | rfl
    · rcases held.held waiter old with ⟨entry, member, isWaiter⟩ | inTask
      · obtain ⟨later, inQueue, subset⟩ := kept entry member
        exact .inl ⟨later, inQueue, subset isWaiter⟩
      · exact .inr inTask
    · exact .inl joined
  · intro task member requested failed waiter isWaiter isPending
    rcases pending_append isPending with old | rfl
    · exact held.interrupted task member requested failed waiter isWaiter old
    · have old := held.known task member _ isWaiter
      omega

theorem Held.execute (config : Config) (request : Request) :
    Held (c.execute config request).1 := by
  unfold Coordinator.execute
  split
  · exact held
  · dsimp only
    split
    · next existing found =>
      obtain ⟨member, -⟩ := coalescibleEntry_some found
      refine held.enqueue ?_ ?_ ?_ ?_ ?_
      · rw [sequences_merge]
        exact held.numbered
      · intro entry inQueue
        obtain ⟨old, inOld, rfl⟩ := List.mem_map.mp inQueue
        split
        · exact held.issued old inOld
        · exact held.issued old inOld
      · intro entry inQueue waiter isWaiter
        obtain ⟨old, inOld, rfl⟩ := List.mem_map.mp inQueue
        have bound := held.named old inOld
        split at isWaiter
        · rcases List.mem_append.mp isWaiter with before | new
          · exact (bound waiter before).trans (Nat.lt_succ_self _)
          · rw [List.mem_singleton.mp new]
            exact Nat.lt_succ_self _
        · exact (bound waiter isWaiter).trans (Nat.lt_succ_self _)
      · intro entry inQueue
        refine ⟨_, List.mem_map_of_mem inQueue, ?_⟩
        split
        · exact List.subset_append_left ..
        · exact List.Subset.refl _
      · refine ⟨_, List.mem_map_of_mem member, ?_⟩
        rw [if_pos rfl]
        exact List.mem_concat_self
    · split
      · exact held
      · refine held.enqueue ?_ ?_ ?_ ?_ ?_
        · rw [List.map_append, List.nodup_append]
          refine ⟨held.numbered, List.nodup_singleton _, ?_⟩
          intro first inOld second isNew
          obtain ⟨entry, member, rfl⟩ := List.mem_map.mp inOld
          have old := held.issued entry member
          rw [List.mem_singleton.mp isNew]
          dsimp only
          omega
        · intro entry inQueue
          rcases List.mem_append.mp inQueue with old | new
          · exact (held.issued entry old).trans (Nat.le_succ _)
          · rw [List.mem_singleton.mp new]
        · intro entry inQueue waiter isWaiter
          rcases List.mem_append.mp inQueue with old | new
          · exact (held.named entry old waiter isWaiter).trans (Nat.lt_succ_self _)
          · rw [List.mem_singleton.mp new, List.mem_singleton] at isWaiter
            rw [isWaiter]
            exact Nat.lt_succ_self _
        · exact fun entry inQueue => ⟨entry, List.mem_append_left _ inQueue, List.Subset.refl _⟩
        · exact ⟨_, List.mem_concat_self,
            List.mem_singleton.mpr rfl⟩

theorem Held.live : Held { c with queue := c.queue.filter c.live } := by
  refine held.drop ?_
  intro entry _ dead waiter isWaiter isPending
  unfold Coordinator.live at dead
  rw [List.any_eq_false] at dead
  have cancelled := dead waiter isWaiter
  rw [show c.futures[waiter]? = some .pending from isPending] at cancelled
  simp at cancelled

theorem Held.pass {now : ℚ} {outcome : Pass}
    (passed : Passed config now c after outcome) : Held after := by
  cases passed with
  | ended => exact held
  | waits => exact held.live
  | missed open_ entry member error =>
    have settled : Held { c with
        queue := c.queue.filter c.live
        futures := settleAll entry.waiters (.exception error) c.futures } :=
      held.live.settle (by simp)
    refine settled.drop ?_
    intro other inQueue removed waiter isWaiter isPending
    have same : other.sequence = entry.sequence := by simpa using removed
    have is := List.inj_on_of_nodup_map held.live.numbered inQueue member same
    subst is
    exact (pending_settleAll (by simp) isPending).2 isWaiter
  | started open_ entry member free oldest room ready inTime =>
    have live := held.live
    refine ⟨live.numbered.sublist (List.filter_sublist.map _),
      fun other inQueue => live.issued other (List.mem_of_mem_filter inQueue), ?_,
      fun other inQueue => live.named other (List.mem_of_mem_filter inQueue), ?_, ?_⟩
    · exact Pool.forall_push held.known (live.named entry member)
    · intro waiter isPending
      rcases live.held waiter isPending with ⟨other, inQueue, isWaiter⟩ | ⟨task, isTask, rest⟩
      · by_cases same : other.sequence = entry.sequence
        · have is := List.inj_on_of_nodup_map live.numbered inQueue member same
          subst is
          exact .inr ⟨_, List.mem_concat_self, rfl, isWaiter⟩
        · exact .inl ⟨other, List.mem_filter.mpr ⟨inQueue, by simpa using same⟩, isWaiter⟩
      · exact .inr ⟨task, List.mem_append_left _ isTask, rest⟩
    · intro task isTask requested
      rcases List.mem_append.mp isTask with old | new
      · exact held.interrupted task old requested
      · rw [List.mem_singleton.mp new] at requested
        cases requested

theorem Held.finish {callbackEnd : CallbackEnd}
    (found : c.activeTasks[index]? = some task) : Held (c.finish index task callbackEnd) := by
  have settled : ∀ (outcome : Future Nat RequestError), outcome ≠ .pending → ∀ phase,
      Held { c with
        futures := settleAll task.entry.waiters outcome c.futures
        activeTasks := c.activeTasks.set index { entry := task.entry, phase } } := by
    intro outcome done phase
    have settles : Held { c with futures := settleAll task.entry.waiters outcome c.futures } :=
      held.settle done
    refine settles.move found rfl (by simp) ?_
    intro _ _ waiter isWaiter isPending
    exact (pending_settleAll done isPending).2 isWaiter
  cases callbackEnd with
  | returned value => exact settled _ (by simp) _
  | limited message => exact settled _ (by simp) _
  | cancelled => exact settled _ (by simp) _
  | raised error => exact held.move found rfl (by simp) (by simp [unsettled])

theorem Held.logged
    (found : c.activeTasks[index]? = some task) (done : c.logged index task = some after) :
    Held after := by
  unfold Coordinator.logged at done
  split at done
  · next error failed =>
    split at done
    · next requested =>
      cases done
      refine held.move found rfl (by simp) ?_
      intro _ _
      exact held.interrupted task (List.mem_of_getElem? found) requested (by rw [failed]; rfl)
    · cases done
      have settles : Held { c with
          futures := settleAll task.entry.waiters (.exception (.callback error)) c.futures } :=
        held.settle (by simp)
      refine settles.move found rfl (by simp) ?_
      intro _ _ waiter isWaiter isPending
      exact (pending_settleAll (by simp) isPending).2 isWaiter
  · next succeeded =>
    cases done
    exact held.move found rfl (by simp) (by simp [succeeded, unsettled])
  · cases done

theorem Held.leave (found : c.activeTasks[index]? = some task) (leaving : task.phase = .leaving) :
    Held (c.leave index task) := by
  unfold Coordinator.leave
  split
  · exact held.move found rfl (by simp) (by simp [leaving, unsettled])
  · exact held.erase found (by simp [leaving, unsettled])

theorem Held.sweep : Held c.sweep := by
  have settles : Held { c with
      futures := settleAll (c.queue.flatMap Entry.waiters)
        (.exception (.backpressure "Discord request coordinator stopped")) c.futures } :=
    held.settle (by simp)
  have empty : c.queue.filter (fun _ => false) = [] := List.filter_eq_nil_iff.mpr (by simp)
  unfold Coordinator.sweep
  rw [← empty]
  refine settles.drop ?_
  intro entry member _ waiter isWaiter isPending
  exact (pending_settleAll (by simp) isPending).2 (List.mem_flatMap.mpr ⟨entry, member, isWaiter⟩)

theorem Held.cancelActive (quiet : ∀ task ∈ c.activeTasks, logsFailure task.phase = true →
      ∀ waiter ∈ task.entry.waiters, ¬ pending c waiter) : Held c.cancelActive := by
  have old : ∀ task ∈ c.cancelActive.activeTasks, ∃ before ∈ c.activeTasks,
      task.entry = before.entry ∧ task.phase = before.phase := by
    intro task member
    obtain ⟨before, isBefore, rfl⟩ := List.mem_map.mp member
    refine ⟨before, isBefore, ?_⟩
    split
    · exact ⟨rfl, rfl⟩
    · exact ⟨rfl, rfl⟩
  refine ⟨held.numbered, held.issued, ?_, held.named, ?_, ?_⟩
  · intro task member
    obtain ⟨before, isBefore, sameEntry, -⟩ := old task member
    rw [sameEntry]
    exact held.known before isBefore
  · intro waiter isPending
    rcases held.held waiter isPending with queued | ⟨task, isTask, holds, isWaiter⟩
    · exact .inl queued
    · refine .inr ⟨_, List.mem_map_of_mem isTask, ?_⟩
      split
      · exact ⟨holds, isWaiter⟩
      · exact ⟨holds, isWaiter⟩
  · intro task member _ failed
    obtain ⟨before, isBefore, sameEntry, samePhase⟩ := old task member
    rw [samePhase] at failed
    rw [sameEntry]
    exact quiet before isBefore failed

theorem Held.clear (ended : c.activeTasks.all (·.phase = .ended) = true) :
    Held { c with activeTasks := [], activeTargets := [] } := by
  refine ⟨held.numbered, held.issued, by simp, held.named, ?_, by simp⟩
  intro waiter isPending
  rcases held.held waiter isPending with queued | ⟨task, isTask, holds, -⟩
  · exact .inl queued
  · have isEnded := List.all_eq_true.mp ended task isTask
    rw [decide_eq_true_eq] at isEnded
    rw [isEnded] at holds
    cases holds

end

end Steps

/-! ## Along a run -/

/-- What the calls of `close` have brought about. -/
structure Closing (w : World) : Prop where
  closing : w.closers ≠ [] → w.coordinator.closing = true
  swept : ∀ phase ∈ w.closers, phase ≠ .begun → w.coordinator.queue = []
  returned : .returned ∈ w.closers → w.coordinator.activeTasks = []

theorem step_held {config : Config} {w t : World} {label : Label} (held : Held w.coordinator)
    (quiet : Uninterrupted w label) (done : step config w label = some t) : Held t.coordinator := by
  cases label with
  | execute request =>
    have executed := held.execute config request
    unfold step at done
    dsimp only at done
    split at done
    · next is =>
      rw [is] at executed
      cases done
      exact executed
    · next is =>
      rw [is] at executed
      cases done
      exact executed
  | cancelWaiter waiter =>
    cases done
    exact held.settle (by simp)
  | work now =>
    have passed := held.pass (pass_passed config now w.coordinator)
    unfold step at done
    dsimp only at done
    split at done
    · split at done
      · next is =>
        rw [is] at passed
        cases done
        exact passed
      · next is =>
        rw [is] at passed
        cases done
        exact passed
    · cases done
  | invoke index now =>
    obtain ⟨task, found, rest⟩ := Option.bind_eq_some_iff.mp done
    split at rest
    · cases rest
      exact held.move found rfl (by simp [logsFailure]) (by simp [unsettled])
    · cases rest
  | finish index callbackEnd =>
    obtain ⟨task, found, rest⟩ := Option.bind_eq_some_iff.mp done
    split at rest
    · cases rest
      exact held.finish found
    · cases rest
  | logged index =>
    obtain ⟨task, found, rest⟩ := Option.bind_eq_some_iff.mp done
    obtain ⟨coordinator, logged, rest⟩ := Option.bind_eq_some_iff.mp rest
    cases rest
    exact held.logged found logged
  | leave index =>
    obtain ⟨task, found, rest⟩ := Option.bind_eq_some_iff.mp done
    split at rest
    · next leaving =>
      cases rest
      exact held.leave found leaving
    · cases rest
  | close =>
    cases done
    exact ⟨held.numbered, held.issued, held.known, held.named, held.held, held.interrupted⟩
  | sweep closer =>
    unfold step at done
    dsimp only at done
    split at done
    · cases done
      exact held.sweep
    · cases done
  | cancelActive closer =>
    unfold step at done
    dsimp only at done
    split at done
    · cases done
      exact held.cancelActive quiet
    · cases done
  | closed closer =>
    unfold step at done
    dsimp only at done
    split at done
    · next ended =>
      cases done
      exact held.clear ended.2
    · cases done

theorem Closing.keep {w t : World} (closing : Closing w) (closers : t.closers = w.closers)
    (stays : w.coordinator.closing = true → t.coordinator.closing = true)
    (queue : w.coordinator.closing = true → w.coordinator.queue = [] → t.coordinator.queue = [])
    (tasks : w.coordinator.closing = true → w.coordinator.activeTasks = [] →
      t.coordinator.activeTasks = []) : Closing t := by
  have begun : ∀ phase ∈ w.closers, w.coordinator.closing = true :=
    fun phase member => closing.closing (List.ne_nil_of_mem member)
  refine ⟨?_, ?_, ?_⟩ <;> rw [closers]
  · exact fun called => stays (closing.closing called)
  · intro phase member started
    exact queue (begun phase member) (closing.swept phase member started)
  · intro member
    exact tasks (begun _ member) (closing.returned member)

theorem Closing.same {w t : World} (closing : Closing w) (closers : t.closers = w.closers)
    (same : w.coordinator.closing = true → t.coordinator = w.coordinator) : Closing t := by
  apply closing.keep closers
  · intro isClosing
    rw [same isClosing]
    exact isClosing
  · intro isClosing
    rw [same isClosing]
    exact id
  · intro isClosing
    rw [same isClosing]
    exact id

theorem closing_execute {config : Config} {c : Coordinator} {request : Request}
    (closing : c.closing = true) : (c.execute config request).1 = c := by
  unfold Coordinator.execute
  rw [if_pos closing]

theorem closing_pass {config : Config} {c : Coordinator} {now : ℚ} (closing : c.closing = true) :
    (c.pass config now).1 = c := by
  unfold Coordinator.pass
  rw [if_pos closing]

theorem step_closing {config : Config} {w t : World} {label : Label} (closing : Closing w)
    (done : step config w label = some t) : Closing t := by
  -- Most steps leave the queue alone and add no operation.
  have task : ∀ {index : Nat} {task : ActiveTask}, w.coordinator.activeTasks[index]? = some task →
      w.coordinator.activeTasks ≠ [] := by
    intro index task found empty
    rw [empty] at found
    cases found
  cases label with
  | execute request =>
    unfold step at done
    dsimp only at done
    split at done
    · next found =>
      cases done
      refine closing.same rfl fun isClosing => ?_
      have is := @closing_execute config _ request isClosing
      rw [found] at is
      exact is
    · next found =>
      cases done
      refine closing.same rfl fun isClosing => ?_
      have is := @closing_execute config _ request isClosing
      rw [found] at is
      exact is
  | cancelWaiter waiter =>
    cases done
    exact closing.keep rfl id (fun _ => id) (fun _ => id)
  | work now =>
    unfold step at done
    dsimp only at done
    split at done
    · split at done
      · next found =>
        cases done
        refine closing.same rfl fun isClosing => ?_
        have is := @closing_pass config _ now isClosing
        rw [found] at is
        exact is
      · next found =>
        cases done
        refine closing.same rfl fun isClosing => ?_
        have is := @closing_pass config _ now isClosing
        rw [found] at is
        exact is
    · cases done
  | invoke index now =>
    obtain ⟨running, found, rest⟩ := Option.bind_eq_some_iff.mp done
    split at rest
    · cases rest
      exact closing.keep rfl id (fun _ => id) (fun _ empty => absurd empty (task found))
    · cases rest
  | finish index callbackEnd =>
    obtain ⟨running, found, rest⟩ := Option.bind_eq_some_iff.mp done
    split at rest
    · cases rest
      cases callbackEnd with
      | returned | limited | raised | cancelled =>
        exact closing.keep rfl id (fun _ => id) (fun _ empty => absurd empty (task found))
    · cases rest
  | logged index =>
    obtain ⟨logging, found, rest⟩ := Option.bind_eq_some_iff.mp done
    obtain ⟨coordinator, logged, rest⟩ := Option.bind_eq_some_iff.mp rest
    cases rest
    unfold Coordinator.logged at logged
    split at logged
    · split at logged
      · cases logged
        exact closing.keep rfl id (fun _ => id) (fun _ empty => absurd empty (task found))
      · cases logged
        exact closing.keep rfl id (fun _ => id) (fun _ empty => absurd empty (task found))
    · cases logged
      exact closing.keep rfl id (fun _ => id) (fun _ empty => absurd empty (task found))
    · cases logged
  | leave index =>
    obtain ⟨leaving, found, rest⟩ := Option.bind_eq_some_iff.mp done
    split at rest
    · cases rest
      unfold Coordinator.leave
      split
      · exact closing.keep rfl id (fun _ => id) (fun _ empty => absurd empty (task found))
      · exact closing.keep rfl id (fun _ => id) (fun _ empty => absurd empty (task found))
    · cases rest
  | close =>
    cases done
    refine ⟨fun _ => rfl, ?_, ?_⟩
    · intro phase member started
      rcases List.mem_append.mp member with old | new
      · exact closing.swept phase old started
      · exact absurd (List.mem_singleton.mp new) started
    · intro member
      rcases List.mem_append.mp member with old | new
      · exact closing.returned old
      · cases List.mem_singleton.mp new
  | sweep closer =>
    unfold step at done
    dsimp only at done
    split at done
    · next found =>
      cases done
      refine ⟨fun _ => closing.closing (List.ne_nil_of_mem (List.mem_of_getElem? found)),
        fun _ _ _ => rfl, ?_⟩
      intro member
      rcases List.mem_or_eq_of_mem_set member with old | new
      · exact closing.returned old
      · cases new
    · cases done
  | cancelActive closer =>
    unfold step at done
    dsimp only at done
    split at done
    · next found =>
      have isCloser := List.mem_of_getElem? found.1
      cases done
      refine ⟨fun _ => closing.closing (List.ne_nil_of_mem isCloser),
        fun _ _ _ => closing.swept _ isCloser (by simp), ?_⟩
      intro member
      rcases List.mem_or_eq_of_mem_set member with old | new
      · unfold Coordinator.cancelActive
        rw [closing.returned old]
        rfl
      · cases new
    · cases done
  | closed closer =>
    unfold step at done
    dsimp only at done
    split at done
    · next found =>
      have isCloser := List.mem_of_getElem? found.1
      cases done
      exact ⟨fun _ => closing.closing (List.ne_nil_of_mem isCloser),
        fun _ _ _ => closing.swept _ isCloser (by simp), fun _ => rfl⟩
    · cases done

/-! ## The guarantee -/

/-- In every run in which `close` cancels no operation that awaits the log of a failure, each
future that is not done is held, and none is left when a `close` has returned. -/
theorem waiters_are_held {config : Config} {labels : List Label} {w : World}
    (quiet : Along (step config) Uninterrupted {} labels)
    (reached : run (step config) {} labels = some w) :
    (∀ waiter, pending w.coordinator waiter → HeldBy w.coordinator waiter) ∧
      (.returned ∈ w.closers → ∀ waiter, ¬ pending w.coordinator waiter) := by
  have start : Held ({} : World).coordinator ∧ Closing {} := by
    refine ⟨⟨List.nodup_nil, by simp, by simp, by simp, ?_, by simp⟩, ⟨by simp, by simp, by simp⟩⟩
    intro waiter isPending
    cases isPending
  have keep : ∀ w label t, Held w.coordinator ∧ Closing w → Uninterrupted w label →
      step config w label = some t → Held t.coordinator ∧ Closing t :=
    fun _ _ _ both quiet done => ⟨step_held both.1 quiet done, step_closing both.2 done⟩
  obtain ⟨held, closing⟩ := run_inv_along keep quiet start reached
  refine ⟨held.held, ?_⟩
  intro returned waiter isPending
  rcases held.held waiter isPending with ⟨entry, member, -⟩ | ⟨task, member, -⟩
  · rw [closing.swept _ returned (by simp)] at member
    cases member
  · rw [closing.returned returned] at member
    cases member

/-- A callback raises, and `close` is called while its failure is logged or after. -/
def failing (rest : List Label) : List Label :=
  [.execute { callback := 1, targetKey := "channel:1", minInterval_nonneg := minInterval_default },
    .work 0, .invoke 0 0,
    .finish 0 (.raised "OSError")] ++ rest

theorem waiters_are_held_logged :
    ∃ w ∈ run (step {}) {}
      (failing [.logged 0, .leave 0, .close, .sweep 0, .cancelActive 0, .closed 0]),
      .returned ∈ w.closers ∧ w.coordinator.futures.length = 1 ∧
        ∀ waiter, ¬ pending w.coordinator waiter := by
  have ends : ∃ w ∈ run (step {}) {}
      (failing [.logged 0, .leave 0, .close, .sweep 0, .cancelActive 0, .closed 0]),
      .returned ∈ w.closers ∧ w.coordinator.futures.length = 1 := by
    decide +kernel
  have quiet : Along (step {}) Uninterrupted {}
      (failing [.logged 0, .leave 0, .close, .sweep 0, .cancelActive 0, .closed 0]) := by
    decide +kernel
  obtain ⟨w, reached, returned, one⟩ := ends
  exact ⟨w, reached, returned, one, (waiters_are_held quiet reached).2 returned⟩

/-- `close` cancels the log call: the waiter is not failed, and nothing is left to do it. -/
theorem cancelled_log_strands_waiter :
    ∃ w ∈ run (step {}) {}
      (failing [.close, .sweep 0, .cancelActive 0, .logged 0, .leave 0, .closed 0]),
      .returned ∈ w.closers ∧ w.coordinator.futures[0]? = some .pending ∧
        w.coordinator.queue = [] ∧ w.coordinator.activeTasks = [] := by
  decide +kernel

end Copilotd.Guarantees.RequestWaiters
