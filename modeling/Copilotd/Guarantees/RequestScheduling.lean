import Mathlib.Tactic.Linarith
import Copilotd.Base.Pool
import Copilotd.Base.Run
import Copilotd.Source.DiscordRequests

/-!
# Scheduling of Discord requests

In every interleaving of callers, worker, operations and closers: one operation per
target at a time and no more than `max_concurrency` in all, a bounded queue, starts on
one target in sequence order, spaced and before their deadlines, and one call of one
callback per started entry, the one that its merged requests select
(`coordinator_scheduling`).

The worker decides a start on its own clock read, and the callback is called in the first
step of a task that the event loop runs later.  The spacing and the deadlines are those of
the decision; `starts_are_decided_before_calls` has a late call, a close one, and an entry
whose callers are all gone.
-/
namespace Copilotd.Guarantees.RequestScheduling

open Base Base.Run Base.Dict Base.Futures Base.Rounding Source.DiscordRequests

/-! ## A pass of the worker -/

/-- What one pass of the inner loop does. -/
inductive Passed (config : Config) (now : ℚ) (c : Coordinator) : Coordinator → Pass → Prop where
  | ended (closing : c.closing = true) : Passed config now c c .ended
  | waits (open_ : c.closing = false) :
      Passed config now c { c with queue := c.queue.filter c.live } .waits
  | missed (open_ : c.closing = false) (entry : Entry) (member : entry ∈ c.queue.filter c.live)
      (error : RequestError) :
      Passed config now c { c with
        queue := (c.queue.filter c.live).filter (·.sequence ≠ entry.sequence)
        futures := settleAll entry.waiters (.exception error) c.futures } (.missed entry)
  | started (open_ : c.closing = false) (entry : Entry) (member : entry ∈ c.queue.filter c.live)
      (free : entry.request.targetKey ∉ c.activeTargets)
      (oldest : ∀ older ∈ c.queue.filter c.live,
        older.request.targetKey = entry.request.targetKey → entry.sequence ≤ older.sequence)
      (room : c.activeTasks.length < config.maxConcurrency)
      (ready : c.requestWait entry.request now ≤ 0)
      (inTime : ∀ deadline ∈ entry.request.deadline, now < deadline) :
      Passed config now c { c with
        queue := (c.queue.filter c.live).filter (·.sequence ≠ entry.sequence)
        targetLastStarted := set entry.request.targetKey now c.targetLastStarted
        activeTargets := c.activeTargets ++ [entry.request.targetKey]
        activeTasks := c.activeTasks ++ [{ entry := entry }] } (.started entry)

variable {c : Coordinator} {now : ℚ} {entry : Entry}

theorem select_some {delay : Option ℚ} (selected : c.select now = (some entry, delay)) :
    entry ∈ c.queue ∧ entry.request.targetKey ∉ c.activeTargets ∧
      (∀ older ∈ c.queue, older.request.targetKey = entry.request.targetKey →
        entry.sequence ≤ older.sequence) ∧
      c.requestWait entry.request now ≤ 0 ∧ delay = some 0 := by
  unfold Coordinator.select at selected
  dsimp only at selected
  split at selected
  · next first wait rest is =>
    cases selected
    have member : (entry, wait) ∈ ((List.insertionSort Entry.before c.heads).map fun entry =>
        (entry, c.requestWait entry.request now)).filter (·.2 ≤ 0) := by
      rw [is]
      exact List.mem_cons_self ..
    obtain ⟨inWaits, ready⟩ := List.mem_filter.mp member
    obtain ⟨head, inHeads, same⟩ := List.mem_map.mp inWaits
    cases same
    rw [List.mem_insertionSort] at inHeads
    obtain ⟨queued, isHead⟩ := List.mem_filter.mp inHeads
    simp only [Bool.and_eq_true, Bool.not_eq_true', List.contains_eq_mem, decide_eq_false_iff_not,
      List.any_eq_false, decide_eq_true_eq, not_and] at isHead
    refine ⟨queued, isHead.1, ?_, by simpa using ready, rfl⟩
    intro older inQueue sameTarget
    by_contra later
    exact isHead.2 older inQueue (by omega) sameTarget
  · cases selected

theorem pass_passed (config : Config) (now : ℚ) (c : Coordinator) :
    Passed config now c (c.pass config now).1 (c.pass config now).2 := by
  unfold Coordinator.pass
  by_cases closing : c.closing = true
  · rw [if_pos closing]
    exact .ended closing
  · have open_ : c.closing = false := by simpa using closing
    rw [if_neg closing]
    dsimp only
    split
    · exact .waits open_
    · next busy =>
      split
      · exact .waits open_
      · next entry delay selected =>
        obtain ⟨member, free, oldest, ready, rfl⟩ := select_some selected
        split
        · exact .missed open_ entry member _
        · next inTime =>
          split
          · next positive => simp at positive
          · have unmarked : c.activeTargets.contains entry.request.targetKey = false := by
              simpa using free
            rw [unmarked, if_neg (by simp)]
            refine .started open_ entry member free oldest ?_ ready ?_
            · simp only [not_or, not_le] at busy
              exact busy.2
            · intro deadline isDeadline
              rw [Option.mem_def] at isDeadline
              simpa [isDeadline] using inTime

/-! ## Merged requests -/

/-- The last terminal request if there is one, and the last request otherwise. -/
def chosen (requests : List Request) : Option Request :=
  (requests.filter Request.terminal).getLast?.or requests.getLast?

/-- The requests that were merged into an entry, in their order. -/
def mergedInto (sequence : Nat) (merged : List (Nat × Request)) : List Request :=
  (merged.filter (·.1 = sequence)).map Prod.snd

theorem mergedInto_append (sequence other : Nat) (request : Request)
    (merged : List (Nat × Request)) :
    mergedInto sequence (merged ++ [(other, request)]) =
      mergedInto sequence merged ++ if other = sequence then [request] else [] := by
  unfold mergedInto
  by_cases same : other = sequence
  · simp [same]
  · simp [same]

variable {sequence : Nat} {merged : List (Nat × Request)}

theorem mergedInto_fresh
    (fresh : ∀ pair ∈ merged, pair.1 ≠ sequence) : mergedInto sequence merged = [] := by
  unfold mergedInto
  rw [List.map_eq_nil_iff, List.filter_eq_nil_iff]
  intro pair member
  simpa using fresh pair member

theorem chosen_singleton (request : Request) : chosen [request] = some request := by
  unfold chosen
  cases terminal : request.terminal with
  | true | false => simp [terminal]

theorem chosen_append {requests : List Request} {current : Request} (request : Request)
    (is : chosen requests = some current) :
    chosen (requests ++ [request]) =
      some (if current.terminal && !request.terminal then current else request) := by
  unfold chosen at is ⊢
  rw [List.filter_append, List.getLast?_append, List.getLast?_append]
  cases terminal : request.terminal with
  | true => simp [terminal]
  | false =>
    simp only [List.filter_cons, terminal, Bool.false_eq_true, if_false, List.filter_nil,
      List.getLast?_nil, Option.none_or, List.getLast?_singleton, Option.some_or, Bool.not_false,
      Bool.and_true]
    cases last : (requests.filter Request.terminal).getLast? with
    | some chosen =>
      rw [last, Option.some_or] at is
      cases is
      have isTerminal := (List.mem_filter.mp (List.mem_of_getLast? last)).2
      simp [isTerminal]
    | none =>
      rw [last, Option.none_or] at is
      rw [List.getLast?_eq_none_iff, List.filter_eq_nil_iff] at last
      have notTerminal := last current (List.mem_of_getLast? is)
      simp [notTerminal]

/-! ## The invariant -/

/-- The entry of an active operation, and whether its callback is still to be called. -/
def shape (task : ActiveTask) : Entry × Bool := (task.entry, task.phase = .created)

def shapes (c : Coordinator) : List (Entry × Bool) := c.activeTasks.map shape

/-- The queue is in sequence order and bounded, and each entry holds the request that its
merged requests select. -/
structure Queued (config : Config) (targetOf : String → String) (queue : List Entry)
    (sequence : Nat) (merged : List (Nat × Request)) : Prop where
  sorted : (queue.map Entry.sequence).Pairwise (· < ·)
  issued : ∀ entry ∈ queue, entry.sequence ≤ sequence
  bounded : queue.length ≤ config.queueLimit
  named : ∀ entry ∈ queue, ∀ key ∈ entry.request.coalesceKey, entry.request.targetKey = targetOf key
  chosen : ∀ entry ∈ queue, chosen (mergedInto entry.sequence merged) = some entry.request
  logged : ∀ pair ∈ merged, pair.1 ≤ sequence

/-- Two starts on one target are in sequence order and far enough apart, as far as doubles tell. -/
def Spaced (first second : Start) : Prop :=
  first.request.targetKey = second.request.targetKey →
    first.sequence < second.sequence ∧
      roundDouble (first.startedAt + second.request.minInterval) ≤ second.startedAt

/-- What the worker has started is out of the queue, ahead of what it holds. -/
structure Dispatched (w : World) : Prop where
  issued : ∀ start ∈ w.dispatched, start.sequence ≤ w.coordinator.sequence
  past : ∀ start ∈ w.dispatched, start.startedAt ≤ w.clock
  ahead : ∀ start ∈ w.dispatched, ∀ entry ∈ w.coordinator.queue,
    start.sequence ≠ entry.sequence ∧
      (start.request.targetKey = entry.request.targetKey → start.sequence < entry.sequence)
  spaced : w.dispatched.Pairwise Spaced
  distinct : (w.dispatched.map Start.sequence).Nodup
  inTime : ∀ start ∈ w.dispatched, ∀ deadline ∈ start.request.deadline, start.startedAt < deadline
  chosen : ∀ start ∈ w.dispatched,
    chosen (mergedInto start.sequence w.merged) = some start.request
  recorded : ∀ start ∈ w.dispatched, ∃ last,
    get start.request.targetKey w.coordinator.targetLastStarted = some last ∧ start.startedAt ≤ last

/-- The active operations have targets of their own and are the latest ones of these. -/
structure Active (config : Config) (w : World) : Prop where
  targets : ((shapes w.coordinator).map (·.1.request.targetKey)).Nodup
  sequences : ((shapes w.coordinator).map (·.1.sequence)).Nodup
  marked : ∀ operation ∈ shapes w.coordinator,
    operation.1.request.targetKey ∈ w.coordinator.activeTargets
  bounded : (shapes w.coordinator).length ≤ config.maxConcurrency
  latest : ∀ operation ∈ shapes w.coordinator, ∀ start ∈ w.dispatched,
    start.request.targetKey = operation.1.request.targetKey → start.sequence ≤ operation.1.sequence
  started : ∀ operation ∈ shapes w.coordinator, ∃ start ∈ w.dispatched,
    start.sequence = operation.1.sequence ∧ start.request = operation.1.request
  uncalled : ∀ operation ∈ shapes w.coordinator, operation.2 = true →
    ∀ call ∈ w.invoked, call.sequence ≠ operation.1.sequence

/-- The callbacks are those of the starts, called once and in their order. -/
structure Invoked (w : World) : Prop where
  started : ∀ call ∈ w.invoked, ∃ start ∈ w.dispatched, start.sequence = call.sequence ∧
    start.request = call.request ∧ start.startedAt ≤ call.startedAt
  ordered : w.invoked.Pairwise fun first second =>
    first.request.targetKey = second.request.targetKey → first.sequence < second.sequence
  distinct : (w.invoked.map Start.sequence).Nodup
  called : ∀ start ∈ w.dispatched, (∃ call ∈ w.invoked, call.sequence = start.sequence) ∨
    ∃ operation ∈ shapes w.coordinator, operation.2 = true ∧ operation.1.sequence = start.sequence

structure Ordered (config : Config) (targetOf : String → String) (w : World) : Prop where
  queued : Queued config targetOf w.coordinator.queue w.coordinator.sequence w.merged
  dispatched : Dispatched w
  active : Active config w
  invoked : Invoked w

section Steps

variable {config : Config} {targetOf : String → String} {w t : World}

variable {queue : List Entry}

theorem Queued.sublist {shorter : List Entry}
    (queued : Queued config targetOf queue sequence merged) (sublist : shorter.Sublist queue) :
    Queued config targetOf shorter sequence merged where
  sorted := queued.sorted.sublist (sublist.map Entry.sequence)
  issued := fun entry member => queued.issued entry (sublist.subset member)
  bounded := sublist.length_le.trans queued.bounded
  named := fun entry member => queued.named entry (sublist.subset member)
  chosen := fun entry member => queued.chosen entry (sublist.subset member)
  logged := queued.logged

/-- The parts that only submissions, starts and calls change. -/
structure SameLogs (w t : World) : Prop where
  sequence : t.coordinator.sequence = w.coordinator.sequence
  lastStarted : t.coordinator.targetLastStarted = w.coordinator.targetLastStarted
  merged : t.merged = w.merged
  dispatched : t.dispatched = w.dispatched
  invoked : t.invoked = w.invoked

theorem Dispatched.shrink (dispatched : Dispatched w) (same : SameLogs w t)
    (shorter : t.coordinator.queue.Sublist w.coordinator.queue) (later : w.clock ≤ t.clock) :
    Dispatched t := by
  obtain ⟨issued, past, ahead, spaced, distinct, inTime, chosen, recorded⟩ := dispatched
  rw [← same.dispatched] at issued past ahead spaced distinct inTime chosen recorded
  rw [← same.sequence] at issued
  rw [← same.merged] at chosen
  rw [← same.lastStarted] at recorded
  exact ⟨issued, fun start member => (past start member).trans later,
    fun start member entry queued => ahead start member entry (shorter.subset queued),
    spaced, distinct, inTime, chosen, recorded⟩

theorem Ordered.quiet (ordered : Ordered config targetOf w) (same : SameLogs w t)
    (shorter : t.coordinator.queue.Sublist w.coordinator.queue) (later : w.clock ≤ t.clock)
    (targets : t.coordinator.activeTargets = w.coordinator.activeTargets)
    (operations : shapes t.coordinator = shapes w.coordinator) : Ordered config targetOf t := by
  obtain ⟨queued, dispatched, active, invoked⟩ := ordered
  refine ⟨?_, dispatched.shrink same shorter later, ?_, ?_⟩
  · rw [same.sequence, same.merged]
    exact queued.sublist shorter
  · obtain ⟨distinct, sequences, marked, bounded, latest, started, uncalled⟩ := active
    rw [← operations] at distinct sequences marked bounded latest started uncalled
    rw [← targets] at marked
    rw [← same.dispatched] at latest started
    rw [← same.invoked] at uncalled
    exact ⟨distinct, sequences, marked, bounded, latest, started, uncalled⟩
  · obtain ⟨started, order, distinct, called⟩ := invoked
    rw [← same.invoked] at started order distinct called
    rw [← same.dispatched] at started called
    rw [← operations] at called
    exact ⟨started, order, distinct, called⟩

theorem Queued.entry_unique
    (queued : Queued config targetOf queue sequence merged) {first second : Entry}
    (one : first ∈ queue) (two : second ∈ queue) (same : first.sequence = second.sequence) :
    first = second :=
  List.inj_on_of_nodup_map (queued.sorted.imp fun less => less.ne) one two same

theorem sequences_merge (queue : List Entry) (existing : Entry) (request : Request) (waiter : Nat) :
    (queue.map fun entry => if entry.sequence = existing.sequence then entry.merge request waiter
      else entry).map Entry.sequence = queue.map Entry.sequence := by
  rw [List.map_map]
  apply List.map_congr_left
  intro entry _
  simp only [Function.comp_apply]
  split
  · rfl
  · rfl

variable {request : Request}

theorem Queued.merge_kept {existing : Entry} {waiter : Nat} {key : String}
    (queued : Queued config targetOf queue sequence merged) (member : existing ∈ queue)
    (joined : existing.request.coalesceKey = some key) (own : request.coalesceKey = some key)
    (named : ∀ key ∈ request.coalesceKey, request.targetKey = targetOf key)
    (inQueue : entry ∈ queue.map fun entry =>
      if entry.sequence = existing.sequence then entry.merge request waiter else entry) :
    ∃ old ∈ queue, entry.sequence = old.sequence ∧
      entry.request.targetKey = old.request.targetKey ∧
      entry = if old.sequence = existing.sequence then old.merge request waiter else old := by
  obtain ⟨old, inOld, rfl⟩ := List.mem_map.mp inQueue
  refine ⟨old, inOld, ?_, ?_, rfl⟩
  · split
    · rfl
    · rfl
  · split
    · next same =>
      have is := queued.entry_unique inOld member same
      subst is
      have target : request.targetKey = old.request.targetKey := by
        rw [named key own, queued.named old inOld key joined]
      unfold Entry.merge
      split
      · rfl
      · exact target
    · rfl

theorem Queued.merge {existing : Entry} {waiter : Nat} {key : String}
    (queued : Queued config targetOf queue sequence merged) (member : existing ∈ queue)
    (joined : existing.request.coalesceKey = some key) (own : request.coalesceKey = some key)
    (named : ∀ key ∈ request.coalesceKey, request.targetKey = targetOf key) :
    Queued config targetOf (queue.map fun entry =>
      if entry.sequence = existing.sequence then entry.merge request waiter else entry) sequence
      (merged ++ [(existing.sequence, request)]) := by
  refine ⟨?_, ?_, ?_, ?_, ?_, ?_⟩
  · rw [sequences_merge]
    exact queued.sorted
  · intro entry inQueue
    obtain ⟨old, inOld, same, -, -⟩ := queued.merge_kept member joined own named inQueue
    rw [same]
    exact queued.issued old inOld
  · rw [List.length_map]
    exact queued.bounded
  · intro entry inQueue name isName
    obtain ⟨old, inOld, -, target, is⟩ := queued.merge_kept member joined own named inQueue
    rw [is] at isName
    split at isName
    · next same =>
      have isExisting := queued.entry_unique inOld member same
      subst isExisting
      have isKey : name = key := by
        unfold Entry.merge at isName
        split at isName
        · rw [joined] at isName
          exact (Option.some.inj isName).symm
        · rw [own] at isName
          exact (Option.some.inj isName).symm
      rw [target, isKey]
      exact queued.named old inOld key joined
    · rw [target]
      exact queued.named old inOld name isName
  · intro entry inQueue
    obtain ⟨old, inOld, same, -, is⟩ := queued.merge_kept member joined own named inQueue
    rw [mergedInto_append, same]
    by_cases isOwn : existing.sequence = old.sequence
    · rw [if_pos isOwn, chosen_append request (queued.chosen old inOld), is, if_pos isOwn.symm]
      rfl
    · rw [if_neg isOwn, List.append_nil, is, if_neg (Ne.symm isOwn)]
      exact queued.chosen old inOld
  · exact Pool.forall_push queued.logged (queued.issued existing member)

theorem mergedInto_old {last : Nat} (old : sequence ≤ last) :
    mergedInto sequence (merged ++ [(last + 1, request)]) = mergedInto sequence merged := by
  rw [mergedInto_append, if_neg (by omega), List.append_nil]

theorem Queued.append {waiter : Nat} (queued : Queued config targetOf queue sequence merged)
    (named : ∀ key ∈ request.coalesceKey, request.targetKey = targetOf key)
    (room : queue.length < config.queueLimit) :
    Queued config targetOf
      (queue ++ [{ sequence := sequence + 1, request, waiters := [waiter] }]) (sequence + 1)
      (merged ++ [(sequence + 1, request)]) := by
  refine ⟨?_, ?_, ?_, ?_, ?_, ?_⟩
  · rw [List.map_append, List.pairwise_append]
    refine ⟨queued.sorted, List.pairwise_singleton .., ?_⟩
    intro first inOld second isNew
    obtain ⟨entry, member, rfl⟩ := List.mem_map.mp inOld
    have old := queued.issued entry member
    rw [List.mem_singleton.mp isNew]
    dsimp only
    omega
  · intro entry member
    rcases List.mem_append.mp member with old | new
    · exact (queued.issued entry old).trans (Nat.le_succ _)
    · rw [List.mem_singleton.mp new]
  · rw [List.length_append, List.length_singleton]
    omega
  · exact Pool.forall_push queued.named named
  · intro entry member
    rcases List.mem_append.mp member with old | new
    · rw [mergedInto_old (queued.issued entry old)]
      exact queued.chosen entry old
    · have unused : mergedInto (sequence + 1) merged = [] := by
        apply mergedInto_fresh
        intro pair inMerged
        have old := queued.logged pair inMerged
        omega
      rw [List.mem_singleton.mp new]
      rw [mergedInto_append, unused, if_pos rfl]
      exact chosen_singleton request
  · intro pair member
    rcases List.mem_append.mp member with old | new
    · exact (queued.logged pair old).trans (Nat.le_succ _)
    · rw [List.mem_singleton.mp new]

theorem coalescibleEntry_some {coalesceKey : Option String} {existing : Entry}
    (found : c.coalescibleEntry coalesceKey = some existing) :
    existing ∈ c.queue ∧ ∃ key, coalesceKey = some key ∧
      existing.request.coalesceKey = some key := by
  cases coalesceKey with
  | none => cases found
  | some key =>
    have holds := List.find?_some found
    rw [Bool.and_eq_true, decide_eq_true_eq] at holds
    exact ⟨List.mem_of_find?_eq_some found, key, rfl, holds.1⟩

/-- A submission merges a request, appends an entry or is refused. -/
theorem Ordered.execute (ordered : Ordered config targetOf w)
    (named : ∀ key ∈ request.coalesceKey, request.targetKey = targetOf key)
    (done : step config w (.execute request) = some t) : Ordered config targetOf t := by
  obtain ⟨queued, dispatched, active, invoked⟩ := ordered
  obtain ⟨issued, past, ahead, spaced, distinct, inTime, chosen, recorded⟩ := dispatched
  have refused : Ordered config targetOf w :=
    ⟨queued, ⟨issued, past, ahead, spaced, distinct, inTime, chosen, recorded⟩, active, invoked⟩
  unfold step Coordinator.execute at done
  dsimp only at done
  by_cases closing : w.coordinator.closing = true
  · rw [if_pos closing] at done
    cases done
    exact refused
  rw [if_neg closing] at done
  cases found : w.coordinator.coalescibleEntry request.coalesceKey with
  | some existing =>
    rw [found] at done
    cases done
    obtain ⟨member, key, own, joined⟩ := coalescibleEntry_some found
    refine ⟨queued.merge member joined own named, ⟨issued, past, ?_, spaced, distinct, inTime, ?_,
      recorded⟩, ⟨active.targets, active.sequences, active.marked, active.bounded, active.latest,
      active.started, active.uncalled⟩, ⟨invoked.started, invoked.ordered, invoked.distinct,
      invoked.called⟩⟩
    · intro start isStart entry inQueue
      obtain ⟨old, inOld, same, sameTarget, -⟩ := queued.merge_kept member joined own named inQueue
      rw [same, sameTarget]
      exact ahead start isStart old inOld
    · intro start isStart
      have apart := (ahead start isStart existing member).1
      rw [mergedInto_append, if_neg (Ne.symm apart), List.append_nil]
      exact chosen start isStart
  | none =>
    rw [found] at done
    by_cases full : w.coordinator.queue.length ≥ config.queueLimit
    · rw [if_pos full] at done
      cases done
      exact refused
    rw [if_neg full] at done
    cases done
    refine ⟨queued.append named (by omega), ⟨?_, past, ?_, spaced, distinct, inTime, ?_, recorded⟩,
      ⟨active.targets, active.sequences, active.marked, active.bounded, active.latest,
        active.started, active.uncalled⟩, ⟨invoked.started, invoked.ordered, invoked.distinct,
        invoked.called⟩⟩
    · intro start isStart
      exact (issued start isStart).trans (Nat.le_succ _)
    · intro start isStart entry member
      rcases List.mem_append.mp member with old | new
      · exact ahead start isStart entry old
      · have old := issued start isStart
        rw [List.mem_singleton.mp new]
        dsimp only
        exact ⟨by omega, fun _ => by omega⟩
    · intro start isStart
      rw [mergedInto_old (issued start isStart)]
      exact chosen start isStart

theorem startedAt_of_ready {last : ℚ} (ready : c.requestWait request now ≤ 0)
    (recorded : get request.targetKey c.targetLastStarted = some last) :
    roundDouble (last + request.minInterval) ≤ now := by
  unfold Coordinator.requestWait at ready
  rw [recorded] at ready
  exact sub_nonpos.mp (roundDouble_nonpos.mp ((le_max_right ..).trans ready))

theorem Dispatched.start {operations : List ActiveTask}
    {targets : List String} (dispatched : Dispatched w)
    (queued : Queued config targetOf w.coordinator.queue w.coordinator.sequence w.merged)
    (member : entry ∈ w.coordinator.queue.filter w.coordinator.live)
    (oldest : ∀ older ∈ w.coordinator.queue.filter w.coordinator.live,
      older.request.targetKey = entry.request.targetKey → entry.sequence ≤ older.sequence)
    (ready : w.coordinator.requestWait entry.request now ≤ 0)
    (inTime : ∀ deadline ∈ entry.request.deadline, now < deadline) (later : w.clock ≤ now) :
    Dispatched { w with
      coordinator := { w.coordinator with
        queue := (w.coordinator.queue.filter w.coordinator.live).filter
          (·.sequence ≠ entry.sequence)
        targetLastStarted := set entry.request.targetKey now w.coordinator.targetLastStarted
        activeTargets := targets
        activeTasks := operations }
      clock := now
      dispatched := w.dispatched ++
        [{ sequence := entry.sequence, request := entry.request, startedAt := now }] } := by
  have inQueue := List.mem_of_mem_filter member
  refine ⟨?_, ?_, ?_, ?_, ?_, ?_, ?_, ?_⟩
  · exact Pool.forall_push dispatched.issued (queued.issued entry inQueue)
  · intro start isStart
    rcases List.mem_append.mp isStart with old | new
    · exact (dispatched.past start old).trans later
    · rw [List.mem_singleton.mp new]
  · intro start isStart other left
    obtain ⟨live, apart⟩ := List.mem_filter.mp left
    rcases List.mem_append.mp isStart with old | new
    · exact dispatched.ahead start old other (List.mem_of_mem_filter live)
    · rw [List.mem_singleton.mp new]
      have distinct : entry.sequence ≠ other.sequence := by
        rw [decide_eq_true_eq] at apart
        exact apart.symm
      refine ⟨distinct, ?_⟩
      intro same
      exact lt_of_le_of_ne (oldest other live same.symm) distinct
  · rw [List.pairwise_append]
    refine ⟨dispatched.spaced, List.pairwise_singleton .., ?_⟩
    intro first isStart second isNew sameTarget
    rw [List.mem_singleton.mp isNew] at sameTarget ⊢
    dsimp only at sameTarget ⊢
    obtain ⟨last, recorded, past⟩ := dispatched.recorded first isStart
    rw [sameTarget] at recorded
    have wait := startedAt_of_ready ready recorded
    refine ⟨(dispatched.ahead first isStart entry inQueue).2 sameTarget, ?_⟩
    exact (roundDouble_mono (add_le_add_left past _)).trans wait
  · rw [List.map_append, List.nodup_append]
    refine ⟨dispatched.distinct, List.nodup_singleton _, ?_⟩
    intro first inOld second isNew
    obtain ⟨start, isStart, rfl⟩ := List.mem_map.mp inOld
    rw [List.mem_singleton.mp isNew]
    exact (dispatched.ahead start isStart entry inQueue).1
  · exact Pool.forall_push dispatched.inTime inTime
  · exact Pool.forall_push dispatched.chosen (queued.chosen entry inQueue)
  · intro start isStart
    rw [get_set]
    by_cases same : start.request.targetKey = entry.request.targetKey
    · rw [if_pos same]
      refine ⟨now, rfl, ?_⟩
      rcases List.mem_append.mp isStart with old | new
      · exact (dispatched.past start old).trans later
      · rw [List.mem_singleton.mp new]
    · rw [if_neg same]
      rcases List.mem_append.mp isStart with old | new
      · exact dispatched.recorded start old
      · rw [List.mem_singleton.mp new] at same
        exact absurd rfl same

theorem Ordered.start (ordered : Ordered config targetOf w)
    (member : entry ∈ w.coordinator.queue.filter w.coordinator.live)
    (free : entry.request.targetKey ∉ w.coordinator.activeTargets)
    (oldest : ∀ older ∈ w.coordinator.queue.filter w.coordinator.live,
      older.request.targetKey = entry.request.targetKey → entry.sequence ≤ older.sequence)
    (room : w.coordinator.activeTasks.length < config.maxConcurrency)
    (ready : w.coordinator.requestWait entry.request now ≤ 0)
    (inTime : ∀ deadline ∈ entry.request.deadline, now < deadline) (later : w.clock ≤ now) :
    Ordered config targetOf { w with
      coordinator := { w.coordinator with
        queue := (w.coordinator.queue.filter w.coordinator.live).filter
          (·.sequence ≠ entry.sequence)
        targetLastStarted := set entry.request.targetKey now w.coordinator.targetLastStarted
        activeTargets := w.coordinator.activeTargets ++ [entry.request.targetKey]
        activeTasks := w.coordinator.activeTasks ++ [{ entry := entry }] }
      clock := now
      dispatched := w.dispatched ++
        [{ sequence := entry.sequence, request := entry.request, startedAt := now }] } := by
  obtain ⟨queued, dispatched, active, invoked⟩ := ordered
  have inQueue := List.mem_of_mem_filter member
  have operations : (w.coordinator.activeTasks ++ [({ entry := entry } : ActiveTask)]).map shape =
      shapes w.coordinator ++ [(entry, true)] := by
    rw [List.map_append]
    rfl
  have notFree : ∀ operation ∈ shapes w.coordinator,
      operation.1.request.targetKey ≠ entry.request.targetKey := by
    intro operation isActive same
    exact free (same ▸ active.marked operation isActive)
  refine ⟨queued.sublist (List.filter_sublist.trans List.filter_sublist),
    dispatched.start queued member oldest ready inTime later, ?_, ?_⟩
  · refine ⟨?_, ?_, ?_, ?_, ?_, ?_, ?_⟩ <;> unfold shapes <;> dsimp only <;> rw [operations]
    · rw [List.map_append, List.nodup_append]
      refine ⟨active.targets, List.nodup_singleton _, ?_⟩
      intro first inOld second isNew
      obtain ⟨operation, isActive, rfl⟩ := List.mem_map.mp inOld
      rw [List.mem_singleton.mp isNew]
      exact notFree operation isActive
    · rw [List.map_append, List.nodup_append]
      refine ⟨active.sequences, List.nodup_singleton _, ?_⟩
      intro first inOld second isNew
      obtain ⟨operation, isActive, rfl⟩ := List.mem_map.mp inOld
      obtain ⟨start, isStart, same, -⟩ := active.started operation isActive
      rw [List.mem_singleton.mp isNew, ← same]
      exact (dispatched.ahead start isStart entry inQueue).1
    · intro operation isActive
      rcases List.mem_append.mp isActive with old | new
      · exact List.mem_append_left _ (active.marked operation old)
      · rw [List.mem_singleton.mp new]
        simp
    · unfold shapes
      rw [List.length_append, List.length_map, List.length_singleton]
      omega
    · intro operation isActive start isStart same
      rcases List.mem_append.mp isActive with old | new
      · rcases List.mem_append.mp isStart with before | now_
        · exact active.latest operation old start before same
        · rw [List.mem_singleton.mp now_] at same
          exact absurd same.symm (notFree operation old)
      · rw [List.mem_singleton.mp new] at same ⊢
        rcases List.mem_append.mp isStart with before | now_
        · exact ((dispatched.ahead start before entry inQueue).2 same).le
        · rw [List.mem_singleton.mp now_]
    · intro operation isActive
      rcases List.mem_append.mp isActive with old | new
      · obtain ⟨start, isStart, same⟩ := active.started operation old
        exact ⟨start, List.mem_append_left _ isStart, same⟩
      · rw [List.mem_singleton.mp new]
        exact ⟨_, List.mem_concat_self, rfl, rfl⟩
    · intro operation isActive uncalled call isCall
      rcases List.mem_append.mp isActive with old | new
      · exact active.uncalled operation old uncalled call isCall
      · rw [List.mem_singleton.mp new]
        obtain ⟨start, isStart, same, -⟩ := invoked.started call isCall
        rw [← same]
        exact (dispatched.ahead start isStart entry inQueue).1
  · refine ⟨?_, invoked.ordered, invoked.distinct, ?_⟩
    · intro call isCall
      obtain ⟨start, isStart, rest⟩ := invoked.started call isCall
      exact ⟨start, List.mem_append_left _ isStart, rest⟩
    · unfold shapes
      rw [operations]
      intro start isStart
      rcases List.mem_append.mp isStart with old | new
      · rcases invoked.called start old with called | ⟨operation, isActive, uncalled⟩
        · exact .inl called
        · exact .inr ⟨operation, List.mem_append_left _ isActive, uncalled⟩
      · rw [List.mem_singleton.mp new]
        exact .inr ⟨(entry, true), List.mem_concat_self, rfl, rfl⟩

variable {task : ActiveTask}

theorem Ordered.invoke {index : Nat}
    (ordered : Ordered config targetOf w) (found : w.coordinator.activeTasks[index]? = some task)
    (created : task.phase = .created) (later : w.clock ≤ now) :
    Ordered config targetOf { w with
      coordinator := { w.coordinator with
        activeTasks := w.coordinator.activeTasks.set index { task with phase := .running } }
      clock := now
      invoked := w.invoked ++
        [{ sequence := task.entry.sequence, request := task.entry.request, startedAt := now }] } :=
      by
  obtain ⟨queued, dispatched, active, invoked⟩ := ordered
  have place : (shapes w.coordinator)[index]? = some (task.entry, true) := by
    unfold shapes
    rw [List.getElem?_map, found]
    simp [shape, created]
  have isActive : (task.entry, true) ∈ shapes w.coordinator := List.mem_of_getElem? place
  have operations :
    (w.coordinator.activeTasks.set index { task with phase := .running }).map shape =
      (shapes w.coordinator).set index (task.entry, false) := by
    rw [List.map_set]
    rfl
  -- What an operation is for the other parts does not depend on the flag.
  have same : ∀ {β : Type} (f : Entry → β),
      ((shapes w.coordinator).set index (task.entry, false)).map (fun operation => f operation.1) =
        (shapes w.coordinator).map fun operation => f operation.1 := by
    intro β f
    exact Pool.map_set place rfl
  have old : ∀ operation ∈ (shapes w.coordinator).set index (task.entry, false),
      ∃ before ∈ shapes w.coordinator, before.1 = operation.1 := by
    exact Pool.forall_set place (fun operation before => ⟨operation, before, rfl⟩)
      ⟨_, isActive, rfl⟩
  refine
    ⟨queued, ⟨dispatched.issued, fun start isStart => (dispatched.past start isStart).trans later,
    dispatched.ahead, dispatched.spaced, dispatched.distinct, dispatched.inTime, dispatched.chosen,
    dispatched.recorded⟩, ?_, ?_⟩
  · refine ⟨?_, ?_, ?_, ?_, ?_, ?_, ?_⟩ <;> unfold shapes <;> dsimp only <;> rw [operations]
    · rw [same fun entry => entry.request.targetKey]
      exact active.targets
    · rw [same Entry.sequence]
      exact active.sequences
    · intro operation member
      obtain ⟨before, isBefore, is⟩ := old operation member
      rw [← is]
      exact active.marked before isBefore
    · rw [List.length_set]
      exact active.bounded
    · intro operation member
      obtain ⟨before, isBefore, is⟩ := old operation member
      rw [← is]
      exact active.latest before isBefore
    · intro operation member
      obtain ⟨before, isBefore, is⟩ := old operation member
      rw [← is]
      exact active.started before isBefore
    · intro operation member uncalled call isCall
      rcases Pool.mem_set_cases place member with rfl | elsewhere
      · cases uncalled
      · have before := Pool.mem_of_mem_eraseIdx elsewhere
        refine Pool.forall_push (active.uncalled operation before uncalled) ?_ call isCall
        intro same
        exact Pool.key_ne active.sequences place elsewhere same.symm
  · refine ⟨?_, ?_, ?_, ?_⟩
    · refine Pool.forall_push invoked.started ?_
      obtain ⟨start, isStart, sameSequence, sameRequest⟩ := active.started _ isActive
      exact
        ⟨start, isStart, sameSequence, sameRequest, (dispatched.past start isStart).trans later⟩
    · rw [List.pairwise_append]
      refine ⟨invoked.ordered, List.pairwise_singleton .., ?_⟩
      intro first isCall second isNew sameTarget
      rw [List.mem_singleton.mp isNew] at sameTarget ⊢
      obtain ⟨start, isStart, sameSequence, sameRequest, -⟩ := invoked.started first isCall
      have latest := active.latest _ isActive start isStart (by rw [sameRequest]; exact sameTarget)
      have uncalled := active.uncalled _ isActive rfl first isCall
      rw [sameSequence] at latest
      exact lt_of_le_of_ne latest uncalled
    · rw [List.map_append, List.nodup_append]
      refine ⟨invoked.distinct, List.nodup_singleton _, ?_⟩
      intro first inOld second isNew
      obtain ⟨call, isCall, rfl⟩ := List.mem_map.mp inOld
      rw [List.mem_singleton.mp isNew]
      exact active.uncalled _ isActive rfl call isCall
    · unfold shapes
      rw [operations]
      intro start isStart
      rcases invoked.called start isStart with
        ⟨call, isCall, is⟩ | ⟨operation, member, uncalled, is⟩
      · exact .inl ⟨call, List.mem_append_left _ isCall, is⟩
      · rcases Pool.mem_cases place member with rfl | elsewhere
        · exact .inl ⟨_, List.mem_concat_self, is⟩
        · exact .inr ⟨operation, Pool.mem_set_other place _ elsewhere, uncalled, is⟩

theorem Ordered.leave {index : Nat} (ordered : Ordered config targetOf w)
    (found : w.coordinator.activeTasks[index]? = some task) (called : task.phase ≠ .created) :
    Ordered config targetOf { w with
      coordinator := { w.coordinator with
        activeTargets := w.coordinator.activeTargets.filter (· ≠ task.entry.request.targetKey)
        activeTasks := w.coordinator.activeTasks.eraseIdx index } } := by
  obtain ⟨queued, dispatched, active, invoked⟩ := ordered
  have place : (shapes w.coordinator)[index]? = some (task.entry, false) := by
    unfold shapes
    rw [List.getElem?_map, found]
    simp [shape, called]
  have operations : (w.coordinator.activeTasks.eraseIdx index).map shape =
      (shapes w.coordinator).eraseIdx index := by
    unfold shapes
    rw [List.eraseIdx_map]
  have old : ∀ operation ∈ (shapes w.coordinator).eraseIdx index,
      operation ∈ shapes w.coordinator := fun _ => Pool.mem_of_mem_eraseIdx
  refine ⟨queued, ⟨dispatched.issued, dispatched.past, dispatched.ahead, dispatched.spaced,
    dispatched.distinct, dispatched.inTime, dispatched.chosen, dispatched.recorded⟩, ?_,
    ⟨invoked.started, invoked.ordered, invoked.distinct, ?_⟩⟩
  · have sublist := List.eraseIdx_sublist (shapes w.coordinator) index
    refine ⟨?_, ?_, ?_, ?_, ?_, ?_, ?_⟩ <;> unfold shapes <;> dsimp only <;> rw [operations]
    · exact active.targets.sublist (sublist.map _)
    · exact active.sequences.sublist (sublist.map _)
    · intro operation member
      rw [List.mem_filter]
      refine ⟨active.marked operation (old operation member), ?_⟩
      rw [decide_eq_true_eq]
      intro same
      exact Pool.key_ne active.targets place member same
    · exact sublist.length_le.trans active.bounded
    · intro operation member
      exact active.latest operation (old operation member)
    · intro operation member
      exact active.started operation (old operation member)
    · intro operation member
      exact active.uncalled operation (old operation member)
  · unfold shapes
    rw [operations]
    intro start isStart
    rcases invoked.called start isStart with before | ⟨operation, member, uncalled, is⟩
    · exact .inl before
    · rcases Pool.mem_cases place member with rfl | elsewhere
      · cases uncalled
      · exact .inr ⟨operation, elsewhere, uncalled, is⟩

theorem Ordered.clear {closers : List ClosePhase} (ordered : Ordered config targetOf w)
    (ended : w.coordinator.activeTasks.all (·.phase = .ended) = true) :
    Ordered config targetOf { w with
      coordinator := { w.coordinator with activeTasks := [], activeTargets := [] }
      closers } := by
  obtain ⟨queued, dispatched, active, invoked⟩ := ordered
  refine ⟨queued, ⟨dispatched.issued, dispatched.past, dispatched.ahead, dispatched.spaced,
    dispatched.distinct, dispatched.inTime, dispatched.chosen, dispatched.recorded⟩, ?_,
    ⟨invoked.started, invoked.ordered, invoked.distinct, ?_⟩⟩
  · refine ⟨List.nodup_nil, List.nodup_nil, ?_, Nat.zero_le _, ?_, ?_, ?_⟩
    all_goals
      intro operation member
      cases member
  · intro start isStart
    rcases invoked.called start isStart with before | ⟨operation, member, uncalled, -⟩
    · exact .inl before
    · obtain ⟨task, isTask, rfl⟩ := List.mem_map.mp member
      have isEnded := List.all_eq_true.mp ended task isTask
      rw [decide_eq_true_eq] at isEnded
      simp [shape, isEnded] at uncalled

theorem shapes_set {index : Nat} {left : ActiveTask}
    (found : c.activeTasks[index]? = some task) (same : shape left = shape task) :
    (c.activeTasks.set index left).map shape = shapes c := by
  have mapped : (shapes c)[index]? = some (shape task) := by
    unfold shapes
    rw [List.getElem?_map, found]
    rfl
  obtain ⟨inside, is⟩ := List.getElem?_eq_some_iff.mp mapped
  rw [List.map_set, same, ← is]
  exact List.set_getElem_self inside

/-- The next request of a label keeps to the targets that the coalesce keys name. -/
def Names (targetOf : String → String) : Label → Prop
  | .execute request => ∀ key ∈ request.coalesceKey, request.targetKey = targetOf key
  | _ => True

theorem step_ordered {label : Label} (ordered : Ordered config targetOf w)
    (named : Names targetOf label) (done : step config w label = some t) :
    Ordered config targetOf t := by
  cases label with
  | execute request => exact ordered.execute named done
  | cancelWaiter waiter =>
    cases done
    exact ordered.quiet ⟨rfl, rfl, rfl, rfl, rfl⟩ (List.Sublist.refl _) (le_refl _) rfl rfl
  | work now =>
    unfold step at done
    dsimp only at done
    split at done
    · next later =>
      have passed := pass_passed config now w.coordinator
      generalize w.coordinator.pass config now = result at passed done
      obtain ⟨coordinator, outcome⟩ := result
      cases passed with
      | ended =>
        cases done
        exact ordered.quiet ⟨rfl, rfl, rfl, rfl, rfl⟩ (List.Sublist.refl _) later rfl rfl
      | waits =>
        cases done
        exact ordered.quiet ⟨rfl, rfl, rfl, rfl, rfl⟩ List.filter_sublist later rfl rfl
      | missed =>
        cases done
        exact ordered.quiet ⟨rfl, rfl, rfl, rfl, rfl⟩
          (List.filter_sublist.trans List.filter_sublist) later rfl rfl
      | started open_ entry member free oldest room ready inTime =>
        cases done
        exact ordered.start member free oldest room ready inTime later
    · cases done
  | invoke index now =>
    obtain ⟨task, found, rest⟩ := Option.bind_eq_some_iff.mp done
    split at rest
    · next ready =>
      cases rest
      exact ordered.invoke found ready.1 ready.2
    · cases rest
  | finish index callbackEnd =>
    obtain ⟨task, found, rest⟩ := Option.bind_eq_some_iff.mp done
    split at rest
    · next running =>
      have same : ∀ phase, phase ≠ .created →
          shape { entry := task.entry, phase } = shape task := by
        intro phase called
        simp [shape, running, called]
      cases rest
      cases callbackEnd with
      | returned | limited | raised | cancelled =>
        exact ordered.quiet ⟨rfl, rfl, rfl, rfl, rfl⟩ (List.Sublist.refl _) (le_refl _) rfl
          (shapes_set found (same _ (by simp)))
    · cases rest
  | logged index =>
    obtain ⟨task, found, rest⟩ := Option.bind_eq_some_iff.mp done
    obtain ⟨coordinator, logged, rest⟩ := Option.bind_eq_some_iff.mp rest
    cases rest
    unfold Coordinator.logged at logged
    have same : task.phase ≠ .created →
        shape { entry := task.entry, phase := .leaving } = shape task := by
      intro called
      simp [shape, called]
    split at logged
    · next error failed =>
      have called : task.phase ≠ .created := by simp [failed]
      split at logged
      · cases logged
        exact ordered.quiet ⟨rfl, rfl, rfl, rfl, rfl⟩ (List.Sublist.refl _) (le_refl _) rfl
          (shapes_set found (same called))
      · cases logged
        exact ordered.quiet ⟨rfl, rfl, rfl, rfl, rfl⟩ (List.Sublist.refl _) (le_refl _) rfl
          (shapes_set found (same called))
    · next succeeded =>
      have called : task.phase ≠ .created := by simp [succeeded]
      cases logged
      exact ordered.quiet ⟨rfl, rfl, rfl, rfl, rfl⟩ (List.Sublist.refl _) (le_refl _) rfl
        (shapes_set found (same called))
    · cases logged
  | leave index =>
    obtain ⟨task, found, rest⟩ := Option.bind_eq_some_iff.mp done
    split at rest
    · next leaving =>
      have called : task.phase ≠ .created := by simp [leaving]
      cases rest
      unfold Coordinator.leave
      split
      · exact ordered.quiet ⟨rfl, rfl, rfl, rfl, rfl⟩ (List.Sublist.refl _) (le_refl _) rfl
          (shapes_set found (by simp [shape, called]))
      · exact ordered.leave found called
    · cases rest
  | close =>
    cases done
    exact ordered.quiet ⟨rfl, rfl, rfl, rfl, rfl⟩ (List.Sublist.refl _) (le_refl _) rfl rfl
  | sweep closer =>
    unfold step at done
    dsimp only at done
    split at done
    · cases done
      exact ordered.quiet ⟨rfl, rfl, rfl, rfl, rfl⟩ (List.nil_sublist _) (le_refl _) rfl rfl
    · cases done
  | cancelActive closer =>
    unfold step at done
    dsimp only at done
    split at done
    · cases done
      refine ordered.quiet ⟨rfl, rfl, rfl, rfl, rfl⟩ (List.Sublist.refl _) (le_refl _) rfl ?_
      unfold shapes Coordinator.cancelActive
      rw [List.map_map]
      apply List.map_congr_left
      intro task _
      simp only [Function.comp_apply]
      split
      · rfl
      · rfl
    · cases done
  | closed closer =>
    unfold step at done
    dsimp only at done
    split at done
    · next ended =>
      cases done
      exact ordered.clear ended.2
    · cases done

end Steps

theorem ordered_initial (config : Config) (targetOf : String → String) :
    Ordered config targetOf {} where
  queued := ⟨List.Pairwise.nil, by simp, Nat.zero_le _, by simp, by simp, by simp⟩
  dispatched := ⟨by simp, by simp, by simp, List.Pairwise.nil, List.nodup_nil, by simp, by simp,
    by simp⟩
  active :=
    ⟨List.nodup_nil, List.nodup_nil, by simp [shapes], Nat.zero_le _, by simp, by simp [shapes],
    by simp⟩
  invoked := ⟨by simp, List.Pairwise.nil, List.nodup_nil, by simp⟩

/-! ## The guarantee -/

/-- The operations whose callback runs. -/
def running (c : Coordinator) : List ActiveTask := c.activeTasks.filter (·.phase = .running)

/-- The task of the start has not made its first step. -/
def uncalled (c : Coordinator) (start : Start) : Bool :=
  c.activeTasks.any fun task => task.phase = .created && task.entry.sequence = start.sequence

/-- What holds of the callbacks, the queue and the starts. -/
structure Scheduled (config : Config) (w : World) : Prop where
  oneEach : ((running w.coordinator).map (·.entry.request.targetKey)).Nodup
  concurrency : (running w.coordinator).length ≤ config.maxConcurrency
  queue : w.coordinator.queue.length ≤ config.queueLimit
  spaced : w.dispatched.Pairwise Spaced
  inTime : ∀ start ∈ w.dispatched, ∀ deadline ∈ start.request.deadline, start.startedAt < deadline
  ordered : w.invoked.Pairwise fun first second =>
    first.request.targetKey = second.request.targetKey → first.sequence < second.sequence
  calls : ∀ call ∈ w.invoked, ∃ start ∈ w.dispatched, start.sequence = call.sequence ∧
    start.request = call.request ∧ start.startedAt ≤ call.startedAt
  once : ∀ start ∈ w.dispatched, w.invoked.countP (·.sequence = start.sequence) =
    if uncalled w.coordinator start then 0 else 1
  chosen : ∀ call ∈ w.invoked, chosen (mergedInto call.sequence w.merged) = some call.request

theorem Invoked.once {config : Config} {w : World} {start : Start} (invoked : Invoked w)
    (active : Active config w) (isStart : start ∈ w.dispatched) :
    w.invoked.countP (·.sequence = start.sequence) =
      if uncalled w.coordinator start then 0 else 1 := by
  have counts : w.invoked.countP (·.sequence = start.sequence) =
      (w.invoked.map Start.sequence).count start.sequence := by
    rw [List.count, List.countP_map]
    apply List.countP_congr
    intro call _
    simp
  have first : uncalled w.coordinator start = true ↔ ∃ operation ∈ shapes w.coordinator,
      operation.2 = true ∧ operation.1.sequence = start.sequence := by
    simp [uncalled, shapes, shape]
  rw [counts]
  by_cases waiting : uncalled w.coordinator start = true
  · rw [if_pos waiting, List.count_eq_zero]
    obtain ⟨operation, isActive, notCalled, same⟩ := first.mp waiting
    intro member
    obtain ⟨call, isCall, is⟩ := List.mem_map.mp member
    exact active.uncalled operation isActive notCalled call isCall (is.trans same.symm)
  · rw [if_neg waiting]
    rcases invoked.called start isStart with ⟨call, isCall, is⟩ | notCalled
    · exact List.count_eq_one_of_mem invoked.distinct (List.mem_map.mpr ⟨call, isCall, is⟩)
    · exact absurd (first.mpr notCalled) waiting

theorem Ordered.scheduled {config : Config} {targetOf : String → String} {w : World}
    (ordered : Ordered config targetOf w) : Scheduled config w := by
  obtain ⟨queued, dispatched, active, invoked⟩ := ordered
  have operations : (shapes w.coordinator).map (·.1.request.targetKey) =
      w.coordinator.activeTasks.map (·.entry.request.targetKey) := by
    unfold shapes
    rw [List.map_map]
    rfl
  have sublist : (running w.coordinator).Sublist w.coordinator.activeTasks := List.filter_sublist
  refine ⟨?_, ?_, queued.bounded, dispatched.spaced, dispatched.inTime, invoked.ordered,
    invoked.started, fun start isStart => invoked.once active isStart, ?_⟩
  · have distinct := active.targets
    rw [operations] at distinct
    exact distinct.sublist (sublist.map _)
  · have bounded := active.bounded
    unfold shapes at bounded
    rw [List.length_map] at bounded
    exact sublist.length_le.trans bounded
  · intro call isCall
    obtain ⟨start, isStart, same, sameRequest, -⟩ := invoked.started call isCall
    rw [← same, ← sameRequest]
    exact dispatched.chosen start isStart

def KeysNameTargets (labels : List Label) : Prop :=
  ∀ first second key, .execute first ∈ labels → .execute second ∈ labels →
    first.coalesceKey = some key → second.coalesceKey = some key →
    first.targetKey = second.targetKey

theorem KeysNameTargets.names {labels : List Label} (named : KeysNameTargets labels) :
    ∃ targetOf, ∀ label ∈ labels, Names targetOf label := by
  classical
  refine ⟨fun key => if has : ∃ request, .execute request ∈ labels ∧ request.coalesceKey = some key
    then has.choose.targetKey else "", ?_⟩
  intro label member
  cases label with
  | execute request =>
    intro key isKey
    have has : ∃ request, .execute request ∈ labels ∧ request.coalesceKey = some key :=
      ⟨request, member, isKey⟩
    dsimp only
    rw [dif_pos has]
    exact named request has.choose key member has.choose_spec.1 isKey has.choose_spec.2
  | cancelWaiter | work | invoke | finish | logged | leave | close | sweep | cancelActive
  | closed =>
    trivial

/-- In every interleaving the operations are scheduled as they should be; the times of the
starts are those at which the worker decides them. -/
theorem coordinator_scheduling (config : Config) (labels : List Label)
    (named : KeysNameTargets labels) :
    ∀ w ∈ run (step config) {} labels, Scheduled config w := by
  intro w reached
  obtain ⟨targetOf, names⟩ := named.names
  have keep : ∀ w label t, Ordered config targetOf w → Names targetOf label →
      step config w label = some t → Ordered config targetOf t :=
    fun _ _ _ ordered named done => step_ordered ordered named done
  exact (run_inv_along keep (along_of_forall names) (ordered_initial config targetOf)
    reached).scheduled

def messageState (callback : Nat) : Request :=
  { callback, targetKey := "message:1", coalesceKey := some "state", terminal := callback = 2 }

def threeStates : List Label :=
  [.execute (messageState 1), .execute (messageState 2), .execute (messageState 3), .work 0,
    .invoke 0 1]

theorem coordinator_scheduling_threeStates :
    ∃ w ∈ run (step {}) {} threeStates,
      (w.merged.length = 3 ∧ w.invoked.map (·.request.callback) = [2]) ∧ Scheduled {} w := by
  have ends : ∃ w ∈ run (step {}) {} threeStates,
      w.merged.length = 3 ∧ w.invoked.map (·.request.callback) = [2] := by
    decide +kernel
  have named : KeysNameTargets threeStates := by
    have target : ∀ request, .execute request ∈ threeStates → request.targetKey = "message:1" := by
      intro request member
      simp only [threeStates, List.mem_cons, Label.execute.injEq, List.not_mem_nil, or_false,
        reduceCtorEq] at member
      rcases member with rfl | rfl | rfl <;> rfl
    intro first second key one two _ _
    rw [target first one, target second two]
  obtain ⟨w, reached, merged⟩ := ends
  exact ⟨w, reached, merged, coordinator_scheduling {} threeStates named w reached⟩

/-- An edit that is to follow the one before it by a second. -/
def edit (callback : Nat) : Request :=
  { callback, targetKey := "message:1", minInterval := 1 }

/-- A callback is called at its deadline, two callbacks of a target are called within the
minimum interval, and an entry whose callers are cancelled calls none. -/
theorem starts_are_decided_before_calls :
    (∃ w ∈ run (step {}) {}
        [.execute { callback := 1, targetKey := "interaction:1", deadline := some 10 }, .work 9,
          .invoke 0 10],
      ∃ call ∈ w.invoked, call.request.deadline = some 10 ∧ call.startedAt = 10) ∧
    (∃ w ∈ run (step {}) {}
        [.execute (edit 1), .execute (edit 2), .work 0, .invoke 0 (1 / 2), .finish 0 (.returned 0),
          .logged 0, .leave 0, .work 1, .invoke 0 1],
      w.invoked.map (fun call => (call.request.callback, call.startedAt)) = [(1, 1 / 2), (2, 1)]) ∧
    ∃ w ∈ run (step {}) {}
        [.execute (messageState 1), .execute (messageState 2), .cancelWaiter 0, .cancelWaiter 1,
          .work 0],
      w.merged.map Prod.fst = [1, 1] ∧ w.coordinator.queue = [] ∧ w.invoked.length = 0 := by
  decide +kernel

end Copilotd.Guarantees.RequestScheduling
