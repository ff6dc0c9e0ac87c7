import Copilotd.Guarantees.InboxAccounting

/-!
# Committers of a failed reducer

`commit_internal` waits for an acknowledgement that travels with its envelope.  When the
worker fails it acknowledges what it took and what is queued, and closes the inbox.  If no
put of a committer is scheduled at that moment, every acknowledgement is resolved and every
call can return or raise (`failure_releases_committers`).  A put that runs after the failure
leaves its committer waiting for good (`late_put_strands_committer`).
-/
namespace Copilotd.Guarantees.ReducerFailure

open Base Base.Futures Base.Run Base.Tickets Source.Core.ReducerInbox Guarantees.InboxAccounting

/-! ## Who carries an acknowledgement -/

/-- The envelopes on their way through the inbox. -/
def travelling (w : World) : List InboxEnvelope :=
  reservations w ++ puts w ++ w.queue ++ w.worker.unacknowledged

/-- No committer has a put scheduled when the worker fails. -/
def CommitsQueued (w : World) : Label → Prop
  | .worker answer =>
    (w.worker.failure answer).isSome → ∀ envelope ∈ puts w, envelope.commitAck = none
  | _ => True

instance (w : World) (label : Label) : Decidable (CommitsQueued w label) := by
  unfold CommitsQueued
  split <;> infer_instance

/-- Where a call may be suspended. -/
def PhaseOk (w : World) (index : Nat) : CommitPhase → Prop
  | .waitingForSpace woken => w.closed = true → woken = true
  | .scheduling _ => ∃ producer ∈ w.producers, producer.onLoop = true ∧
      producer.commit = some index ∧ (reservedBy producer).isSome = true
  | .awaitingAck ack _ => ack < w.acks.length
  | .ended _ => True

structure Sound (w : World) : Prop where
  /-- An unresolved acknowledgement travels with an envelope. -/
  carried : ∀ ack, w.acks[ack]? = some .pending →
    ∃ envelope ∈ travelling w, envelope.commitAck = some ack
  /-- Only a call on the loop's thread reserves for a committer, and the loop runs. -/
  reserved : ∀ producer ∈ w.producers, ∀ envelope ack, reservedBy producer = some envelope →
    envelope.commitAck = some ack →
      producer.onLoop = true ∧ w.loop.closed = false ∧ ack < w.acks.length
  phases : ∀ index commit, w.commits[index]? = some commit → PhaseOk w index commit.phase
  failed : w.worker = .failed → w.closed = true ∧
    ∀ envelope ∈ reservations w ++ puts w ++ w.queue, envelope.commitAck = none

variable {index : Nat}

section Steps

variable {w v : World}

/-- What the steps of threads and of the event of free space leave as it is. -/
structure Frame (w v : World) : Prop where
  acks : v.acks = w.acks
  producers : v.producers = w.producers
  puts : puts v = puts w
  queue : v.queue = w.queue
  worker : v.worker = w.worker
  closed : v.closed = w.closed
  loopClosed : v.loop.closed = w.loop.closed
  commits : v.commits = w.commits

theorem Frame.refl (w : World) : Frame w w := ⟨rfl, rfl, rfl, rfl, rfl, rfl, rfl, rfl⟩

theorem clear_frame {onLoop : Bool} (cleared : w.clearSpaceAvailable onLoop = some v) :
    Frame w v := by
  unfold World.clearSpaceAvailable at cleared
  cases onLoop with
  | true =>
    cases cleared
    exact ⟨rfl, rfl, rfl, rfl, rfl, rfl, rfl, rfl⟩
  | false =>
    simp only [Bool.false_eq_true, if_false, Option.map_eq_some_iff, callSoon_eq_some] at cleared
    obtain ⟨loop, ⟨_, rfl⟩, rfl⟩ := cleared
    exact ⟨rfl, rfl, puts_schedule rfl, rfl, rfl, rfl, rfl, rfl⟩

variable {now : ℚ}

theorem reserve_frame {onLoop recordOverflow : Bool} {source : EnvelopeSource}
    {reservation : Reservation}
      (is : w.reserve onLoop source recordOverflow now = (v, reservation)) :
    Frame w v ∧ (w.closed = true → reservation = .refused) := by
  unfold World.reserve at is
  split at is
  · cases is
    exact ⟨Frame.refl w, fun _ => rfl⟩
  · next isOpen =>
    refine ⟨?_, fun isClosed => absurd isClosed isOpen⟩
    split at is
    · split at is
      · cases is
        exact Frame.refl w
      · next clearing =>
        have frame := clear_frame clearing
        split at is
        · cases is
          exact ⟨frame.1, frame.2, frame.3, frame.4, frame.5, frame.6, frame.7, frame.8⟩
        · cases is
          exact frame
    · dsimp only at is
      split at is
      · split at is
        · cases is
          exact ⟨rfl, rfl, rfl, rfl, rfl, rfl, rfl, rfl⟩
        · next clearing =>
          have frame := clear_frame clearing
          cases is
          exact ⟨frame.1, frame.2, frame.3, frame.4, frame.5, frame.6, frame.7, frame.8⟩
      · cases is
        exact ⟨rfl, rfl, rfl, rfl, rfl, rfl, rfl, rfl⟩

variable {envelope : InboxEnvelope}

theorem schedule_cases {onLoop : Bool} {answer : Option Bool}
    (is : w.schedule onLoop envelope now = (v, answer)) :
    (w.loop.closed = false ∧
        v = { w with loop := { w.loop with ready := w.loop.ready ++ [.putReserved envelope] } }) ∨
      (w.loop.closed = true ∧ answer ≠ some true ∧ (Frame w v ∨ Frame w.wake v)) := by
  unfold World.schedule at is
  split at is
  · next accepted =>
    obtain ⟨isOpen, rfl⟩ := callSoon_eq_some.mp accepted
    cases is
    exact .inl ⟨isOpen, rfl⟩
  · next refused =>
    have isClosed : w.loop.closed = true := by
      unfold Loop.callSoonThreadsafe at refused
      split at refused
      · assumption
      · cases refused
    refine .inr ⟨isClosed, ?_⟩
    split at is
    · cases is
      exact ⟨by simp, .inl ⟨rfl, rfl, rfl, rfl, rfl, rfl, rfl, rfl⟩⟩
    · next released setting =>
      cases is
      refine ⟨by simp, ?_⟩
      unfold World.setSpaceAvailable at setting
      cases onLoop with
      | true =>
        cases setting
        exact .inr ⟨rfl, rfl, rfl, rfl, rfl, rfl, rfl, rfl⟩
      | false =>
        have impossible : w.loop.callSoonThreadsafe .setSpaceAvailable = none := by
          simp [Loop.callSoonThreadsafe, isClosed]
        simp [World.release, impossible] at setting

variable {producer : Producer}

theorem produce_loop (isClosed : w.loop.closed = true) :
    (w.produce producer now).loop.closed = true := by
  cases phase : producer.phase with
  | admitted payload =>
    unfold World.produce
    simp only [phase]
    split
    · next is => exact (reserve_frame is).1.loopClosed.trans isClosed
    · next is => exact (reserve_frame is).1.loopClosed.trans isClosed
  | reserved envelope =>
    obtain ⟨after, answer, scheduling, outcome⟩ := @produce_reserved w producer envelope now phase
    have stays : after.loop.closed = true := by
      rcases schedule_cases scheduling with ⟨isOpen, _⟩ | ⟨_, _, frame | frame⟩
      · rw [isClosed] at isOpen
        cases isOpen
      · exact frame.loopClosed.trans isClosed
      · exact frame.loopClosed.trans isClosed
    rcases outcome with ⟨_, is⟩ | ⟨_, _, ⟨_, _, _, is⟩ | is⟩
    · rw [is]
      exact stays
    · rw [is]
      exact stays
    · rw [is]
      exact stays

theorem loop_stays_closed {label : Label} (done : step w label = some v)
    (isClosed : w.loop.closed = true) : v.loop.closed = true := by
  have away : w.onLoop = false := by simp [World.onLoop, isClosed]
  cases label with
  | submitSdk onLoop payload =>
    simp only [step] at done
    split at done
    · cases done
    · split at done
      · cases done
        exact isClosed
      · cases done
        exact isClosed
  | submitInternal onLoop source payload internalEventId now =>
    simp only [step] at done
    split at done
    · cases done
    · split at done
      · cases done
        exact isClosed
      · split at done
        · next is =>
          cases done
          exact (reserve_frame is).1.loopClosed.trans isClosed
        · next is =>
          cases done
          exact (reserve_frame is).1.loopClosed.trans isClosed
  | produce index now =>
    simp only [step, Option.bind_eq_bind, Option.bind_eq_some_iff] at done
    obtain ⟨producer, _, rest⟩ := done
    cases rest
    exact produce_loop isClosed
  | stop | close =>
    simp only [step] at done
    split at done
    · cases done
      exact isClosed
    · cases done
  | closeLoop =>
    simp only [step] at done
    split at done
    · cases done
      rfl
    · cases done
  | _ => simp [step, away] at done

theorem step_balanced {label : Label} (balanced : w.loop.closed = false → Balanced (ledger w))
    (done : step w label = some v) : v.loop.closed = false → Balanced (ledger v) := by
  intro stillOpen
  have isOpen : w.loop.closed = false := by
    cases isClosed : w.loop.closed with
    | false => rfl
    | true =>
      rw [loop_stays_closed done isClosed] at stillOpen
      cases stillOpen
  have reached : LoopReached w label := by
    unfold LoopReached
    split
    · intro _
      simp [reaches, isOpen]
    · intro producer _ _
      simp [reaches, isOpen]
    · trivial
  exact (balanced isOpen).moves (step_moves (balanced isOpen) reached done)

/-! ## Each step keeps the carriers -/

variable {phase : CommitPhase}

theorem PhaseOk.of_eq {call : Nat} (ok : PhaseOk w call phase)
    (producers : v.producers = w.producers) (length : v.acks.length = w.acks.length)
    (closed : v.closed = w.closed) : PhaseOk v call phase := by
  cases phase with
  | waitingForSpace woken =>
    unfold PhaseOk at ok ⊢
    rw [closed]
    exact ok
  | scheduling ack =>
    unfold PhaseOk at ok ⊢
    rw [producers]
    exact ok
  | awaitingAck ack cancelled =>
    unfold PhaseOk at ok ⊢
    rw [length]
    exact ok
  | ended ending => trivial

theorem PhaseOk.wake_of_eq {call : Nat} (ok : PhaseOk w call phase)
    (producers : v.producers = w.producers) (length : v.acks.length = w.acks.length) :
    PhaseOk v call phase.wake := by
  cases phase with
  | waitingForSpace woken => exact fun _ => rfl
  | scheduling ack =>
    unfold CommitPhase.wake PhaseOk
    rw [producers]
    exact ok
  | awaitingAck ack cancelled =>
    unfold CommitPhase.wake PhaseOk
    rw [length]
    exact ok
  | ended ending => trivial

theorem Sound.frame (sound : Sound w) (frame : Frame w v) : Sound v := by
  have travels : travelling v = travelling w := by
    simp only [travelling, reservations, frame.producers, frame.puts, frame.queue, frame.worker]
  refine ⟨?_, ?_, ?_, ?_⟩
  · rw [frame.acks, travels]
    exact sound.carried
  · rw [frame.producers, frame.acks, frame.loopClosed]
    exact sound.reserved
  · intro index commit found
    rw [frame.commits] at found
    have length : v.acks.length = w.acks.length := by rw [frame.acks]
    exact (sound.phases index commit found).of_eq frame.producers length frame.closed
  · rw [frame.worker, frame.closed, frame.puts, frame.queue]
    simp only [reservations, frame.producers]
    exact sound.failed

theorem Sound.wake (sound : Sound w) : Sound w.wake := by
  refine ⟨sound.carried, sound.reserved, ?_, sound.failed⟩
  intro index commit found
  simp only [World.wake, List.getElem?_map, Option.map_eq_some_iff] at found
  obtain ⟨before, was, rfl⟩ := found
  exact (sound.phases index before was).wake_of_eq rfl rfl

theorem Sound.setCommit (sound : Sound w)
    (ok : PhaseOk w index phase) : Sound (w.setCommit index phase) := by
  refine ⟨sound.carried, sound.reserved, ?_, sound.failed⟩
  intro other commit found
  simp only [World.setCommit, List.getElem?_modify, Option.map_eq_map,
    Option.map_eq_some_iff] at found
  obtain ⟨before, was, rfl⟩ := found
  by_cases same : index = other
  · subst same
    rw [if_pos rfl]
    exact ok
  · rw [if_neg same]
    exact sound.phases other before was

theorem mem_reservations_join {producers : List Producer}
    :
    envelope ∈ (producers ++ [producer]).filterMap reservedBy ↔
      envelope ∈ producers.filterMap reservedBy ∨ reservedBy producer = some envelope := by
  simp only [List.filterMap_append, List.mem_append, List.mem_filterMap, List.mem_singleton,
    exists_eq_left]

theorem mem_travelling :
    envelope ∈ travelling w ↔ envelope ∈ w.producers.filterMap reservedBy ∨ envelope ∈ puts w ∨
      envelope ∈ w.queue ∨ envelope ∈ w.worker.unacknowledged := by
  simp only [travelling, reservations, List.mem_append, or_assoc]

theorem Sound.join (sound : Sound w)
    (plain : ∀ envelope ∈ reservedBy producer, envelope.commitAck = none) :
    Sound { w with producers := w.producers ++ [producer] } := by
  refine ⟨?_, ?_, ?_, ?_⟩
  · intro ack pending
    obtain ⟨envelope, member, carries⟩ := sound.carried ack pending
    refine ⟨envelope, ?_, carries⟩
    rw [mem_travelling] at member ⊢
    rw [mem_reservations_join]
    rcases member with reserved | elsewhere
    · exact .inl (.inl reserved)
    · exact .inr elsewhere
  · intro other member envelope ack reserved carries
    rcases List.mem_append.mp member with old | new
    · exact sound.reserved other old envelope ack reserved carries
    · rw [List.mem_singleton] at new
      subst new
      rw [plain envelope reserved] at carries
      cases carries
  · intro index commit found
    have ok := sound.phases index commit found
    cases phase : commit.phase with
    | scheduling ack =>
      rw [phase] at ok
      obtain ⟨other, member, rest⟩ := ok
      exact ⟨other, List.mem_append_left _ member, rest⟩
    | waitingForSpace | awaitingAck | ended =>
      rw [phase] at ok
      exact ok
  · intro isFailed
    obtain ⟨isClosed, none⟩ := sound.failed isFailed
    refine ⟨isClosed, ?_⟩
    intro envelope member
    simp only [reservations, List.mem_append, mem_reservations_join] at member
    simp only [reservations, List.mem_append] at none
    rcases member with ((old | new) | put) | queued
    · exact none envelope (.inl (.inl old))
    · exact plain envelope new
    · exact none envelope (.inl (.inr put))
    · exact none envelope (.inr queued)

theorem Sound.commit
    (sound : Sound w) (isOpen : w.loop.closed = false) (accepting : w.closed = false)
    (own : producer.onLoop = true) (call : producer.commit = some index)
    (reserved : reservedBy producer = some envelope)
    (carries : envelope.commitAck = some w.acks.length) :
    Sound { w.setCommit index (.scheduling w.acks.length) with
      acks := w.acks ++ [.pending]
      producers := w.producers ++ [producer] } := by
  have joined : producer ∈ w.producers ++ [producer] :=
    List.mem_concat_self
  refine ⟨?_, ?_, ?_, ?_⟩
  · intro ack pending
    by_cases old : ack < w.acks.length
    · rw [List.getElem?_append_left old] at pending
      obtain ⟨other, member, its⟩ := sound.carried ack pending
      refine ⟨other, ?_, its⟩
      rw [mem_travelling] at member ⊢
      rw [mem_reservations_join]
      rcases member with before | elsewhere
      · exact .inl (.inl before)
      · exact .inr elsewhere
    · have bound := (List.getElem?_eq_some_iff.mp pending).1
      rw [List.length_append, List.length_singleton] at bound
      have last : ack = w.acks.length := by omega
      subst last
      refine ⟨envelope, ?_, carries⟩
      rw [mem_travelling, mem_reservations_join]
      exact .inl (.inr reserved)
  · intro other member its ack holds has
    rw [List.length_append, List.length_singleton]
    rcases List.mem_append.mp member with old | new
    · obtain ⟨onLoop, runs, bound⟩ := sound.reserved other old its ack holds has
      exact ⟨onLoop, runs, by omega⟩
    · rw [List.mem_singleton] at new
      subst new
      rw [reserved] at holds
      cases holds
      rw [carries] at has
      cases has
      exact ⟨own, isOpen, by omega⟩
  · intro other commit found
    simp only [World.setCommit, List.getElem?_modify, Option.map_eq_map,
      Option.map_eq_some_iff] at found
    obtain ⟨before, was, rfl⟩ := found
    by_cases same : index = other
    · subst same
      rw [if_pos rfl]
      refine ⟨producer, joined, own, call, ?_⟩
      rw [reserved]
      rfl
    · rw [if_neg same]
      have ok := sound.phases other before was
      cases phase : before.phase with
      | scheduling ack =>
        rw [phase] at ok
        obtain ⟨earlier, member, rest⟩ := ok
        exact ⟨earlier, List.mem_append_left _ member, rest⟩
      | awaitingAck ack cancelled =>
        rw [phase] at ok
        unfold PhaseOk at ok ⊢
        rw [List.length_append]
        exact Nat.lt_add_right _ ok
      | waitingForSpace | ended =>
        rw [phase] at ok
        exact ok
  · intro isFailed
    have isClosed := (sound.failed isFailed).1
    rw [accepting] at isClosed
    cases isClosed

theorem Sound.attempt {commit : Commit} (sound : Sound w)
    (isOpen : w.loop.closed = false) : Sound (w.attempt index commit now) := by
  unfold World.attempt
  split
  · next after inboxSeq sdkReceiveSeq is =>
    obtain ⟨frame, refuses⟩ := reserve_frame is
    have accepting : after.closed = false := by
      cases isClosed : w.closed with
      | true => cases refuses isClosed
      | false => rw [frame.closed, isClosed]
    exact (sound.frame frame).commit (frame.loopClosed.trans isOpen) accepting rfl rfl rfl rfl
  · next after is =>
    have soundAfter := sound.frame (reserve_frame is).1
    split
    · exact soundAfter.setCommit trivial
    · next accepting =>
      refine soundAfter.setCommit ?_
      intro isClosed
      exact absurd isClosed accepting
  · next after is => exact (sound.frame (reserve_frame is).1).setCommit trivial

/-- What a producer that leaves the list to schedule its put, or to reserve, changes. -/
structure Leaves (w v : World) (index : Nat) (producer : Producer) : Prop where
  acks : v.acks = w.acks
  producers : v.producers = w.producers.eraseIdx index
  queue : v.queue = w.queue
  worker : v.worker = w.worker
  closed : v.closed = w.closed
  loopClosed : v.loop.closed = w.loop.closed
  kept : ∀ envelope ∈ puts w, envelope ∈ puts v
  moved : ∀ envelope ack, reservedBy producer = some envelope → envelope.commitAck = some ack →
    envelope ∈ puts v
  only : ∀ envelope ∈ puts v, envelope ∈ puts w ∨ reservedBy producer = some envelope

/-- Calls are where they were, or were woken. -/
def Woken (w v : World) : Prop :=
  ∀ (call : Nat) (commit : Commit), v.commits[call]? = some commit →
    ∃ before : Commit, w.commits[call]? = some before ∧
      (commit.phase = before.phase ∨ commit.phase = before.phase.wake)

theorem Woken.of_eq (same : v.commits = w.commits) : Woken w v := by
  intro call commit is
  rw [same] at is
  exact ⟨commit, is, .inl rfl⟩

theorem wake_wake (phase : CommitPhase) : phase.wake.wake = phase.wake := by
  cases phase <;> rfl

theorem woken_wake (w : World) : Woken w w.wake := by
  intro call commit is
  simp only [World.wake, List.getElem?_map, Option.map_eq_some_iff] at is
  obtain ⟨before, was, rfl⟩ := is
  exact ⟨before, was, .inr rfl⟩

theorem Leaves.phases {call : Nat} {commit : Commit}
    (leaves : Leaves w v index producer) (woken : Woken w v) (sound : Sound w)
    (found : w.producers[index]? = some producer)
    (elsewhere : producer.commit ≠ some call ∨ reservedBy producer = none)
    (is : v.commits[call]? = some commit) : PhaseOk v call commit.phase := by
  obtain ⟨before, was, same⟩ := woken call commit is
  have ok : PhaseOk v call before.phase := by
    have ok := sound.phases call before was
    cases phase : before.phase with
    | waitingForSpace woken =>
      rw [phase] at ok
      unfold PhaseOk at ok ⊢
      rw [leaves.closed]
      exact ok
    | scheduling ack =>
      rw [phase] at ok
      obtain ⟨other, member, own, its, reserved⟩ := ok
      refine ⟨other, ?_, own, its, reserved⟩
      rw [leaves.producers]
      rcases Pool.mem_cases found member with rfl | stays
      · rcases elsewhere with different | idle
        · exact absurd its different
        · rw [idle] at reserved
          cases reserved
      · exact stays
    | awaitingAck ack cancelled =>
      rw [phase] at ok
      unfold PhaseOk at ok ⊢
      rw [leaves.acks]
      exact ok
    | ended ending => trivial
  rcases same with same | same
  · rw [same]
    exact ok
  · rw [same]
    exact ok.wake_of_eq rfl rfl

theorem Leaves.sound (leaves : Leaves w v index producer)
    (sound : Sound w) (found : w.producers[index]? = some producer)
    (phases : ∀ call commit, v.commits[call]? = some commit → PhaseOk v call commit.phase) :
    Sound v := by
  have split := Pool.filterMap_perm found reservedBy
  refine ⟨?_, ?_, phases, ?_⟩
  · intro ack pending
    rw [leaves.acks] at pending
    obtain ⟨envelope, member, carries⟩ := sound.carried ack pending
    refine ⟨envelope, ?_, carries⟩
    rw [mem_travelling] at member ⊢
    rw [leaves.producers, leaves.queue, leaves.worker]
    rcases member with reserved | put | elsewhere
    · rcases List.mem_append.mp (split.symm.subset reserved) with here | other
      · exact .inr (.inl (leaves.moved envelope ack (Option.mem_toList.mp here) carries))
      · exact .inl other
    · exact .inr (.inl (leaves.kept envelope put))
    · exact .inr (.inr elsewhere)
  · intro other member envelope ack reserved carries
    rw [leaves.producers] at member
    rw [leaves.loopClosed, leaves.acks]
    exact sound.reserved other (List.mem_of_mem_eraseIdx member) envelope ack reserved carries
  · intro isFailed
    rw [leaves.worker] at isFailed
    obtain ⟨isClosed, none⟩ := sound.failed isFailed
    refine ⟨leaves.closed.trans isClosed, ?_⟩
    intro envelope member
    simp only [reservations, List.mem_append, leaves.producers, leaves.queue] at member
    simp only [reservations, List.mem_append] at none
    rcases member with (reserved | put) | queued
    · exact none envelope (.inl (.inl (split.subset (List.mem_append_right _ reserved))))
    · rcases leaves.only envelope put with before | here
      · exact none envelope (.inl (.inr before))
      · have reserved := split.subset (List.mem_append_left _ (Option.mem_toList.mpr here))
        exact none envelope (.inl (.inl reserved))
    · exact none envelope (.inr queued)

theorem schedule_leaves
    {answer : Option Bool} (sound : Sound w) (found : w.producers[index]? = some producer)
    (holds : reservedBy producer = some envelope)
    (is : World.schedule { w with producers := w.producers.eraseIdx index } producer.onLoop envelope
      now = (v, answer)) : Leaves w v index producer ∧ Woken w v := by
  rcases schedule_cases is with ⟨_, rfl⟩ | ⟨isClosed, _, frames⟩
  · have more : (w.loop.ready ++ [Callback.putReserved envelope]).filterMap putBy =
        w.loop.ready.filterMap putBy ++ [envelope] := by
      rw [List.filterMap_append]
      rfl
    refine ⟨⟨rfl, rfl, rfl, rfl, rfl, rfl, ?_, ?_, ?_⟩, Woken.of_eq rfl⟩
    · intro other member
      simp only [puts, more]
      exact List.mem_append_left _ member
    · intro other ack same _
      rw [holds] at same
      cases same
      simp only [puts, more]
      exact List.mem_concat_self
    · intro other member
      simp only [puts, more, List.mem_append, List.mem_singleton] at member
      rcases member with before | rfl
      · exact .inl before
      · exact .inr holds
  · have plain :
      ∀ other ack, reservedBy producer = some other → other.commitAck = some ack → False := by
      intro other ack reserved carries
      have runs := (sound.reserved producer (List.mem_of_getElem? found) other ack reserved
        carries).2.1
      have stopped : w.loop.closed = true := isClosed
      rw [runs] at stopped
      cases stopped
    have same : ∀ u : World, Frame u v → u.acks = w.acks →
        u.producers = w.producers.eraseIdx index → u.queue = w.queue → u.worker = w.worker →
        u.closed = w.closed → u.loop = w.loop → Leaves w v index producer := by
      intro u frame acks producers queue worker closed loop
      have put : puts v = puts w := by
        rw [frame.puts]
        simp only [puts, loop]
      refine ⟨frame.acks.trans acks, frame.producers.trans producers, frame.queue.trans queue,
        frame.worker.trans worker, frame.closed.trans closed, ?_, ?_, ?_, ?_⟩
      · rw [frame.loopClosed, loop]
      · intro other member
        rw [put]
        exact member
      · intro other ack reserved carries
        exact absurd carries (plain other ack reserved)
      · intro other member
        rw [put] at member
        exact .inl member
    rcases frames with frame | frame
    · exact ⟨same _ frame rfl rfl rfl rfl rfl rfl, Woken.of_eq frame.commits⟩
    · refine ⟨same _ frame rfl rfl rfl rfl rfl rfl, ?_⟩
      intro call commit is
      rw [frame.commits] at is
      exact woken_wake w call commit is

theorem Leaves.setCommit {call : Nat}
    (leaves : Leaves w v index producer) (woken : Woken w v) (sound : Sound w)
    (found : w.producers[index]? = some producer) (its : producer.commit = some call)
    (ok : PhaseOk v call phase) : Sound (v.setCommit call phase) := by
  have after : Leaves w (v.setCommit call phase) index producer :=
    ⟨leaves.acks, leaves.producers, leaves.queue, leaves.worker, leaves.closed, leaves.loopClosed,
      leaves.kept, leaves.moved, leaves.only⟩
  refine after.sound sound found ?_
  intro other commit is
  simp only [World.setCommit, List.getElem?_modify, Option.map_eq_map,
    Option.map_eq_some_iff] at is
  obtain ⟨before, was, rfl⟩ := is
  by_cases same : call = other
  · subst same
    rw [if_pos rfl]
    exact ok
  · rw [if_neg same]
    refine leaves.phases woken sound found (.inl ?_) was
    intro also
    rw [its] at also
    cases also
    exact same rfl

theorem Sound.produce (sound : Sound w) (found : w.producers[index]? = some producer) :
    Sound ({ w with producers := w.producers.eraseIdx index }.produce producer now) := by
  cases phase : producer.phase with
  | admitted payload =>
    have idle : reservedBy producer = none := by
      unfold reservedBy
      rw [phase]
    have leaves : Leaves w { w with producers := w.producers.eraseIdx index } index producer := by
      refine ⟨rfl, rfl, rfl, rfl, rfl, rfl, fun _ => id, ?_, fun _ => .inl⟩
      intro envelope ack reserved
      rw [idle] at reserved
      cases reserved
    have left : Sound { w with producers := w.producers.eraseIdx index } :=
      leaves.sound sound found fun call commit is =>
        leaves.phases (Woken.of_eq rfl) sound found (.inr idle) is
    unfold World.produce
    simp only [phase]
    split
    · next is =>
      refine (left.frame (reserve_frame is).1).join ?_
      intro envelope reserved
      cases reserved
      rfl
    · next is => exact left.frame (reserve_frame is).1
  | reserved envelope =>
    have holds : reservedBy producer = some envelope := by
      unfold reservedBy
      rw [phase]
    obtain ⟨after, answer, scheduling, outcome⟩ := @produce_reserved
      { w with producers := w.producers.eraseIdx index } producer envelope now phase
    obtain ⟨leaves, woken⟩ := schedule_leaves sound found holds scheduling
    rcases outcome with ⟨none, is⟩ | ⟨call, its, ⟨ack, carries, _, is⟩ | is⟩
    · rw [is]
      refine leaves.sound sound found fun call commit is => ?_
      refine leaves.phases woken sound found (.inl ?_) is
      rw [none]
      simp
    · rw [is]
      refine leaves.setCommit woken sound found its ?_
      have bound := (sound.reserved producer (List.mem_of_getElem? found) envelope ack holds
        carries).2.2
      unfold PhaseOk
      rw [leaves.acks]
      exact bound
    · rw [is]
      exact leaves.setCommit woken sound found its trivial

theorem Sound.callback (sound : Sound w) (balanced : Balanced (ledger w))
    (done : step w (.callback now) = some v) : Sound v := by
  obtain ⟨callback, ready, _, isReady, split, rfl⟩ := callback_cases done
  cases callback with
  | putReserved envelope =>
    have room : w.queue.length < w.capacity := by
      refine (Accounted.of_balanced balanced).room ?_
      rw [split]
      simp [putBy]
    simp only [World.runCallback, World.putReserved, Nat.not_le.mpr room, if_false]
    refine ⟨?_, sound.reserved, sound.phases, ?_⟩
    · intro ack pending
      obtain ⟨other, member, carries⟩ := sound.carried ack pending
      refine ⟨other, ?_, carries⟩
      rw [mem_travelling, split] at member
      rw [mem_travelling]
      simp only [putBy, Option.toList_some, List.mem_append, List.mem_singleton] at member ⊢
      rcases member with reserved | (rfl | put) | queued | taken
      · exact .inl reserved
      · exact .inr (.inr (.inl (.inr rfl)))
      · exact .inr (.inl put)
      · exact .inr (.inr (.inl (.inl queued)))
      · exact .inr (.inr (.inr taken))
    · intro isFailed
      obtain ⟨isClosed, none⟩ := sound.failed isFailed
      refine ⟨isClosed, ?_⟩
      intro other member
      rw [split] at none
      simp only [putBy, Option.toList_some, List.mem_append, List.mem_singleton] at none member
      rcases member with (reserved | put) | queued | rfl
      · exact none other (.inl (.inl reserved))
      · exact none other (.inl (.inr (.inr put)))
      · exact none other (.inr queued)
      · exact none other (.inl (.inr (.inl rfl)))
  | setSpaceAvailable =>
    exact Sound.wake (sound.frame ⟨rfl, rfl, split.symm, rfl, rfl, rfl, rfl, rfl⟩)
  | clearSpaceAvailable =>
    exact sound.frame ⟨rfl, rfl, split.symm, rfl, rfl, rfl, rfl, rfl⟩

/-- What acknowledgements do. -/
structure Settled (w v : World) (envelopes : List InboxEnvelope) : Prop where
  pending : ∀ ack, v.acks[ack]? = some .pending → w.acks[ack]? = some .pending ∧
    ∀ envelope ∈ envelopes, envelope.commitAck ≠ some ack
  length : v.acks.length = w.acks.length
  producers : v.producers = w.producers
  loop : v.loop = w.loop
  queue : v.queue = w.queue
  worker : v.worker = w.worker
  closed : v.closed = w.closed
  woken : Woken w v

theorem acknowledge_settled {error : Option String}
    (done : w.acknowledge envelope error = some v) : Settled w v [envelope] := by
  unfold World.acknowledge at done
  split at done
  · cases done
  · cases done
    refine ⟨?_, length_settleAll .., rfl, rfl, rfl, rfl, rfl, woken_wake w⟩
    intro ack pending
    have outcome : ackOutcome error ≠ .pending := by
      cases error with
      | none => simp [ackOutcome]
      | some error => simp [ackOutcome]
    obtain ⟨before, named⟩ := pending_settleAll outcome pending
    refine ⟨before, ?_⟩
    intro other member
    rw [List.mem_singleton] at member
    subst member
    simpa using named

theorem Woken.trans {u : World} (first : Woken w u) (second : Woken u v) : Woken w v := by
  intro call commit is
  obtain ⟨between, middle, same⟩ := second call commit is
  obtain ⟨before, was, also⟩ := first call between middle
  refine ⟨before, was, ?_⟩
  rcases same with same | same
  · rw [same]
    exact also
  · rw [same]
    rcases also with also | also
    · rw [also]
      exact .inr rfl
    · rw [also, wake_wake]
      exact .inr rfl

theorem acknowledgeAll_settled {envelopes : List InboxEnvelope} {error : Option String}
    (done : w.acknowledgeAll error envelopes = some v) : Settled w v envelopes := by
  induction envelopes generalizing w with
  | nil =>
    cases done
    exact ⟨fun _ pending => ⟨pending, by simp⟩, rfl, rfl, rfl, rfl, rfl, rfl, Woken.of_eq rfl⟩
  | cons envelope rest ih =>
    simp only [World.acknowledgeAll, Option.bind_eq_bind, Option.bind_eq_some_iff] at done
    obtain ⟨u, first, others⟩ := done
    have one := acknowledge_settled first
    have more := ih others
    refine ⟨?_, more.length.trans one.length, more.producers.trans one.producers,
      more.loop.trans one.loop, more.queue.trans one.queue, more.worker.trans one.worker,
      more.closed.trans one.closed, one.woken.trans more.woken⟩
    intro ack pending
    obtain ⟨between, notRest⟩ := more.pending ack pending
    obtain ⟨before, notFirst⟩ := one.pending ack between
    refine ⟨before, ?_⟩
    intro other member
    rcases List.mem_cons.mp member with rfl | later
    · exact notFirst other (List.mem_singleton.mpr rfl)
    · exact notRest other later

theorem Settled.sound {envelopes : List InboxEnvelope} {phase : WorkerPhase}
    (settled : Settled w v envelopes) (sound : Sound w) (goesOn : phase ≠ .failed)
    (left : ∀ envelope ∈ w.worker.unacknowledged,
      envelope ∈ envelopes ∨ envelope ∈ phase.unacknowledged) :
    Sound { v with worker := phase } := by
  refine ⟨?_, ?_, ?_, fun isFailed => absurd isFailed goesOn⟩
  · intro ack pending
    obtain ⟨before, others⟩ := settled.pending ack pending
    obtain ⟨envelope, member, carries⟩ := sound.carried ack before
    refine ⟨envelope, ?_, carries⟩
    rw [mem_travelling] at member ⊢
    simp only [puts, settled.producers, settled.loop, settled.queue] at member ⊢
    rcases member with reserved | put | queued | taken
    · exact .inl reserved
    · exact .inr (.inl put)
    · exact .inr (.inr (.inl queued))
    · rcases left envelope taken with acknowledged | stays
      · exact absurd carries (others envelope acknowledged)
      · exact .inr (.inr (.inr stays))
  · simp only [settled.producers, settled.loop, settled.length]
    exact sound.reserved
  · intro call commit is
    obtain ⟨before, was, same⟩ := settled.woken call commit is
    have ok := sound.phases call before was
    rcases same with same | same
    · rw [same]
      exact ok.of_eq settled.producers settled.length settled.closed
    · rw [same]
      exact ok.wake_of_eq settled.producers settled.length

theorem mem_adapt {validEnvelopes batch : List InboxEnvelope}
    (member : envelope ∈ validEnvelopes ∨ envelope ∈ batch) :
    envelope ∈ (adapt validEnvelopes batch).unacknowledged := by
  induction batch generalizing validEnvelopes with
  | nil =>
    rcases member with valid | none
    · cases validEnvelopes with
      | nil => cases valid
      | cons first rest => exact valid
    · cases none
  | cons first rest ih =>
    unfold adapt
    rw [List.mem_cons] at member
    split
    · simp only [WorkerPhase.unacknowledged, List.mem_cons, List.mem_append]
      rcases member with valid | here | later
      · exact .inr (.inl valid)
      · exact .inl here
      · exact .inr (.inr later)
    · refine ih ?_
      rw [List.mem_append, List.mem_singleton]
      rcases member with valid | here | later
      · exact .inl (.inl valid)
      · exact .inl (.inr here)
      · exact .inr later

theorem adapt_goes_on (validEnvelopes batch : List InboxEnvelope) :
    adapt validEnvelopes batch ≠ .failed := by
  induction batch generalizing validEnvelopes with
  | nil =>
    unfold adapt
    split
    · simp
    · simp
  | cons envelope rest ih =>
    unfold adapt
    split
    · simp
    · exact ih _

theorem Sound.reduce (sound : Sound w) (done : w.reduce = some v) : Sound v := by
  unfold World.reduce at done
  split at done
  · next batch here =>
    cases done
    have settled : Settled w w [] :=
      ⟨fun _ pending => ⟨pending, by simp⟩, rfl, rfl, rfl, rfl, rfl, rfl, Woken.of_eq rfl⟩
    refine settled.sound sound (adapt_goes_on _ _) ?_
    intro envelope member
    rw [here] at member
    exact .inr (mem_adapt (.inr member))
  · next envelope rest validEnvelopes here =>
    simp only [Option.bind_eq_bind, Option.bind_eq_some_iff] at done
    obtain ⟨u, first, last⟩ := done
    cases last
    refine (acknowledge_settled first).sound sound (adapt_goes_on _ _) ?_
    intro other member
    rw [here] at member
    simp only [WorkerPhase.unacknowledged, List.mem_cons, List.mem_append] at member
    rcases member with rfl | left
    · exact .inl (List.mem_singleton.mpr rfl)
    · exact .inr (mem_adapt left)
  · next validEnvelopes here =>
    simp only [Option.bind_eq_bind, Option.bind_eq_some_iff] at done
    obtain ⟨u, all, last⟩ := done
    cases last
    refine (acknowledgeAll_settled all).sound sound ?_ ?_
    · split
      · simp
      · simp
    · intro other member
      rw [here] at member
      exact .inl member
  · cases done

theorem Sound.fail {error : String} (sound : Sound w) (free : w.loopFree = true)
    (queued : ∀ envelope ∈ puts w, envelope.commitAck = none) (done : w.fail error = some v) :
    Sound v := by
  simp only [World.fail, Option.bind_eq_bind, Option.bind_eq_some_iff] at done
  obtain ⟨u, all, rest⟩ := done
  have first := acknowledgeAll_settled all
  have last := acknowledgeAll_settled rest
  have plain : ∀ envelope ∈ w.producers.filterMap reservedBy, envelope.commitAck = none := by
    intro envelope member
    obtain ⟨producer, inList, reserved⟩ := List.mem_filterMap.mp member
    cases carries : envelope.commitAck with
    | none => rfl
    | some ack =>
      have own := (sound.reserved producer inList envelope ack reserved carries).1
      have foreign := List.all_eq_true.mp free producer inList
      rw [own] at foreign
      cases foreign
  have producers : v.producers = w.producers := last.producers.trans first.producers
  have loop : v.loop = w.loop := last.loop.trans first.loop
  have put : puts v = puts w := by simp only [puts, loop]
  have empty : v.queue = [] := last.queue
  have length : v.acks.length = w.acks.length := last.length.trans first.length
  have isClosed : v.closed = true := last.closed
  refine ⟨?_, ?_, ?_, ?_⟩
  · intro ack pending
    obtain ⟨between, notQueued⟩ := last.pending ack pending
    obtain ⟨before, notTaken⟩ := first.pending ack between
    obtain ⟨envelope, member, carries⟩ := sound.carried ack before
    rw [mem_travelling] at member
    rcases member with reserved | isPut | inQueue | taken
    · rw [plain envelope reserved] at carries
      cases carries
    · rw [queued envelope isPut] at carries
      cases carries
    · refine absurd carries (notQueued envelope ?_)
      rw [← first.queue] at inQueue
      exact inQueue
    · exact absurd carries (notTaken envelope taken)
  · rw [producers, loop, length]
    exact sound.reserved
  · intro call commit is
    obtain ⟨between, middle, same⟩ := last.woken call commit is
    -- Closing the inbox woke every call that waited for space.
    obtain ⟨earlier, isEarlier, rfl⟩ : ∃ earlier, u.commits[call]? = some earlier ∧
        { earlier with phase := earlier.phase.wake } = between := by
      simpa only [World.close, World.wake, List.getElem?_map, Option.map_eq_some_iff] using middle
    obtain ⟨before, was, also⟩ := first.woken call earlier isEarlier
    have woken : commit.phase = before.phase.wake := by
      rcases same with same | same <;> rcases also with also | also <;>
        simp only [same, also, wake_wake]
    rw [woken]
    exact (sound.phases call before was).wake_of_eq producers length
  · intro _
    refine ⟨isClosed, ?_⟩
    intro envelope member
    simp only [reservations, List.mem_append, producers, put, empty] at member
    rcases member with (reserved | isPut) | none
    · exact plain envelope reserved
    · exact queued envelope isPut
    · cases none

theorem Sound.resumeCommit (sound : Sound w)
    (isOpen : w.loop.closed = false) (done : w.resumeCommit index now = some v) : Sound v := by
  simp only [World.resumeCommit, Option.bind_eq_bind, Option.bind_eq_some_iff] at done
  obtain ⟨commit, _, rest⟩ := done
  split at rest
  · cases rest
    exact sound.attempt isOpen
  · simp only [Option.bind_eq_some_iff] at rest
    obtain ⟨_, _, _, _, rest⟩ := rest
    cases rest
    exact sound.setCommit trivial
  · cases rest

theorem Sound.cancelCommit (sound : Sound w) (done : w.cancelCommit index = some v) : Sound v := by
  simp only [World.cancelCommit, Option.bind_eq_bind, Option.bind_eq_some_iff] at done
  obtain ⟨commit, found, rest⟩ := done
  split at rest
  · cases rest
    exact sound.setCommit trivial
  · next phase =>
    cases rest
    have ok := sound.phases index commit found
    rw [phase] at ok
    exact sound.setCommit ok
  · cases rest

theorem Sound.call {commit : Commit} (sound : Sound w)
    (ok : ∀ index, PhaseOk w index commit.phase) :
    Sound { w with commits := w.commits ++ [commit] } := by
  refine ⟨sound.carried, sound.reserved, ?_, sound.failed⟩
  intro index other found
  by_cases old : index < w.commits.length
  · rw [List.getElem?_append_left old] at found
    exact sound.phases index other found
  · rw [List.getElem?_append_right (Nat.not_lt.mp old)] at found
    have here := List.mem_of_getElem? found
    rw [List.mem_singleton] at here
    subst here
    exact ok index

theorem Sound.take (sound : Sound w) (done : step w .take = some v) : Sound v := by
  simp only [step] at done
  split at done
  · next ready =>
    cases done
    refine ⟨?_, sound.reserved, sound.phases, ?_⟩
    · intro ack pending
      obtain ⟨envelope, member, carries⟩ := sound.carried ack pending
      refine ⟨envelope, ?_, carries⟩
      rw [mem_travelling, ready.2.1] at member
      rw [mem_travelling]
      rcases member with reserved | put | queued | none
      · exact .inl reserved
      · exact .inr (.inl put)
      · rw [← List.take_append_drop (max 1 w.batchSize) w.queue] at queued
        rcases List.mem_append.mp queued with taken | stays
        · exact .inr (.inr (.inr taken))
        · exact .inr (.inr (.inl stays))
      · cases none
    · intro isFailed
      cases isFailed
  · cases done

theorem step_sound {label : Label} (sound : Sound w)
    (balanced : w.loop.closed = false → Balanced (ledger w)) (queued : CommitsQueued w label)
    (done : step w label = some v) : Sound v := by
  have runs : w.onLoop = true → w.loop.closed = false ∧ w.loopFree = true := by
    intro free
    simpa [World.onLoop] using free
  cases label with
  | submitSdk onLoop payload =>
    simp only [step] at done
    split at done
    · cases done
    · split at done
      · cases done
        exact sound
      · cases done
        refine sound.join ?_
        intro envelope reserved
        cases reserved
  | submitInternal onLoop source payload internalEventId now =>
    simp only [step] at done
    split at done
    · cases done
    · split at done
      · cases done
        exact sound
      · split at done
        · next is =>
          cases done
          refine (sound.frame (reserve_frame is).1).join ?_
          intro envelope reserved
          cases reserved
          rfl
        · next is =>
          cases done
          exact sound.frame (reserve_frame is).1
  | produce index now =>
    simp only [step, Option.bind_eq_bind, Option.bind_eq_some_iff] at done
    obtain ⟨producer, found, rest⟩ := done
    cases rest
    exact sound.produce found
  | commit source payload internalEventId now =>
    simp only [step] at done
    split at done
    · cases done
    · next free =>
      have isOpen := (runs (by simpa using free)).1
      split at done
      · cases done
        refine Sound.attempt (sound.call ?_) isOpen
        intro index _
        rfl
      · cases done
        refine sound.call ?_
        intro index
        trivial
  | resumeCommit index now =>
    simp only [step] at done
    split at done
    · next free => exact sound.resumeCommit (runs free).1 done
    · cases done
  | cancelCommit index =>
    simp only [step] at done
    split at done
    · exact sound.cancelCommit done
    · cases done
  | callback now =>
    obtain ⟨_, _, free, _⟩ := callback_cases done
    exact sound.callback (balanced (runs free).1) done
  | take => exact sound.take done
  | worker answer =>
    simp only [step] at done
    split at done
    · next free =>
      split at done
      · next fails =>
        refine sound.fail (runs free).2 (queued ?_) done
        rw [fails]
        rfl
      · split at done
        · exact sound.reduce done
        · cases done
    · cases done
  | stop =>
    simp only [step] at done
    split at done
    · cases done
      exact sound.frame ⟨rfl, rfl, rfl, rfl, rfl, rfl, rfl, rfl⟩
    · cases done
  | close =>
    simp only [step] at done
    split at done
    · cases done
      refine ⟨sound.carried, sound.reserved, ?_, fun isFailed => ⟨rfl, (sound.failed isFailed).2⟩⟩
      intro index commit found
      simp only [World.close, World.wake, List.getElem?_map, Option.map_eq_some_iff] at found
      obtain ⟨before, was, rfl⟩ := found
      exact (sound.phases index before was).wake_of_eq rfl rfl
    · cases done
  | closeLoop =>
    simp only [step] at done
    split at done
    · next free =>
      cases done
      refine ⟨sound.carried, ?_, sound.phases, sound.failed⟩
      intro producer member envelope ack reserved carries
      have own := (sound.reserved producer member envelope ack reserved carries).1
      have foreign := List.all_eq_true.mp free producer member
      rw [own] at foreign
      cases foreign
    · cases done

end Steps

/-! ## The guarantee -/

theorem fresh_sound (capacity : Nat) (positive : 1 ≤ capacity) (batchSize : Nat) :
    Sound (fresh capacity positive batchSize) := by
  refine ⟨?_, ?_, ?_, ?_⟩
  · intro ack pending
    cases pending
  · intro producer member
    cases member
  · intro index commit found
    cases found
  · intro isFailed
    cases isFailed

def CanEnd (w : World) (index : Nat) : Prop :=
  ∀ now, ∃ v ending, (v = w ∨ step w (.resumeCommit index now) = some v) ∧
    (v.commits[index]?).map (·.phase) = some (.ended ending)

theorem setCommit_ended {w : World} {commit : Commit} {ending : Ending}
    (found : w.commits[index]? = some commit) :
    ((w.setCommit index (.ended ending)).commits[index]?).map (·.phase) =
      some (.ended ending) := by
  simp [World.setCommit, found]

/-- In every run in which no put of a committer is scheduled when the worker fails: once it
has failed, every acknowledgement is resolved, and whenever the loop's thread is free every
call of `commit_internal` and `commit_recovered_sdk` can return or raise. -/
theorem failure_releases_committers {capacity batchSize : Nat} {positive : 1 ≤ capacity}
    {labels : List Label} {v : World}
    (queued : Along step CommitsQueued (fresh capacity positive batchSize) labels)
    (ran : run step (fresh capacity positive batchSize) labels = some v)
    (isFailed : v.worker = .failed) :
    (∀ future ∈ v.acks, future.done = true) ∧
      (v.onLoop = true → ∀ index < v.commits.length, CanEnd v index) := by
  have keep : ∀ s label t,
      ((s.loop.closed = false → Balanced (ledger s)) ∧ Sound s) → CommitsQueued s label →
      step s label = some t → (t.loop.closed = false → Balanced (ledger t)) ∧ Sound t := by
    intro s label t inv ok taken
    exact ⟨step_balanced inv.1 taken, step_sound inv.2 inv.1 ok taken⟩
  have start : ((fresh capacity positive batchSize).loop.closed = false →
      Balanced (ledger (fresh capacity positive batchSize))) ∧
      Sound (fresh capacity positive batchSize) :=
    ⟨fun _ => fresh_balanced .., fresh_sound ..⟩
  have sound : Sound v := (@run_inv_along _ _ _ _
    (fun s => (s.loop.closed = false → Balanced (ledger s)) ∧ Sound s) keep _ _ _ queued start
    ran).2
  obtain ⟨isClosed, none⟩ := sound.failed isFailed
  have resolved : ∀ future ∈ v.acks, future.done = true := by
    intro future member
    obtain ⟨ack, is⟩ := List.mem_iff_getElem?.mp member
    cases future with
    | pending =>
      obtain ⟨envelope, travels, carries⟩ := sound.carried ack is
      unfold travelling at travels
      rw [isFailed] at travels
      rcases List.mem_append.mp travels with before | taken
      · rw [none envelope before] at carries
        cases carries
      · cases taken
    | cancelled | result | exception => rfl
  refine ⟨resolved, ?_⟩
  intro free index bound now
  obtain ⟨isOpen, isFree⟩ : v.loop.closed = false ∧ v.loopFree = true := by
    simpa [World.onLoop] using free
  obtain ⟨commit, found⟩ : ∃ commit, v.commits[index]? = some commit :=
    ⟨_, List.getElem?_eq_getElem bound⟩
  have ok := sound.phases index commit found
  cases phase : commit.phase with
  | waitingForSpace woken =>
    rw [phase] at ok
    have isWoken := ok isClosed
    subst isWoken
    refine ⟨v.setCommit index (.ended (.raised "RuntimeError")), .raised "RuntimeError", .inr ?_,
      setCommit_ended found⟩
    simp [step, free, World.resumeCommit, found, phase, World.attempt, World.reserve, isClosed]
  | scheduling ack =>
    rw [phase] at ok
    obtain ⟨producer, member, own, _⟩ := ok
    have foreign := List.all_eq_true.mp isFree producer member
    rw [own] at foreign
    cases foreign
  | awaitingAck ack cancelled =>
    rw [phase] at ok
    obtain ⟨future, is⟩ : ∃ future, v.acks[ack]? = some future :=
      ⟨_, List.getElem?_eq_getElem ok⟩
    have done := resolved future (List.mem_of_getElem? is)
    obtain ⟨ending, ends⟩ : ∃ ending, afterAck cancelled future = some ending := by
      cases future with
      | pending => cases done
      | cancelled | result | exception => exact ⟨_, rfl⟩
    refine ⟨v.setCommit index (.ended ending), ending, .inr ?_, setCommit_ended found⟩
    simp [step, free, World.resumeCommit, found, phase, is, ends]
  | ended ending =>
    refine ⟨v, ending, .inl rfl, ?_⟩
    rw [found, Option.map_some, phase]

/-- One commit is being persisted when another one is made. -/
def twoCommits : List Label :=
  [.commit .internal .event (some "first") 1, .produce 0 1, .callback 2, .take, .worker .succeeds,
    .commit .internal .event (some "second") 3, .produce 0 3]

/-- The second put has run when the worker fails. -/
theorem failure_releases_committers_twoCommits :
    ∃ v, run step (fresh 4 (by decide) 64)
        (twoCommits ++ [.callback 4, .worker (.raises "OperationalError")]) = some v ∧
      v.acks.length = 2 ∧ v.commits.length = 2 ∧ (∀ future ∈ v.acks, future.done = true) ∧
      ∀ index < v.commits.length, CanEnd v index := by
  have outcome : (run step (fresh 4 (by decide) 64)
      (twoCommits ++ [.callback 4, .worker (.raises "OperationalError")])).map
      (fun v => (v.acks.length, v.commits.length, v.worker, v.onLoop)) =
      some (2, 2, .failed, true) := by decide +kernel
  obtain ⟨v, ran, fields⟩ := Option.map_eq_some_iff.mp outcome
  simp only [Prod.mk.injEq] at fields
  obtain ⟨two, calls, isFailed, free⟩ := fields
  have released := failure_releases_committers (by decide +kernel) ran isFailed
  exact ⟨v, ran, two, calls, released.1, released.2 free⟩

/-- The second put runs after the failure: its envelope stays on the queue of the closed inbox,
and the call that waits for its acknowledgement cannot resume. -/
theorem late_put_strands_committer :
    ∃ v ∈ run step (fresh 4 (by decide) 64)
        (twoCommits ++ [.worker (.raises "OperationalError"), .callback 4]),
      v.worker = .failed ∧ v.loop.ready = [] ∧ v.onLoop = true ∧ v.acks[1]? = some .pending ∧
        v.queue.map (·.commitAck) = [some 1] ∧
        (v.commits[1]?).map (·.phase) = some (.awaitingAck 1 false) ∧
        (step v (.resumeCommit 1 5)).isNone = true := by
  decide +kernel

end Copilotd.Guarantees.ReducerFailure
