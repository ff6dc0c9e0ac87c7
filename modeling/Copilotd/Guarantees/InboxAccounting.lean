import Copilotd.Base.Pool
import Copilotd.Base.Tickets
import Copilotd.Source.Core.ReducerInbox

/-!
# Accounting of the reducer inbox

The inbox is a ledger of tickets (`ledger`): a reservation draws an inbox sequence number
and, for an SDK event, an SDK sequence number, and its put is under way until the loop has
run it.  Every step is a sequence of moves of the ledger unless a producer on another thread
needs the loop after it was closed, so `inbox_accounting` holds along every run without
such a step.

On a closed loop `_set_space_available` raises in the handler of `_schedule` before the loss is
recorded: the event is then neither enqueued nor counted (`closed_loop_loses_event`).
-/
namespace Copilotd.Guarantees.InboxAccounting

open Base Base.Run Base.Tickets Source.Core.ReducerInbox Relation

/-! ## The ledger of an inbox -/

def ticketOf (envelope : InboxEnvelope) : Ticket := (envelope.inboxSeq, envelope.sdkReceiveSeq)

def reservedBy (producer : Producer) : Option InboxEnvelope :=
  match producer.phase with
  | .admitted _ => none
  | .reserved envelope => some envelope

def putBy : Callback → Option InboxEnvelope
  | .putReserved envelope => some envelope
  | .setSpaceAvailable | .clearSpaceAvailable => none

/-- Reservations whose put is not scheduled yet. -/
def reservations (w : World) : List InboxEnvelope := w.producers.filterMap reservedBy

def puts (w : World) : List InboxEnvelope := w.loop.ready.filterMap putBy

def ledger (w : World) : Ledger where
  capacity := w.capacity
  outstanding := w.outstanding
  timed := w.outstandingReceivedAt.length
  serial := w.nextInboxSeq
  lane := w.nextSdkReceiveSeq
  underway := ((reservations w ++ puts w).map ticketOf : List Ticket)
  queued := w.queue.length
  taken := w.worker.unacknowledged.length
  delivered := (w.enqueued.map ticketOf : List Ticket)
  lost := (w.lost : Multiset Ticket)
  counted := (w.overflow.map (·.lostCount)).getD 0

abbrev Moves := ReflTransGen Move

/-! ## Threads and the loop -/

/-- A thread reaches the loop: it is the loop's own, or the loop is open. -/
def reaches (w : World) (onLoop : Bool) : Bool := onLoop || !w.loop.closed

/-- The next reservation takes the last place. -/
def fills (w : World) : Bool := !w.closed && w.outstanding + 1 = w.capacity

def needsLoop (w : World) (producer : Producer) : Bool :=
  match producer.phase with
  | .admitted _ => fills w
  | .reserved _ => true

def LoopReached (w : World) : Label → Prop
  | .submitInternal onLoop .. => fills w → reaches w onLoop
  | .produce index _ =>
    ∀ producer ∈ w.producers[index]?, needsLoop w producer → reaches w producer.onLoop
  | _ => True

instance (w : World) (label : Label) : Decidable (LoopReached w label) := by
  unfold LoopReached
  split <;> infer_instance

section Steps

variable {w v : World}

variable {callback : Callback}

theorem callSoon_eq_some {loop after : Loop} :
    loop.callSoonThreadsafe callback = some after ↔
      loop.closed = false ∧ after = { loop with ready := loop.ready ++ [callback] } := by
  unfold Loop.callSoonThreadsafe
  cases loop.closed with
  | true => simp
  | false => simp [eq_comm]

theorem puts_schedule {ready : List Callback} (idle : putBy callback = none) :
    (ready ++ [callback]).filterMap putBy = ready.filterMap putBy := by
  rw [List.filterMap_append, List.filterMap_cons_none idle, List.filterMap_nil, List.append_nil]

theorem ledger_schedule (idle : putBy callback = none) :
    ledger { w with loop := { w.loop with ready := w.loop.ready ++ [callback] } } = ledger w := by
  simp only [ledger, puts, reservations, puts_schedule idle]

variable {onLoop : Bool}

theorem clear_reached (reached : reaches w onLoop) :
    ∃ v, w.clearSpaceAvailable onLoop = some v := by
  unfold World.clearSpaceAvailable
  cases onLoop with
  | true => exact ⟨_, rfl⟩
  | false =>
    have isOpen : w.loop.closed = false := by simpa [reaches] using reached
    simp [Loop.callSoonThreadsafe, isOpen]

theorem clear_ledger (cleared : w.clearSpaceAvailable onLoop = some v) :
    ledger v = ledger w ∧ v.producers = w.producers := by
  unfold World.clearSpaceAvailable at cleared
  cases onLoop with
  | true =>
    cases cleared
    exact ⟨rfl, rfl⟩
  | false =>
    simp only [Bool.false_eq_true, if_false, Option.map_eq_some_iff, callSoon_eq_some] at cleared
    obtain ⟨loop, ⟨_, rfl⟩, rfl⟩ := cleared
    exact ⟨ledger_schedule rfl, rfl⟩

theorem ledger_wake (w : World) : ledger w.wake = ledger w := rfl

theorem ledger_recordOverflow (w : World) (inboxSeq : Nat) (sdkReceiveSeq : Option Nat) (now : ℚ) :
    ledger (w.recordOverflow inboxSeq sdkReceiveSeq now) = { ledger w with
      lost := (inboxSeq, sdkReceiveSeq) ::ₘ (ledger w).lost
      counted := (ledger w).counted + 1 } := by
  unfold World.recordOverflow ledger
  cases w.overflow with
  | none => simp [puts, reservations]
  | some incident => simp [puts, reservations]

theorem drawn_ticket (w : World) (source : EnvelopeSource) :
    ((w.draw source).nextInboxSeq, (w.draw source).drawnSdkReceiveSeq source) =
      (ledger w).ticket (source = .sdk) := by
  by_cases sdk : source = .sdk
  · simp [World.draw, World.drawnSdkReceiveSeq, Ledger.ticket, ledger, sdk]
  · simp [World.draw, World.drawnSdkReceiveSeq, Ledger.ticket, ledger, sdk]

theorem ledger_draw (w : World) (source : EnvelopeSource) :
    ledger (w.draw source) = (ledger w).draw (source = .sdk) := by
  by_cases sdk : source = .sdk
  · simp [World.draw, Ledger.draw, ledger, puts, reservations, sdk]
  · simp [World.draw, Ledger.draw, ledger, puts, reservations, sdk]

variable {producer : Producer} {envelope : InboxEnvelope}

theorem ledger_join (w : World) (reserved : reservedBy producer = some envelope) :
    ledger { w with producers := w.producers ++ [producer] } =
      { ledger w with underway := ticketOf envelope ::ₘ (ledger w).underway } := by
  have more : (w.producers ++ [producer]).filterMap reservedBy =
      w.producers.filterMap reservedBy ++ [envelope] := by
    rw [List.filterMap_append, List.filterMap_cons_some reserved, List.filterMap_nil]
  simp only [ledger, reservations, puts, more, Ledger.mk.injEq, true_and, and_true]
  simp

theorem reserve_cases {recordOverflow : Bool} {source : EnvelopeSource} {now : ℚ}
    {reservation : Reservation} (reached : fills w → reaches w onLoop)
    (is : w.reserve onLoop source recordOverflow now = (v, reservation)) :
    ((∀ inboxSeq sdkReceiveSeq, reservation ≠ .reserved inboxSeq sdkReceiveSeq) ∧
        Moves (ledger w) (ledger v)) ∨
      ∃ inboxSeq sdkReceiveSeq, reservation = .reserved inboxSeq sdkReceiveSeq ∧
        ∀ producer envelope, reservedBy producer = some envelope →
          ticketOf envelope = (inboxSeq, sdkReceiveSeq) →
          Moves (ledger w) (ledger { v with producers := v.producers ++ [producer] }) := by
  unfold World.reserve at is
  split at is
  · cases is
    exact .inl ⟨by simp, .refl⟩
  · next isOpen =>
    split at is
    · split at is
      · cases is
        exact .inl ⟨by simp, .refl⟩
      · next cleared clearing =>
        have same := (clear_ledger clearing).1
        split at is
        · cases is
          refine .inl ⟨?_, ?_⟩
          · intro inboxSeq sdkReceiveSeq
            split <;> simp
          · refine .single ?_
            rw [ledger_recordOverflow, drawn_ticket, ledger_draw, same]
            exact .refuse _ _
        · cases is
          refine .inl ⟨by simp, ?_⟩
          rw [same]
    · next room =>
      have moves : ∀ producer envelope, reservedBy producer = some envelope →
          ticketOf envelope = ((w.draw source).nextInboxSeq,
            (w.draw source).drawnSdkReceiveSeq source) → ∀ u : World,
          ledger u = ledger { w.draw source with
            outstanding := (w.draw source).outstanding + 1
            outstandingReceivedAt := (w.draw source).outstandingReceivedAt ++ [now] } →
          Moves (ledger w) (ledger { u with producers := u.producers ++ [producer] }) := by
        intro producer envelope reserved ticket u after
        refine .single ?_
        rw [ledger_join u reserved, ticket, drawn_ticket, after]
        have drawn := ledger_draw w source
        have fields : ledger { w.draw source with
            outstanding := (w.draw source).outstanding + 1
            outstandingReceivedAt := (w.draw source).outstandingReceivedAt ++ [now] } =
            { (ledger w).draw (source = .sdk) with
              outstanding := (ledger w).outstanding + 1
              timed := (ledger w).timed + 1 } := by
          rw [← drawn]
          simp [ledger, puts, reservations, World.draw]
        rw [fields]
        exact .reserve _ _ (Nat.lt_of_not_le room)
      dsimp only at is
      split at is
      · next full =>
        split at is
        · next raised =>
          have filled : fills w = true := by
            simp only [fills, Bool.and_eq_true, Bool.not_eq_true', decide_eq_true_eq]
            simp only [World.draw] at full
            exact ⟨by simpa using isOpen, by omega⟩
          obtain ⟨u, cleared⟩ := @clear_reached { w.draw source with
            outstanding := (w.draw source).outstanding + 1
            outstandingReceivedAt := (w.draw source).outstandingReceivedAt ++ [now] } onLoop
            (reached filled)
          rw [cleared] at raised
          cases raised
        · next cleared clearing =>
          cases is
          refine .inr ⟨_, _, rfl, ?_⟩
          intro producer envelope reserved ticket
          exact moves producer envelope reserved ticket _ (clear_ledger clearing).1
      · cases is
        refine .inr ⟨_, _, rfl, ?_⟩
        intro producer envelope reserved ticket
        exact moves producer envelope reserved ticket _ rfl

theorem schedule_moves {now : ℚ} {answer : Option Bool}
    {before : Ledger} (reached : reaches w onLoop)
    (is : before = { ledger w with underway := ticketOf envelope ::ₘ (ledger w).underway })
    (scheduled : w.schedule onLoop envelope now = (v, answer)) : Moves before (ledger v) := by
  unfold World.schedule at scheduled
  split at scheduled
  · next loop accepted =>
    obtain ⟨_, rfl⟩ := callSoon_eq_some.mp accepted
    cases scheduled
    have same : ledger { w with
        loop := { w.loop with ready := w.loop.ready ++ [.putReserved envelope] } } = before := by
      rw [is]
      have more : (w.loop.ready ++ [Callback.putReserved envelope]).filterMap putBy =
          w.loop.ready.filterMap putBy ++ [envelope] := by
        rw [List.filterMap_append]
        rfl
      simp only [ledger, reservations, puts, more, Ledger.mk.injEq, true_and, and_true]
      rw [← List.append_assoc, List.map_append, ← Multiset.coe_add, add_comm]
      rfl
    rw [same]
  · next refused =>
    have isClosed : w.loop.closed = true := by
      unfold Loop.callSoonThreadsafe at refused
      split at refused
      · assumption
      · cases refused
    have own : onLoop = true := by simpa [reaches, isClosed] using reached
    subst own
    cases scheduled
    refine .single ?_
    rw [ledger_recordOverflow, ledger_wake, is]
    have released : ledger w.release = { ledger w with
        outstanding := (ledger w).outstanding - 1
        timed := (ledger w).timed - 1 } := by
      simp [ledger, World.release, puts, reservations]
    rw [released]
    exact .giveUp _ (ticketOf envelope) (ledger w).underway rfl

variable {now : ℚ}

theorem putReserved_moves {before : Ledger} (balanced : Balanced before)
    (is : before = { ledger w with underway := ticketOf envelope ::ₘ (ledger w).underway }) :
    Moves before (ledger (w.putReserved envelope now)) := by
  have room : w.queue.length < w.capacity := by
    have some : 0 < before.underway.card := by
      rw [is]
      simp
    have less := balanced.room some
    rw [is] at less
    exact less
  unfold World.putReserved
  rw [if_neg (Nat.not_le.mpr room)]
  refine .single ?_
  have after : ledger { w with
      queue := w.queue ++ [envelope], enqueued := w.enqueued ++ [envelope] } =
      { ledger w with
        queued := (ledger w).queued + 1
        delivered := ticketOf envelope ::ₘ (ledger w).delivered } := by
    simp [ledger, puts, reservations]
  rw [after, is]
  exact .deliver _ (ticketOf envelope) (ledger w).underway rfl

/-- What acknowledgements of `n` envelopes do to the ledger. -/
def acknowledged (l : Ledger) (n : Nat) : Ledger :=
  { l with outstanding := l.outstanding - n, timed := l.timed - n }

theorem acknowledge_ledger {error : Option String} (done : w.acknowledge envelope error = some v) :
    ledger v = acknowledged (ledger w) 1 ∧ v.worker = w.worker ∧ v.queue = w.queue := by
  unfold World.acknowledge at done
  split at done
  · cases done
  · cases done
    refine ⟨?_, rfl, rfl⟩
    simp [ledger, World.wake, puts, reservations, acknowledged]

theorem acknowledgeAll_ledger {envelopes : List InboxEnvelope} {error : Option String}
    (done : w.acknowledgeAll error envelopes = some v) :
    ledger v = acknowledged (ledger w) envelopes.length ∧ v.worker = w.worker ∧
      v.queue = w.queue := by
  induction envelopes generalizing w with
  | nil =>
    cases done
    exact ⟨rfl, rfl, rfl⟩
  | cons envelope rest ih =>
    simp only [World.acknowledgeAll, Option.bind_eq_bind, Option.bind_eq_some_iff] at done
    obtain ⟨u, first, others⟩ := done
    have one := acknowledge_ledger first
    have more := ih others
    rw [one.1, one.2.1, one.2.2] at more
    refine ⟨?_, more.2⟩
    rw [more.1, List.length_cons]
    simp only [acknowledged, Nat.sub_sub, Nat.add_comm 1]

theorem length_adapt (validEnvelopes batch : List InboxEnvelope) :
    (adapt validEnvelopes batch).unacknowledged.length =
      validEnvelopes.length + batch.length := by
  induction batch generalizing validEnvelopes with
  | nil =>
    cases validEnvelopes with
    | nil => rfl
    | cons envelope rest => rfl
  | cons envelope rest ih =>
    unfold adapt
    split
    · simp only [WorkerPhase.unacknowledged, List.length_cons, List.length_append]
      omega
    · rw [ih, List.length_append, List.length_cons, List.length_nil, List.length_cons]
      omega

theorem worker_moves {before : World} {n : Nat} {phase : WorkerPhase}
    (after : ledger w = acknowledged (ledger before) n)
    (left : n + phase.unacknowledged.length = before.worker.unacknowledged.length) :
    Moves (ledger before) (ledger { w with worker := phase }) := by
  have is : ledger { w with worker := phase } =
      { acknowledged (ledger before) n with taken := phase.unacknowledged.length } := by
    rw [← after]
    rfl
  have enough : n ≤ (ledger before).taken := by
    simp only [ledger]
    omega
  have taken : (ledger before).taken - n = phase.unacknowledged.length := by
    simp only [ledger]
    omega
  have move := Move.acknowledge (ledger before) n enough
  rw [taken] at move
  refine .single ?_
  rw [is]
  exact move

theorem reduce_moves (done : w.reduce = some v) : Moves (ledger w) (ledger v) := by
  unfold World.reduce at done
  split at done
  · next batch here =>
    cases done
    apply worker_moves (n := 0) rfl
    rw [length_adapt, here]
    simp [WorkerPhase.unacknowledged]
  · next envelope rest validEnvelopes here =>
    simp only [Option.bind_eq_bind, Option.bind_eq_some_iff] at done
    obtain ⟨u, first, rest⟩ := done
    cases rest
    apply worker_moves (acknowledge_ledger first).1
    rw [length_adapt, here]
    simp only [WorkerPhase.unacknowledged, List.length_cons, List.length_append]
    omega
  · next validEnvelopes here =>
    simp only [Option.bind_eq_bind, Option.bind_eq_some_iff] at done
    obtain ⟨u, all, rest⟩ := done
    cases rest
    apply worker_moves (acknowledgeAll_ledger all).1
    rw [here]
    split <;> rfl
  · cases done

theorem fail_moves {error : String} (done : w.fail error = some v) :
    Moves (ledger w) (ledger v) := by
  simp only [World.fail, Option.bind_eq_bind, Option.bind_eq_some_iff] at done
  obtain ⟨u, all, rest⟩ := done
  have first := acknowledgeAll_ledger all
  refine .trans (@worker_moves u w _ .failed first.1 rfl) ?_
  refine .single ?_
  have last := (acknowledgeAll_ledger rest).1
  rw [last]
  exact .discard _

variable {index : Nat}

theorem attempt_moves {commit : Commit} {now : ℚ} :
    Moves (ledger w) (ledger (w.attempt index commit now)) := by
  have cases := fun v reservation => @reserve_cases w v true false commit.source now reservation
    (fun _ => rfl)
  unfold World.attempt
  split
  · next after inboxSeq sdkReceiveSeq is =>
    rcases cases _ _ is with ⟨none, _⟩ | ⟨_, _, same, moves⟩
    · exact absurd rfl (none inboxSeq sdkReceiveSeq)
    · cases same
      exact moves _ _ rfl rfl
  · next after is =>
    rcases cases _ _ is with ⟨_, moves⟩ | ⟨_, _, same, _⟩
    · split
      · exact moves
      · exact moves
    · cases same
  · next after is =>
    rcases cases _ _ is with ⟨_, moves⟩ | ⟨_, _, same, _⟩
    · exact moves
    · cases same

theorem resumeCommit_moves (done : w.resumeCommit index now = some v) :
    Moves (ledger w) (ledger v) := by
  simp only [World.resumeCommit, Option.bind_eq_bind, Option.bind_eq_some_iff] at done
  obtain ⟨commit, _, rest⟩ := done
  split at rest
  · cases rest
    exact attempt_moves
  · simp only [Option.bind_eq_some_iff] at rest
    obtain ⟨_, _, _, _, rest⟩ := rest
    cases rest
    exact .refl
  · cases rest

theorem cancelCommit_moves (done : w.cancelCommit index = some v) :
    Moves (ledger w) (ledger v) := by
  simp only [World.cancelCommit, Option.bind_eq_bind, Option.bind_eq_some_iff] at done
  obtain ⟨commit, _, rest⟩ := done
  split at rest
  · cases rest
    exact .refl
  · cases rest
    exact .refl
  · cases rest

theorem ledger_leave (found : w.producers[index]? = some producer) :
    ledger w = { ledger { w with producers := w.producers.eraseIdx index } with
      underway := ((reservedBy producer).toList.map ticketOf : Multiset Ticket) +
        (ledger { w with producers := w.producers.eraseIdx index }).underway } := by
  have perm := Pool.filterMap_perm found reservedBy
  simp only [ledger, reservations, puts, Ledger.mk.injEq, true_and, and_true]
  rw [Multiset.coe_add, Multiset.coe_eq_coe, ← List.map_append, ← List.append_assoc]
  exact (perm.symm.append_right _).map _

theorem produce_reserved {now : ℚ} (phase : producer.phase = .reserved envelope) :
    ∃ after answer, w.schedule producer.onLoop envelope now = (after, answer) ∧
      ((producer.commit = none ∧ w.produce producer now = after) ∨
        ∃ index, producer.commit = some index ∧
          ((∃ ack, envelope.commitAck = some ack ∧ answer = some true ∧
              w.produce producer now = after.setCommit index (.awaitingAck ack false)) ∨
            w.produce producer now = after.setCommit index (.ended (.raised "RuntimeError")))) := by
  cases scheduling : w.schedule producer.onLoop envelope now with
  | mk after answer =>
    refine ⟨after, answer, rfl, ?_⟩
    unfold World.produce
    simp only [phase, scheduling]
    cases commit : producer.commit with
    | none =>
      refine .inl ⟨rfl, ?_⟩
      split
      · next is _ => cases is
      · next is _ => cases is
      · next same _ =>
        cases same
        rfl
    | some index =>
      refine .inr ⟨index, rfl, ?_⟩
      split
      · next same is carries =>
        cases same
        cases is
        exact .inl ⟨_, carries, rfl, rfl⟩
      · next same is _ =>
        cases same
        cases is
        exact .inr rfl
      · next is => cases is

theorem produce_moves (found : w.producers[index]? = some producer)
    (reached : needsLoop w producer → reaches w producer.onLoop) :
    Moves (ledger w)
      (ledger ({ w with producers := w.producers.eraseIdx index }.produce producer now)) := by
  have leave := ledger_leave found
  cases phase : producer.phase with
  | admitted payload =>
    have idle : reservedBy producer = none := by
      unfold reservedBy
      rw [phase]
    have needs : needsLoop w producer = fills w := by
      unfold needsLoop
      rw [phase]
    rw [idle] at leave
    rw [needs] at reached
    have same : ledger w = ledger { w with producers := w.producers.eraseIdx index } := by
      rw [leave]
      simp
    have cases := fun v reservation => @reserve_cases
      { w with producers := w.producers.eraseIdx index } v producer.onLoop true .sdk now reservation
      reached
    rw [same]
    unfold World.produce
    simp only [phase]
    split
    · next after inboxSeq sdkReceiveSeq is =>
      rcases cases _ _ is with ⟨none, _⟩ | ⟨_, _, equal, moves⟩
      · exact absurd rfl (none inboxSeq sdkReceiveSeq)
      · cases equal
        exact moves _ _ rfl rfl
    · next after reservation other is =>
      rcases cases _ _ is with ⟨_, moves⟩ | ⟨inboxSeq, sdkReceiveSeq, equal, _⟩
      · exact moves
      · exact absurd equal (other inboxSeq sdkReceiveSeq)
  | reserved envelope =>
    have holds : reservedBy producer = some envelope := by
      unfold reservedBy
      rw [phase]
    have needs : needsLoop w producer = true := by
      unfold needsLoop
      rw [phase]
    rw [holds] at leave
    have before : ledger w = { ledger { w with producers := w.producers.eraseIdx index } with
        underway := ticketOf envelope ::ₘ
          (ledger { w with producers := w.producers.eraseIdx index }).underway } := leave
    obtain ⟨after, answer, scheduling, outcome⟩ := @produce_reserved
      { w with producers := w.producers.eraseIdx index } producer envelope now phase
    have moves := @schedule_moves { w with producers := w.producers.eraseIdx index } after
      producer.onLoop envelope now answer (ledger w) (reached needs) before scheduling
    rcases outcome with ⟨_, is⟩ | ⟨_, _, ⟨_, _, _, is⟩ | is⟩
    · rw [is]
      exact moves
    · rw [is]
      exact moves
    · rw [is]
      exact moves

theorem callback_cases (done : step w (.callback now) = some v) :
    ∃ callback ready, w.onLoop = true ∧ w.loop.ready = callback :: ready ∧
      puts w = (putBy callback).toList ++ ready.filterMap putBy ∧
      v = { w with loop := { w.loop with ready } }.runCallback now callback := by
  simp only [step] at done
  split at done
  · next callback ready free isReady =>
    cases done
    refine ⟨callback, ready, free, isReady, ?_, rfl⟩
    unfold puts
    rw [isReady, List.filterMap_cons]
    cases putBy callback with
    | none => rfl
    | some envelope => rfl
  · cases done

theorem callback_moves (balanced : Balanced (ledger w))
    (done : step w (.callback now) = some v) : Moves (ledger w) (ledger v) := by
  obtain ⟨callback, ready, _, isReady, split, rfl⟩ := callback_cases done
  have underway : ledger w = { ledger { w with loop := { w.loop with ready } } with
      underway := ((putBy callback).toList.map ticketOf : Multiset Ticket) +
        (ledger { w with loop := { w.loop with ready } }).underway } := by
    unfold puts at split
    simp only [ledger, reservations, puts, split, Ledger.mk.injEq, true_and, and_true]
    rw [Multiset.coe_add, Multiset.coe_eq_coe, ← List.map_append]
    refine List.Perm.map _ ?_
    rw [← List.append_assoc, ← List.append_assoc]
    exact List.perm_append_comm.append_right _
  cases callback with
  | putReserved envelope => exact putReserved_moves balanced underway
  | setSpaceAvailable | clearSpaceAvailable =>
    rw [underway, putBy, Option.toList_none, List.map_nil, Multiset.coe_nil, zero_add]
    exact .refl

theorem step_moves {label : Label} (balanced : Balanced (ledger w)) (reached : LoopReached w label)
    (done : step w label = some v) : Moves (ledger w) (ledger v) := by
  cases label with
  | submitSdk onLoop payload =>
    simp only [step] at done
    split at done
    · cases done
    · split at done
      · cases done
        exact .refl
      · cases done
        have same : (w.producers ++ [Producer.mk onLoop none (.admitted payload)]).filterMap
            reservedBy = w.producers.filterMap reservedBy := by
          rw [List.filterMap_append, List.filterMap_cons_none rfl, List.filterMap_nil,
            List.append_nil]
        simp only [ledger, reservations, puts, same]
        exact .refl
  | submitInternal onLoop source payload internalEventId now =>
    simp only [step] at done
    split at done
    · cases done
    · split at done
      · cases done
        exact .refl
      · split at done
        · next after inboxSeq sdkReceiveSeq is =>
          cases done
          rcases reserve_cases reached is with ⟨none, _⟩ | ⟨_, _, same, moves⟩
          · exact absurd rfl (none inboxSeq sdkReceiveSeq)
          · cases same
            exact moves _ _ rfl rfl
        · next after reservation other is =>
          cases done
          rcases reserve_cases reached is with ⟨_, moves⟩ | ⟨inboxSeq, sdkReceiveSeq, same, _⟩
          · exact moves
          · exact absurd same (other inboxSeq sdkReceiveSeq)
  | produce index now =>
    simp only [step, Option.bind_eq_bind, Option.bind_eq_some_iff] at done
    obtain ⟨producer, found, rest⟩ := done
    cases rest
    exact produce_moves found (reached producer found)
  | commit source payload internalEventId now =>
    simp only [step] at done
    split at done
    · cases done
    · split at done
      · cases done
        exact @attempt_moves { w with commits := w.commits ++ [_] } _ _ now
      · cases done
        exact .refl
  | resumeCommit index now =>
    simp only [step] at done
    split at done
    · exact resumeCommit_moves done
    · cases done
  | cancelCommit index =>
    simp only [step] at done
    split at done
    · exact cancelCommit_moves done
    · cases done
  | callback now => exact callback_moves balanced done
  | take =>
    simp only [step] at done
    split at done
    · next ready =>
      cases done
      refine .single ?_
      have move := Move.take (ledger w) (w.queue.take (max 1 w.batchSize)).length (by
        simp only [ledger, List.length_take]
        omega)
      have left : w.queue.length - (w.queue.take (max 1 w.batchSize)).length =
          (w.queue.drop (max 1 w.batchSize)).length := by
        rw [List.length_take, List.length_drop]
        omega
      simp only [ledger, ready.2.1, WorkerPhase.unacknowledged, left, List.length_nil, Nat.zero_add]
        at move ⊢
      exact move
    · cases done
  | worker answer =>
    simp only [step] at done
    split at done
    · split at done
      · exact fail_moves done
      · split at done
        · exact reduce_moves done
        · cases done
    · cases done
  | stop | close | closeLoop =>
    simp only [step] at done
    split at done
    · cases done
      exact .refl
    · cases done

end Steps

/-! ## The guarantee -/

/-- An inbox on which nothing has happened yet. -/
def fresh (capacity : Nat) (positive : 1 ≤ capacity) (batchSize : Nat) : World :=
  { capacity, capacity_pos := positive, batchSize }

theorem fresh_balanced (capacity : Nat) (positive : 1 ≤ capacity) (batchSize : Nat) :
    Balanced (ledger (fresh capacity positive batchSize)) := by
  refine ⟨rfl, Nat.zero_le _, rfl, rfl, rfl, rfl⟩

structure Accounted (w : World) : Prop where
  outstanding : w.outstanding = (reservations w).length + (puts w).length + w.queue.length +
    w.worker.unacknowledged.length
  bound : w.outstanding ≤ w.capacity
  times : w.outstandingReceivedAt.length = w.outstanding
  /-- A scheduled put finds room. -/
  room : puts w ≠ [] → w.queue.length < w.capacity
  distinct : (w.enqueued.map (·.inboxSeq)).Nodup
  /-- Each SDK sequence number drawn is under way, enqueued or lost, once. -/
  explained : ∀ k, 1 ≤ k → k ≤ w.nextSdkReceiveSeq →
    ((reservations w ++ puts w).filterMap (·.sdkReceiveSeq)).count k +
      (w.enqueued.filterMap (·.sdkReceiveSeq)).count k + (w.lost.filterMap (·.2)).count k = 1
  /-- No other number is in use. -/
  drawn : ∀ envelope ∈ reservations w ++ puts w ++ w.enqueued, ∀ k ∈ envelope.sdkReceiveSeq,
    1 ≤ k ∧ k ≤ w.nextSdkReceiveSeq
  /-- The overflow counts each loss once. -/
  counted : (w.overflow.map (·.lostCount)).getD 0 = w.lost.length

theorem Accounted.of_balanced {w : World} (balanced : Balanced (ledger w)) : Accounted w := by
  have outstanding := balanced.outstanding
  refine ⟨?_, balanced.bound, balanced.timed, ?_, ?_, ?_, ?_, balanced.counted⟩
  · simp only [ledger, Multiset.coe_card, List.length_map, List.length_append] at outstanding
    exact outstanding
  · intro some
    refine balanced.room ?_
    have positive := List.length_pos_iff.mpr some
    simp only [ledger, Multiset.coe_card, List.length_map, List.length_append]
    omega
  · have nodup := balanced.delivered_nodup
    simp only [ledger, Multiset.map_coe, List.map_map, Multiset.coe_nodup] at nodup
    exact nodup
  · intro k positive drawn
    have once := balanced.count_lane positive drawn
    simp only [ledger, Multiset.filterMap_coe, List.filterMap_map, Multiset.coe_count] at once
    exact once
  · intro envelope member k is
    have ticket : k ∈ (ledger w).tickets.filterMap Prod.snd := by
      rw [Multiset.mem_filterMap]
      refine ⟨ticketOf envelope, ?_, is⟩
      apply List.mem_append_left
      rw [← List.map_append]
      exact List.mem_map_of_mem member
    rw [balanced.lanes, mem_upTo] at ticket
    exact ticket

/-- In every run from a fresh inbox in which a producer reaches the loop whenever it needs
it, the accounts are right in every state. -/
theorem inbox_accounting {capacity batchSize : Nat} {positive : 1 ≤ capacity} {labels : List Label}
    {v : World} (reached : Along step LoopReached (fresh capacity positive batchSize) labels)
    (ran : run step (fresh capacity positive batchSize) labels = some v) : Accounted v := by
  have keep : ∀ s label t, Balanced (ledger s) → LoopReached s label → step s label = some t →
      Balanced (ledger t) := by
    intro s label t balanced ok taken
    exact balanced.moves (step_moves balanced ok taken)
  have start := fresh_balanced capacity positive batchSize
  have balanced : Balanced (ledger v) :=
    @run_inv_along _ _ _ _ (fun s => Balanced (ledger s)) keep _ _ _ reached start ran
  exact Accounted.of_balanced balanced

/-- An SDK thread fills the inbox, loses a second event, and the first one is taken. -/
def overflowing : List Label :=
  [.submitSdk false .event, .produce 0 1, .produce 0 1, .submitSdk false .event, .produce 0 2,
    .callback 3, .callback 3, .callback 3, .take]

theorem inbox_accounting_overflowing :
    ∃ v, run step (fresh 1 (by decide) 64) overflowing = some v ∧
      v.enqueued.map (·.sdkReceiveSeq) = [some 1] ∧ v.lost = [(2, some 2)] ∧ Accounted v := by
  have outcome : (run step (fresh 1 (by decide) 64) overflowing).map
      (fun v => (v.enqueued.map (·.sdkReceiveSeq), v.lost)) =
      some ([some 1], [(2, some 2)]) := by decide +kernel
  obtain ⟨v, ran, fields⟩ := Option.map_eq_some_iff.mp outcome
  simp only [Prod.mk.injEq] at fields
  exact ⟨v, ran, fields.1, fields.2, inbox_accounting (by decide +kernel) ran⟩

/-- An SDK thread has reserved when the loop is closed: its event is neither enqueued nor
counted as lost, and it is no longer under way.  A thread that takes the last place of an
inbox whose loop is closed leaves the place outstanding for good. -/
theorem closed_loop_loses_event :
    (∃ v ∈ run step (fresh 2 (by decide) 64)
        [.submitSdk false .event, .produce 0 1, .closeLoop, .produce 0 2],
      v.nextSdkReceiveSeq = 1 ∧ reservations v = [] ∧ puts v = [] ∧ v.enqueued = [] ∧
        v.lost = [] ∧ v.overflow = none) ∧
      ∃ v ∈ run step (fresh 1 (by decide) 64)
          [.submitSdk false .event, .closeLoop, .produce 0 1],
        v.outstanding = 1 ∧ reservations v = [] ∧ puts v = [] ∧ v.queue = [] ∧
          v.worker.unacknowledged = [] := by
  decide +kernel

end Copilotd.Guarantees.InboxAccounting
