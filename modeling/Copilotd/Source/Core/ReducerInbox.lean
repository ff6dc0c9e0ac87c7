import Mathlib.Algebra.Order.Ring.Rat
import Copilotd.Base.Futures
import Copilotd.Base.Run

/-!
# The reducer inbox

Source: `core/inbox.py` (`ReducerInbox`) and the consumer in `core/reducer.py`
(`EventReducerWorker._run`, `_reduce_loop`).

Producers on any thread take the lock once to be admitted (`submit_sdk`), once to
reserve, and then hand the put to the loop; each of these is one step.  The loop's own
thread runs callbacks, coroutines and its own producers one at a time: while a producer
of that thread is between two of its steps, only other threads move.  A stretch of a
coroutine between two awaits is one step.

Left out: the session id, generation, fence token and `received_at` that envelopes and
incidents copy; the observers; and the events `_progress` and `overflow_event`, on
which nothing modelled here waits.  A worker without a fence validator behaves as one
whose validator agrees.
-/
namespace Copilotd.Source.Core.ReducerInbox

open Base.Futures

inductive EnvelopeSource where
  | sdk
  | internal
  | snapshot
  deriving DecidableEq

/-- What the worker makes of a payload: an event, an `InvalidSdkEvent`, or the receipt
`copilotd.reducer.stop`. -/
inductive Payload where
  | event
  | invalid
  | stop
  deriving DecidableEq

/-- `InboxEnvelope`; `commitAck` names a future. -/
structure InboxEnvelope where
  inboxSeq : Nat
  source : EnvelopeSource
  payload : Payload
  sdkReceiveSeq : Option Nat := none
  internalEventId : Option String := none
  commitAck : Option Nat := none
  deriving DecidableEq

structure OverflowIncident where
  firstLostInboxSeq : Nat
  firstLostSdkReceiveSeq : Option Nat
  lostCount : Nat
  observedAt : ℚ

/-! ## The event loop -/

inductive Callback where
  | putReserved (envelope : InboxEnvelope)
  | setSpaceAvailable
  | clearSpaceAvailable

structure Loop where
  closed : Bool := false
  ready : List Callback := []

/-- `none` is the `RuntimeError` of a closed loop. -/
def Loop.callSoonThreadsafe (loop : Loop) (callback : Callback) : Option Loop :=
  if loop.closed then none else some { loop with ready := loop.ready ++ [callback] }

/-! ## Coroutines and threads -/

inductive Ending where
  | returned
  | raised (error : String)
  deriving DecidableEq

inductive CommitPhase where
  | waitingForSpace (woken : Bool)
  | scheduling (ack : Nat)
  | awaitingAck (ack : Nat) (cancelled : Bool)
  | ended (ending : Ending)
  deriving DecidableEq

/-- A call of `commit_internal`, or of `commit_recovered_sdk` (source `sdk`). -/
structure Commit where
  source : EnvelopeSource
  payload : Payload
  internalEventId : Option String := none
  phase : CommitPhase

inductive ProducerPhase where
  /-- `submit_sdk` found the SDK side open. -/
  | admitted (payload : Payload)
  | reserved (envelope : InboxEnvelope)

/-- A call between its steps; `commit` names the coroutine that makes it. -/
structure Producer where
  onLoop : Bool
  commit : Option Nat := none
  phase : ProducerPhase

/-- The await at which the worker is suspended. -/
inductive WorkerPhase where
  | getting
  | validating (batch : List InboxEnvelope)
  | persistingIncident (envelope : InboxEnvelope) (rest validEnvelopes : List InboxEnvelope)
  | persisting (validEnvelopes : List InboxEnvelope)
  | returned
  | failed
  deriving DecidableEq

/-- `unacknowledged`: what the worker has taken and not yet acknowledged. -/
def WorkerPhase.unacknowledged : WorkerPhase → List InboxEnvelope
  | .validating batch => batch
  | .persistingIncident envelope rest validEnvelopes => envelope :: (validEnvelopes ++ rest)
  | .persisting validEnvelopes => validEnvelopes
  | .getting | .returned | .failed => []

structure World where
  capacity : Nat
  capacity_pos : 1 ≤ capacity
  loop : Loop := {}
  queue : List InboxEnvelope := []
  spaceAvailable : Bool := true
  outstanding : Nat := 0
  nextInboxSeq : Nat := 0
  nextSdkReceiveSeq : Nat := 0
  outstandingReceivedAt : List ℚ := []
  closed : Bool := false
  sdkClosed : Bool := false
  overflow : Option OverflowIncident := none
  acks : List (Future Unit String) := []
  producers : List Producer := []
  commits : List Commit := []
  batchSize : Nat := 1
  stopping : Bool := false
  worker : WorkerPhase := .getting
  /-- The envelopes that were put on the queue, in order. -/
  enqueued : List InboxEnvelope := []
  /-- The sequence numbers that overflows recorded, in order. -/
  lost : List (Nat × Option Nat) := []

/-- No call of the loop's thread is between two of its steps. -/
def World.loopFree (w : World) : Bool := w.producers.all fun producer => !producer.onLoop

/-! ## Space -/

/-- `Event.set`: every waiting coroutine will resume. -/
def CommitPhase.wake : CommitPhase → CommitPhase
  | .waitingForSpace _ => .waitingForSpace true
  | phase => phase

def World.wake (w : World) : World :=
  { w with
    spaceAvailable := true
    commits := w.commits.map fun commit => { commit with phase := commit.phase.wake } }

def World.setSpaceAvailable (w : World) (onLoop : Bool) : Option World :=
  if onLoop then some w.wake
  else (w.loop.callSoonThreadsafe .setSpaceAvailable).map fun loop => { w with loop }

def World.clearSpaceAvailable (w : World) (onLoop : Bool) : Option World :=
  if onLoop then some { w with spaceAvailable := false }
  else (w.loop.callSoonThreadsafe .clearSpaceAvailable).map fun loop => { w with loop }

/-! ## Reservations -/

def World.recordOverflow (w : World) (inboxSeq : Nat) (sdkReceiveSeq : Option Nat) (now : ℚ) :
    World :=
  { w with
    lost := w.lost ++ [(inboxSeq, sdkReceiveSeq)]
    overflow := match w.overflow with
      | none => some
        { firstLostInboxSeq := inboxSeq, firstLostSdkReceiveSeq := sdkReceiveSeq
          lostCount := 1, observedAt := now }
      | some incident => some { incident with lostCount := incident.lostCount + 1 } }

/-- Draw the next sequence numbers. -/
def World.draw (w : World) (source : EnvelopeSource) : World :=
  { w with
    nextInboxSeq := w.nextInboxSeq + 1
    nextSdkReceiveSeq :=
      if source = .sdk then w.nextSdkReceiveSeq + 1 else w.nextSdkReceiveSeq }

def World.drawnSdkReceiveSeq (w : World) (source : EnvelopeSource) : Option Nat :=
  if source = .sdk then some w.nextSdkReceiveSeq else none

inductive Reservation where
  | reserved (inboxSeq : Nat) (sdkReceiveSeq : Option Nat)
  | refused
  | raised

def World.reserve (w : World) (onLoop : Bool) (source : EnvelopeSource) (recordOverflow : Bool)
    (now : ℚ) : World × Reservation :=
  if w.closed then (w, .refused)
  else if w.capacity ≤ w.outstanding then
    match w.clearSpaceAvailable onLoop with
    | none => (w, .raised)
    | some cleared =>
      if recordOverflow then
        let drawn := cleared.draw source
        -- The loop is then asked to set `overflow_event`.
        (drawn.recordOverflow drawn.nextInboxSeq (drawn.drawnSdkReceiveSeq source) now,
          if drawn.loop.closed then .raised else .refused)
      else (cleared, .refused)
  else
    let drawn := w.draw source
    let taken := { drawn with
      outstanding := drawn.outstanding + 1
      outstandingReceivedAt := drawn.outstandingReceivedAt ++ [now] }
    let reservation := .reserved taken.nextInboxSeq (taken.drawnSdkReceiveSeq source)
    if taken.capacity ≤ taken.outstanding then
      match taken.clearSpaceAvailable onLoop with
      | none => (taken, .raised)
      | some cleared => (cleared, reservation)
    else (taken, reservation)

/-- A reservation is given back. -/
def World.release (w : World) : World :=
  { w with
    outstanding := w.outstanding - 1
    outstandingReceivedAt := w.outstandingReceivedAt.dropLast }

/-- `_schedule`; `none` is an exception, raised by `_set_space_available` in the handler. -/
def World.schedule (w : World) (onLoop : Bool) (envelope : InboxEnvelope) (now : ℚ) :
    World × Option Bool :=
  match w.loop.callSoonThreadsafe (.putReserved envelope) with
  | some loop => ({ w with loop }, some true)
  | none =>
    match w.release.setSpaceAvailable onLoop with
    | none => (w.release, none)
    | some released =>
      (released.recordOverflow envelope.inboxSeq envelope.sdkReceiveSeq now, some false)

def World.putReserved (w : World) (envelope : InboxEnvelope) (now : ℚ) : World :=
  if w.capacity ≤ w.queue.length then
    w.release.wake.recordOverflow envelope.inboxSeq envelope.sdkReceiveSeq now
  else { w with queue := w.queue ++ [envelope], enqueued := w.enqueued ++ [envelope] }

def World.runCallback (w : World) (now : ℚ) : Callback → World
  | .putReserved envelope => w.putReserved envelope now
  | .setSpaceAvailable => w.wake
  | .clearSpaceAvailable => { w with spaceAvailable := false }

/-! ## Acknowledgements -/

/-- What an acknowledgement puts on the future of the envelope. -/
def ackOutcome : Option String → Future Unit String
  | none => .result ()
  | some error => .exception error

/-- `acknowledge`; `none` is the underflow error. -/
def World.acknowledge (w : World) (envelope : InboxEnvelope) (error : Option String) :
    Option World :=
  if w.outstanding < 1 then none
  else
    some { { w with
      outstanding := w.outstanding - 1
      outstandingReceivedAt := w.outstandingReceivedAt.tail }.wake with
        acks := settleAll envelope.commitAck.toList (ackOutcome error) w.acks }

def World.acknowledgeAll (w : World) (error : Option String) : List InboxEnvelope → Option World
  | [] => some w
  | envelope :: rest => do
    let acknowledged ← w.acknowledge envelope error
    acknowledged.acknowledgeAll error rest

def World.close (w : World) : World := { w with closed := true, sdkClosed := true }.wake

def World.failPending (w : World) (error : String) : Option World :=
  { w.close with queue := [] }.acknowledgeAll (some error) w.queue

/-! ## The worker -/

/-- The loop over a batch, up to its next await. -/
def adapt (validEnvelopes : List InboxEnvelope) : List InboxEnvelope → WorkerPhase
  | [] => if validEnvelopes.isEmpty then .getting else .persisting validEnvelopes
  | envelope :: rest =>
    if envelope.payload = .invalid then .persistingIncident envelope rest validEnvelopes
    else adapt (validEnvelopes ++ [envelope]) rest

/-- An exception leaves `_reduce_loop`: what was taken is failed, then what is queued. -/
def World.fail (w : World) (error : String) : Option World := do
  let acknowledged ← w.acknowledgeAll (some error) w.worker.unacknowledged
  { acknowledged with worker := .failed }.failPending error

inductive WorkerAnswer where
  | succeeds
  | fenceLost
  | raises (error : String)
  deriving DecidableEq

/-- The answer makes an exception leave `_reduce_loop`. -/
def WorkerPhase.failure : WorkerPhase → WorkerAnswer → Option String
  | .validating _, .fenceLost => some "RuntimeError"
  | .returned, _ | .failed, _ => none
  | _, .raises error => some error
  | _, _ => none

/-- The worker resumes where its await ended without an exception. -/
def World.reduce (w : World) : Option World :=
  match w.worker with
  | .validating batch => some { w with worker := adapt [] batch }
  | .persistingIncident envelope rest validEnvelopes => do
    let acknowledged ← w.acknowledge envelope none
    some { acknowledged with worker := adapt validEnvelopes rest }
  | .persisting validEnvelopes => do
    let acknowledged ← w.acknowledgeAll none validEnvelopes
    let shouldStop := validEnvelopes.any fun envelope => envelope.payload = .stop
    some { acknowledged with worker := if shouldStop && w.stopping then .returned else .getting }
  | _ => none

/-! ## Commits -/

def World.setCommit (w : World) (index : Nat) (phase : CommitPhase) : World :=
  { w with commits := w.commits.modify index fun commit => { commit with phase } }

/-- One turn of the loop in `commit_internal` and `commit_recovered_sdk`. -/
def World.attempt (w : World) (index : Nat) (commit : Commit) (now : ℚ) : World :=
  match w.reserve true commit.source false now with
  | (after, .reserved inboxSeq sdkReceiveSeq) =>
    let ack := after.acks.length
    { after.setCommit index (.scheduling ack) with
      acks := after.acks ++ [.pending]
      producers := after.producers ++ [
        { onLoop := true
          commit := some index
          phase := .reserved
            { inboxSeq, sdkReceiveSeq, source := commit.source, payload := commit.payload
              internalEventId := commit.internalEventId, commitAck := some ack } }] }
  | (after, .refused) =>
    if after.closed then after.setCommit index (.ended (.raised "RuntimeError"))
    else after.setCommit index (.waitingForSpace after.spaceAvailable)
  | (after, .raised) => after.setCommit index (.ended (.raised "RuntimeError"))

/-- `_await_commit_ack` after its future is done. -/
def afterAck (cancelled : Bool) : Future Unit String → Option Ending
  | .pending => none
  | .cancelled => some (.raised "CancelledError")
  | .exception error => some (.raised error)
  | .result () => some (if cancelled then .raised "CommittedCancellation" else .returned)

def World.resumeCommit (w : World) (index : Nat) (now : ℚ) : Option World := do
  let commit ← w.commits[index]?
  match commit.phase with
  | .waitingForSpace true => some (w.attempt index commit now)
  | .awaitingAck ack cancelled => do
    let future ← w.acks[ack]?
    let ending ← afterAck cancelled future
    some (w.setCommit index (.ended ending))
  | _ => none

/-- A coroutine is cancelled; the acknowledgement is shielded. -/
def World.cancelCommit (w : World) (index : Nat) : Option World := do
  let commit ← w.commits[index]?
  match commit.phase with
  | .waitingForSpace _ => some (w.setCommit index (.ended (.raised "CancelledError")))
  | .awaitingAck ack _ => some (w.setCommit index (.awaitingAck ack true))
  | _ => none

/-! ## Producers -/

/-- A producer takes its next step; it has been taken out of the list. -/
def World.produce (w : World) (producer : Producer) (now : ℚ) : World :=
  match producer.phase with
  | .admitted payload =>
    match w.reserve producer.onLoop .sdk true now with
    | (after, .reserved inboxSeq sdkReceiveSeq) => { after with
        producers := after.producers ++ [{ producer with
          phase := .reserved { inboxSeq, sdkReceiveSeq, source := .sdk, payload } }] }
    | (after, _) => after
  | .reserved envelope =>
    match w.schedule producer.onLoop envelope now, producer.commit, envelope.commitAck with
    | (after, some true), some index, some ack => after.setCommit index (.awaitingAck ack false)
    | (after, _), some index, _ => after.setCommit index (.ended (.raised "RuntimeError"))
    | (after, _), none, _ => after

/-! ## Steps -/

inductive Label where
  | submitSdk (onLoop : Bool) (payload : Payload)
  | submitInternal (onLoop : Bool) (source : EnvelopeSource) (payload : Payload)
      (internalEventId : String) (now : ℚ)
  | produce (index : Nat) (now : ℚ)
  | commit (source : EnvelopeSource) (payload : Payload) (internalEventId : Option String)
      (now : ℚ)
  | resumeCommit (index : Nat) (now : ℚ)
  | cancelCommit (index : Nat)
  | callback (now : ℚ)
  | take
  | worker (answer : WorkerAnswer)
  | stop
  | close
  | closeLoop

/-- The arguments that `commit_internal` and `submit_internal` accept. -/
def validInternal (source : EnvelopeSource) (internalEventId : String) : Bool :=
  source ≠ .sdk && internalEventId ≠ ""

/-- The coroutine's own step: the loop runs, and its thread is free. -/
def World.onLoop (w : World) : Bool := !w.loop.closed && w.loopFree

def step (w : World) : Label → Option World
  | .submitSdk onLoop payload =>
    if onLoop && !w.loopFree then none
    else if w.sdkClosed then some w
    else some { w with producers := w.producers ++ [{ onLoop, phase := .admitted payload }] }
  | .submitInternal onLoop source payload internalEventId now =>
    if onLoop && !w.loopFree then none
    else if !validInternal source internalEventId then some w
    else
      match w.reserve onLoop source true now with
      | (after, .reserved inboxSeq sdkReceiveSeq) => some { after with
          producers := after.producers ++ [
            { onLoop
              phase := .reserved
                { inboxSeq, sdkReceiveSeq, source, payload
                  internalEventId := some internalEventId } }] }
      | (after, _) => some after
  | .produce index now => do
    let producer ← w.producers[index]?
    some ({ w with producers := w.producers.eraseIdx index }.produce producer now)
  | .commit source payload internalEventId now =>
    if !w.onLoop then none
    else
      let accepted := source = .sdk ∨ validInternal source (internalEventId.getD "")
      let phase := if accepted then .waitingForSpace true else .ended (.raised "ValueError")
      let commit := { source, payload, internalEventId, phase }
      let called := { w with commits := w.commits ++ [commit] }
      if accepted then some (called.attempt w.commits.length commit now) else some called
  | .resumeCommit index now => if w.onLoop then w.resumeCommit index now else none
  | .cancelCommit index => if w.onLoop then w.cancelCommit index else none
  | .callback now =>
    match w.onLoop, w.loop.ready with
    | true, callback :: ready =>
      some ({ w with loop := { w.loop with ready } }.runCallback now callback)
    | _, _ => none
  | .take =>
    if w.onLoop ∧ w.worker = .getting ∧ w.queue ≠ [] then
      -- One envelope is awaited, and the batch is filled up without waiting.
      some { w with
        queue := w.queue.drop (max 1 w.batchSize)
        worker := .validating (w.queue.take (max 1 w.batchSize)) }
    else none
  | .worker answer =>
    if w.onLoop then
      match w.worker.failure answer with
      | some error => w.fail error
      | none => if answer = .succeeds then w.reduce else none
    else none
  | .stop => if w.loopFree then some { w with stopping := true, sdkClosed := true } else none
  | .close => if w.loopFree then some w.close else none
  | .closeLoop =>
    if w.loopFree then some { w with loop := { w.loop with closed := true } } else none

end Copilotd.Source.Core.ReducerInbox
