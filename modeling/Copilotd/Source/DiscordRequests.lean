import Mathlib.Algebra.Order.Ring.Rat
import Mathlib.Data.List.Sort
import Copilotd.Base.Dict
import Copilotd.Base.Futures
import Copilotd.Base.Rounding

/-!
# The Discord request coordinator

Source: `discord_requests.py` (`DiscordRequestCoordinator`).  `_condition` is held
only between awaits, so each locked block of `execute`, `close`, `_run` and
`_invoke_active` is one step; `_run` waits by giving up the lock, and a pass of its
inner loop may be made at any time.

Clock reads and intervals are the rationals that their doubles stand for; sums and
differences are rounded to doubles.  Callbacks, their results and their errors are
named.  Left out: the metrics, and the fields of a request that only log lines read
(`route_key`, `created_at`).  The log calls are awaits that end normally unless the task
is cancelled.
-/
namespace Copilotd.Source.DiscordRequests

open Base.Dict Base.Futures Base.Rounding

inductive Operation where
  | send
  | edit
  | delete
  | addReaction
  | removeReaction
  | channelMutation
  | threadCreate
  | fetch
  | history
  | interactionDefer
  | interactionResponse
  | interactionModal
  | interactionFollowup
  | pin
  | commandSync

def Operation.value : Operation → String
  | .send => "send"
  | .edit => "edit"
  | .delete => "delete"
  | .addReaction => "add_reaction"
  | .removeReaction => "remove_reaction"
  | .channelMutation => "channel_mutation"
  | .threadCreate => "thread_create"
  | .fetch => "fetch"
  | .history => "history"
  | .interactionDefer => "interaction_defer"
  | .interactionResponse => "interaction_response"
  | .interactionModal => "interaction_modal"
  | .interactionFollowup => "interaction_followup"
  | .pin => "pin"
  | .commandSync => "command_sync"

inductive Priority where
  | deadlineCritical
  | foreground
  | background
  | maintenance

def Priority.value : Priority → Nat
  | .deadlineCritical => 0
  | .foreground => 10
  | .background => 20
  | .maintenance => 30

/-- The bounds of `DiscordCoordinatorConfig` that the coordinator itself reads. -/
structure Config where
  queueLimit : Nat := 512
  maxConcurrency : Nat := 16
  queueLimit_pos : 1 ≤ queueLimit := by decide
  maxConcurrency_pos : 1 ≤ maxConcurrency := by decide

structure Request where
  callback : Nat
  targetKey : String
  operation : Operation := .send
  priority : Priority := .foreground
  coalesceKey : Option String := none
  terminal : Bool := false
  deadline : Option ℚ := none
  minInterval : ℚ := 0
  targetKey_nonempty : targetKey ≠ "" := by decide
  minInterval_nonneg : 0 ≤ minInterval := by decide +kernel

theorem minInterval_default : (0 : ℚ) ≤ 0 := le_refl 0

/-- What a waiter can be failed with. -/
inductive RequestError where
  | backpressure (message : String)
  | dropped (message : String)
  | deadlineExceeded (message : String)
  | callback (error : String)
  deriving DecidableEq

structure Entry where
  sequence : Nat
  request : Request
  waiters : List Nat

/-- Where the task of `_invoke_active` is suspended. -/
inductive Phase where
  | created
  | running
  | loggingFailure (error : String)
  | loggingSuccess
  | leaving
  | ended
  deriving DecidableEq

structure ActiveTask where
  entry : Entry
  phase : Phase := .created
  /-- `cancel()` was called and the `CancelledError` not yet delivered. -/
  cancelRequested : Bool := false

structure Coordinator where
  queue : List Entry := []
  targetLastStarted : List (String × ℚ) := []
  activeTargets : List String := []
  activeTasks : List ActiveTask := []
  closing : Bool := false
  sequence : Nat := 0
  /-- The waiters, named by their place. -/
  futures : List (Future Nat RequestError) := []

/-! ## Submission -/

/-- `any(not waiter.cancelled() for waiter in entry.waiters)`. -/
def Coordinator.live (c : Coordinator) (entry : Entry) : Bool :=
  entry.waiters.any fun waiter => c.futures[waiter]? ≠ some .cancelled

def Coordinator.coalescibleEntry (c : Coordinator) : Option String → Option Entry
  | none => none
  | some key => c.queue.find? fun entry => entry.request.coalesceKey = some key && c.live entry

def rejectOverflow (request : Request) : RequestError :=
  if request.priority.value ≥ Priority.background.value ∧ request.coalesceKey ≠ none then
    .dropped s!"Discord {request.operation.value} dropped by bounded coordinator queue"
  else .backpressure s!"Discord {request.operation.value} rejected by bounded coordinator queue"

/-- A request joins an entry; a terminal request is not replaced by one that is not. -/
def Entry.merge (request : Request) (waiter : Nat) (entry : Entry) : Entry :=
  { entry with
    request := if entry.request.terminal && !request.terminal then entry.request else request
    waiters := entry.waiters ++ [waiter] }

/-- The locked block of `execute`, which registers the next waiter; the result is the
sequence number of the entry that it waits for. -/
def Coordinator.execute (config : Config) (request : Request) (c : Coordinator) :
    Coordinator × Except RequestError Nat :=
  if c.closing then (c, .error (.backpressure "Discord request coordinator is shutting down"))
  else
    let waiter := c.futures.length
    match c.coalescibleEntry request.coalesceKey with
    | some existing =>
      ({ c with
          queue := c.queue.map fun entry =>
            if entry.sequence = existing.sequence then entry.merge request waiter else entry
          futures := c.futures ++ [.pending] }, .ok existing.sequence)
    | none =>
      if c.queue.length ≥ config.queueLimit then (c, .error (rejectOverflow request))
      else
        ({ c with
            sequence := c.sequence + 1
            queue := c.queue ++ [{ sequence := c.sequence + 1, request, waiters := [waiter] }]
            futures := c.futures ++ [.pending] }, .ok (c.sequence + 1))

def Coordinator.failWaiters (entry : Entry) (error : RequestError) (c : Coordinator) :
    Coordinator :=
  { c with futures := settleAll entry.waiters (.exception error) c.futures }

/-- The caller of `execute` is cancelled. -/
def Coordinator.cancelWaiter (waiter : Nat) (c : Coordinator) : Coordinator :=
  { c with futures := settleAll [waiter] .cancelled c.futures }

/-! ## The worker -/

def Coordinator.requestWait (c : Coordinator) (request : Request) (now : ℚ) : ℚ :=
  match get request.targetKey c.targetLastStarted with
  | none => 0
  | some last => max 0 (roundDouble (roundDouble (last + request.minInterval) - now))

/-- The oldest entry of each target that has no active operation. -/
def Coordinator.heads (c : Coordinator) : List Entry :=
  c.queue.filter fun entry =>
    !c.activeTargets.contains entry.request.targetKey &&
    !c.queue.any fun older =>
      older.sequence < entry.sequence && older.request.targetKey = entry.request.targetKey

/-- The order of `(priority, sequence)`. -/
def Entry.before (a b : Entry) : Prop :=
  a.request.priority.value < b.request.priority.value ∨
    (a.request.priority.value = b.request.priority.value ∧ a.sequence ≤ b.sequence)

instance : DecidableRel Entry.before := fun _ _ => instDecidableOr

def Coordinator.select (c : Coordinator) (now : ℚ) : Option Entry × Option ℚ :=
  let waits := (List.insertionSort Entry.before c.heads).map fun entry =>
    (entry, c.requestWait entry.request now)
  match waits.filter (·.2 ≤ 0) with
  | (entry, _) :: _ => (some entry, some 0)
  | [] => (none, (waits.map Prod.snd).min?)

/-- What a pass of the inner loop of `_run` came to. -/
inductive Pass where
  | ended
  | waits
  | missed (entry : Entry)
  | started (entry : Entry)

/-- One pass of the inner loop of `_run`. -/
def Coordinator.pass (config : Config) (now : ℚ) (c : Coordinator) : Coordinator × Pass :=
  if c.closing then (c, .ended)
  else
    let c := { c with queue := c.queue.filter c.live }
    if c.queue = [] ∨ c.activeTasks.length ≥ config.maxConcurrency then (c, .waits)
    else
      match c.select now with
      | (none, _) => (c, .waits)
      | (some entry, delay) =>
        let request := entry.request
        let removed := { c with queue := c.queue.filter (·.sequence ≠ entry.sequence) }
        if request.deadline.any (now + delay.getD 0 ≥ ·) then
          (removed.failWaiters entry (.deadlineExceeded
            s!"Discord {request.operation.value} cannot meet its deadline"), .missed entry)
        else if delay.getD 0 > 0 then (c, .waits)
        else
          ({ removed with
              targetLastStarted := set request.targetKey now removed.targetLastStarted
              activeTargets :=
                if removed.activeTargets.contains request.targetKey then removed.activeTargets
                else removed.activeTargets ++ [request.targetKey]
              activeTasks := removed.activeTasks ++ [{ entry := entry }] }, .started entry)

/-! ## An active operation -/

inductive CallbackEnd where
  | returned (value : Nat)
  /-- One of the limiter's errors, with its text. -/
  | limited (message : String)
  | raised (error : String)
  | cancelled

/-- The part of `_invoke` after the callback, up to the next await. -/
def Coordinator.finish (index : Nat) (task : ActiveTask) (callbackEnd : CallbackEnd)
    (c : Coordinator) : Coordinator :=
  -- A cancellation that was requested reached the callback.
  let suspend (phase : Phase) (c : Coordinator) : Coordinator :=
    { c with activeTasks := c.activeTasks.set index { entry := task.entry, phase } }
  match callbackEnd with
  | .returned value =>
    suspend .loggingSuccess
      { c with futures := settleAll task.entry.waiters (.result value) c.futures }
  | .limited message => suspend .leaving (c.failWaiters task.entry (.backpressure message))
  | .raised error => suspend (.loggingFailure error) c
  | .cancelled =>
    suspend .leaving (c.failWaiters task.entry
      (.backpressure "Discord request coordinator operation was cancelled"))

/-- The end of a log call: a cancelled one leaves `_invoke` at once. -/
def Coordinator.logged (index : Nat) (task : ActiveTask) (c : Coordinator) : Option Coordinator :=
  let left (c : Coordinator) : Coordinator :=
    { c with activeTasks := c.activeTasks.set index { entry := task.entry, phase := .leaving } }
  match task.phase with
  | .loggingFailure error =>
    if task.cancelRequested then some (left c)
    else some (left (c.failWaiters task.entry (.callback error)))
  | .loggingSuccess => some (left c)
  | _ => none

/-- The `finally` block of `_invoke_active`; a cancelled wait for the lock skips it. -/
def Coordinator.leave (index : Nat) (task : ActiveTask) (c : Coordinator) : Coordinator :=
  if task.cancelRequested then
    { c with activeTasks := c.activeTasks.set index { entry := task.entry, phase := .ended } }
  else
    { c with
      activeTargets := c.activeTargets.filter (· ≠ task.entry.request.targetKey)
      activeTasks := c.activeTasks.eraseIdx index }

/-! ## Closing -/

/-- The locked block of `close`. -/
def Coordinator.sweep (c : Coordinator) : Coordinator :=
  { c with
    futures := settleAll (c.queue.flatMap Entry.waiters)
      (.exception (.backpressure "Discord request coordinator stopped")) c.futures
    queue := [] }

/-- `task.cancel()` on every active task. -/
def Coordinator.cancelActive (c : Coordinator) : Coordinator :=
  { c with
    activeTasks := c.activeTasks.map fun task =>
      if task.phase = .ended then task else { task with cancelRequested := true } }

/-! ## Interleavings -/

/-- Where a call of `close` is. -/
inductive ClosePhase where
  | begun
  | swept
  | cancelled
  | returned
  deriving DecidableEq

structure Start where
  sequence : Nat
  request : Request
  startedAt : ℚ

structure World where
  coordinator : Coordinator := {}
  closers : List ClosePhase := []
  /-- The latest clock read. -/
  clock : ℚ := 0
  /-- The requests that entries were made of, with the sequence number. -/
  merged : List (Nat × Request) := []
  /-- The operations that the worker started, with its clock. -/
  dispatched : List Start := []
  /-- The callbacks that were called, with the clock of their task. -/
  invoked : List Start := []

inductive Label where
  | execute (request : Request)
  | cancelWaiter (waiter : Nat)
  | work (now : ℚ)
  | invoke (index : Nat) (now : ℚ)
  | finish (index : Nat) (callbackEnd : CallbackEnd)
  | logged (index : Nat)
  | leave (index : Nat)
  | close
  | sweep (closer : Nat)
  | cancelActive (closer : Nat)
  | closed (closer : Nat)

def step (config : Config) (w : World) : Label → Option World
  | .execute request =>
    match w.coordinator.execute config request with
    | (coordinator, .ok sequence) =>
      some { w with coordinator, merged := w.merged ++ [(sequence, request)] }
    | (coordinator, .error _) => some { w with coordinator }
  | .cancelWaiter waiter => some { w with coordinator := w.coordinator.cancelWaiter waiter }
  | .work now =>
    if w.clock ≤ now then
      match w.coordinator.pass config now with
      | (coordinator, .started entry) => some { w with
          coordinator
          clock := now
          dispatched := w.dispatched ++
            [{ sequence := entry.sequence, request := entry.request, startedAt := now }] }
      | (coordinator, _) => some { w with coordinator, clock := now }
    else none
  | .invoke index now => do
    let task ← w.coordinator.activeTasks[index]?
    if task.phase = .created ∧ w.clock ≤ now then
      some { w with
        coordinator := { w.coordinator with
          activeTasks := w.coordinator.activeTasks.set index { task with phase := .running } }
        clock := now
        invoked := w.invoked ++
          [{ sequence := task.entry.sequence, request := task.entry.request, startedAt := now }] }
    else none
  | .finish index callbackEnd => do
    let task ← w.coordinator.activeTasks[index]?
    if task.phase = .running then
      some { w with coordinator := w.coordinator.finish index task callbackEnd }
    else none
  | .logged index => do
    let task ← w.coordinator.activeTasks[index]?
    let coordinator ← w.coordinator.logged index task
    some { w with coordinator }
  | .leave index => do
    let task ← w.coordinator.activeTasks[index]?
    if task.phase = .leaving then some { w with coordinator := w.coordinator.leave index task }
    else none
  | .close => some { w with
      coordinator := { w.coordinator with closing := true }
      closers := w.closers ++ [.begun] }
  | .sweep closer =>
    if w.closers[closer]? = some .begun then
      some { w with
        coordinator := w.coordinator.sweep
        closers := w.closers.set closer .swept }
    else none
  | .cancelActive closer =>
    -- `close` has awaited the worker, and the event loop runs ready tasks in order: a task
    -- that was created before `close` has made its first step.
    if w.closers[closer]? = some .swept ∧
        w.coordinator.activeTasks.all (·.phase ≠ .created) then
      some { w with
        coordinator := w.coordinator.cancelActive
        closers := w.closers.set closer .cancelled }
    else none
  | .closed closer =>
    if w.closers[closer]? = some .cancelled ∧
        w.coordinator.activeTasks.all (·.phase = .ended) then
      some { w with
        coordinator := { w.coordinator with activeTasks := [], activeTargets := [] }
        closers := w.closers.set closer .returned }
    else none

end Copilotd.Source.DiscordRequests
