import Copilotd.Base.Run

/-!
# Mode changes

Source: `core/session_runtime.py` (`set_mode` and the mode checks of
`_assert_dispatchable`), `core/reducer.py` (the handlers of `copilotd.mode.pending`,
`.confirmed`, `.observed`, `.unknown` and `.rejected`) and what `set_mode` uses of
`core/mailbox.py` (one operation for each idempotency key, run in the order of
submission; a second submission of a key joins the operation or replays its result).

One attached session: generation and fence token of the row match every event.  Left
out: `updated_at`, `row_version`, the other checks of `_assert_dispatchable` and
`detach_blockers` (a label says whether they pass), and the operation's own states,
which no mode column depends on.
-/
namespace Copilotd.Source.Core.ModeChanges

inductive Mode where
  | interactive | plan | autopilot
  deriving DecidableEq

inductive ReconciliationState where
  | synced | pending | unknown | drift
  deriving DecidableEq

/-- The mode columns of `session_bindings`; `runtimeMode = none` is `'unknown'`. -/
structure ModeColumns where
  desiredMode : Mode
  runtimeMode : Option Mode
  pendingMode : Option Mode := none
  pendingModeTransitionId : Option String := none
  modeReconciliationState : ReconciliationState
  modeDrift : Bool := false
  deriving DecidableEq

/-- The mode events of the reducer; `observed` has no transition id. -/
inductive ModeEvent where
  | pending (mode : Mode) (transitionId : String)
  | confirmed (mode : Mode) (transitionId : String)
  | observed (mode : Mode)
  | unknown (mode : Mode) (transitionId : String)
  | rejected (mode : Mode) (transitionId : String)

variable (row : ModeColumns)

/-- `copilotd.mode.confirmed` and `copilotd.mode.observed`. -/
def ModeColumns.confirm (mode : Mode) (transitionId : Option String) : ModeColumns :=
  let pendingMatches : Bool := row.pendingMode = some mode ∧
    (transitionId = none ∨ row.pendingModeTransitionId = transitionId)
  let desiredMode := if pendingMatches then mode else row.desiredMode
  { desiredMode
    runtimeMode := some mode
    pendingMode := if pendingMatches then none else row.pendingMode
    pendingModeTransitionId := if pendingMatches then none else row.pendingModeTransitionId
    modeReconciliationState := if desiredMode ≠ mode then .drift else .synced
    modeDrift := desiredMode ≠ mode }

/-- `copilotd.mode.rejected`. -/
def ModeColumns.reject (transitionId : String) : ModeColumns :=
  if row.pendingModeTransitionId ≠ some transitionId then row
  else { row with
    pendingMode := none
    pendingModeTransitionId := none
    modeReconciliationState :=
      if row.runtimeMode = some row.desiredMode then .synced else .drift
    modeDrift := row.runtimeMode ≠ some row.desiredMode }

def ModeColumns.apply : ModeEvent → ModeColumns
  | .pending mode transitionId =>
    if row.pendingMode ≠ none then row
    else { row with
      pendingMode := some mode
      pendingModeTransitionId := some transitionId
      modeReconciliationState := .pending
      modeDrift := false }
  | .confirmed mode transitionId => row.confirm mode (some transitionId)
  | .observed mode => row.confirm mode none
  | .unknown _ _ =>
    { row with runtimeMode := none, modeReconciliationState := .unknown, modeDrift := false }
  | .rejected _ transitionId => row.reject transitionId

/-- The mode checks of `_assert_dispatchable`. -/
def ModeColumns.dispatchable : Bool :=
  row.pendingMode = none ∧ row.runtimeMode = some row.desiredMode

/-! ## Calls of `set_mode` -/

/-- How a mode operation ends; `returns` is the mode that was read back. -/
inductive Outcome where
  | returns | rejected | ambiguous
  deriving DecidableEq

structure Operation where
  idempotencyKey : String
  mode : Mode
  outcome : Option Outcome := none
  deriving DecidableEq

/-- The await at which a call is suspended, or how it ended. -/
inductive Phase where
  /-- `_assert_dispatchable` and `detach_blockers`. -/
  | checking
  /-- The commit of `copilotd.mode.pending`. -/
  | announcing
  /-- `mailbox.submit`, before its lock. -/
  | submitting
  /-- The future of the operation, or its recorded result. -/
  | waiting
  | refused
  /-- `ValueError`: the key was used with another mode. -/
  | conflicted
  | finished (outcome : Outcome)
  deriving DecidableEq

structure Call where
  mode : Mode
  idempotencyKey : String
  phase : Phase := .checking

/-- What an internal event id `mode:{transition_id}:{kind}` names. -/
inductive EventKind where
  | pending | outcome (outcome : Outcome)
  deriving DecidableEq

structure World where
  row : ModeColumns
  /-- Internal event ids in the journal; the reducer skips an event whose id is there. -/
  journal : List (String × EventKind) := []
  /-- The mailbox operations in the order of submission, which is the order in which
  they run. -/
  operations : List Operation := []
  calls : List Call := []

instance (entry : String × EventKind) (journal : List (String × EventKind)) :
    Decidable (entry ∈ journal) := inferInstance

/-- `commit_internal`. -/
def World.commit (w : World) (internalEventId : String × EventKind) (event : ModeEvent) : World :=
  if internalEventId ∈ w.journal then w
  else { w with row := w.row.apply event, journal := internalEventId :: w.journal }

def World.suspend (w : World) (index : Nat) (call : Call) (phase : Phase) : World :=
  { w with calls := w.calls.set index { call with phase } }

def World.operation? (w : World) (idempotencyKey : String) : Option Operation :=
  w.operations.find? fun operation => operation.idempotencyKey = idempotencyKey

/-- The event that `set_mode` commits for an outcome. -/
def outcomeEvent (mode : Mode) (transitionId : String) : Outcome → ModeEvent
  | .returns => .confirmed mode transitionId
  | .rejected => .rejected mode transitionId
  | .ambiguous => .unknown mode transitionId

/-- The first operation that has not run yet. -/
def settleFirst (outcome : Outcome) : List Operation → Option (List Operation)
  | [] => none
  | operation :: rest =>
    match operation.outcome with
    | none => some ({ operation with outcome := some outcome } :: rest)
    | some _ => (settleFirst outcome rest).map (operation :: ·)

inductive Label where
  | call (mode : Mode) (idempotencyKey : String)
  /-- The checks of a call; `passes` is the verdict of those that read no mode column. -/
  | check (index : Nat) (passes : Bool)
  | announce (index : Nat)
  | submit (index : Nat)
  | runOperation (outcome : Outcome)
  /-- The commit of the outcome's event, after which the call returns or raises. -/
  | conclude (index : Nat)

/-- The call at an index, if it is suspended at the phase. -/
def World.suspended? (w : World) (index : Nat) (phase : Phase) : Option Call :=
  w.calls[index]?.filter fun call => call.phase = phase

variable (uuid5 : String → String)

def World.announce (w : World) (index : Nat) (call : Call) : World :=
  let transitionId := uuid5 call.idempotencyKey
  (w.commit (transitionId, .pending) (.pending call.mode transitionId)).suspend index call
    .submitting

def World.submit (w : World) (index : Nat) (call : Call) : World :=
  match w.operation? call.idempotencyKey with
  | none =>
    let operation : Operation := { idempotencyKey := call.idempotencyKey, mode := call.mode }
    let w : World := { w with operations := w.operations ++ [operation] }
    w.suspend index call .waiting
  | some operation =>
    w.suspend index call (if operation.mode = call.mode then .waiting else .conflicted)

def World.conclude (w : World) (index : Nat) (call : Call) (outcome : Outcome) : World :=
  let transitionId := uuid5 call.idempotencyKey
  (w.commit (transitionId, .outcome outcome) (outcomeEvent call.mode transitionId outcome)).suspend
    index call (.finished outcome)

def step (w : World) : Label → Option World
  | .call mode idempotencyKey =>
    some { w with calls := w.calls ++ [{ mode, idempotencyKey }] }
  | .check index passes =>
    (w.suspended? index .checking).map fun call =>
      w.suspend index call (if w.row.dispatchable && passes then .announcing else .refused)
  | .announce index => (w.suspended? index .announcing).map (w.announce uuid5 index)
  | .submit index => (w.suspended? index .submitting).map (w.submit index)
  | .runOperation outcome =>
    (settleFirst outcome w.operations).map fun operations => { w with operations }
  | .conclude index => do
    let call ← w.suspended? index .waiting
    let operation ← w.operation? call.idempotencyKey
    let outcome ← operation.outcome
    some (w.conclude uuid5 index call outcome)

end Copilotd.Source.Core.ModeChanges
