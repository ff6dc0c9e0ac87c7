import Mathlib.Algebra.Order.Field.Rat
import Copilotd.Source.Core.Bindings
import Copilotd.Source.Core.ModeChanges

/-!
# Mode columns of a binding

Source: `core/reducer.py` (the `WHERE` of the `copilotd.mode.*` handlers, whose updates are those of
`ModeColumns.apply`, and `session.mode_changed`), `core/bindings.py` (`create`, the mode columns of
`begin_attachment` and `begin_reattach`) and `core/recovery.py` (the mode columns of a session whose
owner has expired).

One binding and the `exit_plan_mode` rows of its session in `pending_interactions`, which other
handlers also write.  Left out: `updated_at` of the binding and the columns of model and agent.
-/
namespace Copilotd.Source.Core.ModeReconciliation

open Source.Core.Bindings Source.Core.ModeChanges

inductive InteractionState where
  | pending | resolved | expired | other
  deriving DecidableEq

/-- A row of kind `exit_plan_mode`. -/
structure ExitPlanInteraction where
  interactionId : String
  runtimeGeneration : Nat
  ownerFenceToken : Nat
  state : InteractionState
  targetMode : Option Mode
  consumedAt : Option ℚ := none
  updatedAt : ℚ

structure Row where
  binding : SessionBinding
  mode : ModeColumns
  interactions : List ExitPlanInteraction := []

/-- The mode columns that `create` leaves to their defaults. -/
def createdColumns : ModeColumns :=
  { desiredMode := .interactive, runtimeMode := none, modeReconciliationState := .unknown }

def Row.created : Row := { binding := {}, mode := createdColumns }

/-- The mode columns in the updates of `begin_attachment`, `begin_reattach` and of the recovery of
an expired owner. -/
def detach (columns : ModeColumns) : ModeColumns :=
  { columns with runtimeMode := none, modeReconciliationState := .unknown, modeDrift := false }

/-- `data.get("mode") or data.get("newMode")`, if it is one of the three. -/
def reportedMode (mode newMode : Option String) : Option Mode :=
  let value := if mode = none ∨ mode = some "" then newMode else mode
  if value = some "interactive" then some .interactive
  else if value = some "plan" then some .plan
  else if value = some "autopilot" then some .autopilot
  else none

variable (row : Row)

/-- The `WHERE` of the handlers. -/
def Row.current (generation fence : Nat) : Bool :=
  row.binding.runtimeGeneration = generation ∧ row.binding.ownerFenceToken = some fence

/-- An approved exit from plan mode that the change of the mode may answer. -/
def ExitPlanInteraction.awaits (interaction : ExitPlanInteraction) (generation fence : Nat)
    (mode : Mode) (now : ℚ) : Bool :=
  interaction.runtimeGeneration = generation ∧ interaction.ownerFenceToken = fence ∧
    interaction.state = .resolved ∧ interaction.targetMode = some mode ∧
    interaction.consumedAt = none ∧ now - 60 ≤ interaction.updatedAt

/-- `ORDER BY updated_at DESC LIMIT 1`. -/
def latest : List ExitPlanInteraction → Option ExitPlanInteraction
  | [] => none
  | interaction :: rest =>
    match latest rest with
    | none => some interaction
    | some other => if interaction.updatedAt < other.updatedAt then some other else some interaction

/-- The first update of `session.mode_changed`; `approved` is its `EXISTS`. -/
def changeMode (columns : ModeColumns) (mode : Mode) (approved : Bool) : ModeColumns :=
  { columns with
    desiredMode := if columns.pendingMode = some mode ∨ approved then mode else columns.desiredMode
    runtimeMode := some mode
    pendingMode := if columns.pendingMode = some mode then none else columns.pendingMode
    pendingModeTransitionId :=
      if columns.pendingMode = some mode then none else columns.pendingModeTransitionId }

/-- Its second update. -/
def reconcileMode (columns : ModeColumns) : ModeColumns :=
  { columns with
    modeReconciliationState :=
      if columns.pendingMode ≠ none then .pending
      else if columns.runtimeMode = some columns.desiredMode then .synced
      else .drift
    modeDrift := columns.pendingMode = none ∧ columns.runtimeMode ≠ some columns.desiredMode }

def Row.modeChanged (generation fence : Nat) (mode : Mode) (now : ℚ) : Row :=
  let awaiting := row.interactions.filter (·.awaits generation fence mode now)
  let consumed := (latest awaiting).map ExitPlanInteraction.interactionId
  { row with
    mode :=
      if row.current generation fence then reconcileMode (changeMode row.mode mode (awaiting ≠ []))
      else row.mode
    interactions := row.interactions.map fun interaction =>
      if some interaction.interactionId = consumed then { interaction with consumedAt := some now }
      else interaction }

/-- The operations on the binding that write its mode columns. -/
def detaches (step : RowStep) (binding : SessionBinding) : Bool :=
  match step with
  | .beginAttachment .. | .beginReattach .. => true
  | .ownerExpired =>
    binding.attachmentState ∈ [.creating, .resuming, .attached, .disconnecting, .terminal]
  | _ => false

/-- The interactions that an operation on the binding expires. -/
def expires (step : RowStep) (binding : SessionBinding) (interaction : ExitPlanInteraction) :
    Bool :=
  match step with
  | .beginAttachment _ fence =>
    interaction.state = .pending ∧ (interaction.runtimeGeneration ≠ binding.runtimeGeneration ∨
      interaction.ownerFenceToken ≠ fence)
  | .beginReattach _ =>
    interaction.state = .pending ∧ interaction.runtimeGeneration ≠ binding.runtimeGeneration
  | .ownerExpired => interaction.state = .pending
  | _ => false

inductive Label where
  /-- One of the `copilotd.mode.*` events. -/
  | mode (generation fence : Nat) (event : ModeEvent)
  | modeChanged (generation fence : Nat) (mode newMode : Option String) (now : ℚ)
  | binding (step : RowStep)
  /-- Other handlers write `pending_interactions`. -/
  | interactions (rows : List ExitPlanInteraction)

/-- An operation on the binding that raises is not enabled. -/
def step (row : Row) : Label → Option Row
  | .mode generation fence event =>
    some { row with
      mode := if row.current generation fence then row.mode.apply event else row.mode }
  | .modeChanged generation fence mode newMode now =>
    match reportedMode mode newMode with
    | none => some row
    | some mode => some (row.modeChanged generation fence mode now)
  | .binding step =>
    (row.binding.apply step).map fun binding =>
      { binding
        mode := if detaches step row.binding then detach row.mode else row.mode
        interactions := row.interactions.map fun interaction =>
          if expires step binding interaction then { interaction with state := .expired }
          else interaction }
  | .interactions rows => some { row with interactions := rows }

end Copilotd.Source.Core.ModeReconciliation
