import Copilotd.Source.Core.ModeChanges

/-!
# What an attachment reads back

Source: `core/session_runtime.py` (`_attach` from `mark_attached` on,
`_reconcile_agent_after_attach`, the agent checks of `_readiness_blockers`, the mode and
model checks of `_assert_dispatchable`, `_model_config_matches`), `core/reducer.py` (the handlers of
`copilotd.model.observed`, `copilotd.agent.observed`,
`copilotd.agent_transition.settled` and of the agents snapshot,
`_apply_model_observation`, `_normalize_model_observation`, `_model_config_matches`)
and `core/bindings.py` (the columns that `begin_attachment` resets).

One attachment, from the binding row to READY.  A model config is a dictionary whose
values are strings or null; its `confirmationMask` and `knownFields` are lists.  The
event ids of the mode and model observations carry the new generation, so only the
agent's event can be in the journal already.  Left out: timestamps, row versions, and
the project, extension and remote configuration, whose verdict is an input.
-/
namespace Copilotd.Source.Core.AttachReconciliation

open Source.Core.ModeChanges

/-! ## Model configurations -/

inductive Field where
  | modelId | reasoningEffort | reasoningSummary | contextTier

def Field.key : Field → String
  | .modelId => "modelId"
  | .reasoningEffort => "reasoningEffort"
  | .reasoningSummary => "reasoningSummary"
  | .contextTier => "contextTier"

/-- The fields in the order of their keys. -/
def Field.sorted : List Field := [.contextTier, .modelId, .reasoningEffort, .reasoningSummary]

/-- `none` is an absent key, `some none` is null. -/
structure ModelFields where
  modelId : Option (Option String) := none
  reasoningEffort : Option (Option String) := none
  reasoningSummary : Option (Option String) := none
  contextTier : Option (Option String) := none
  deriving DecidableEq

def ModelFields.at (fields : ModelFields) : Field → Option (Option String)
  | .modelId => fields.modelId
  | .reasoningEffort => fields.reasoningEffort
  | .reasoningSummary => fields.reasoningSummary
  | .contextTier => fields.contextTier

def ModelFields.get (fields : ModelFields) (field : Field) : Option String :=
  (fields.at field).join

/-- `old.update(new)`. -/
def ModelFields.update (old new : ModelFields) : ModelFields :=
  { modelId := new.modelId.or old.modelId
    reasoningEffort := new.reasoningEffort.or old.reasoningEffort
    reasoningSummary := new.reasoningSummary.or old.reasoningSummary
    contextTier := new.contextTier.or old.contextTier }

/-- A desired or pending configuration. -/
structure ModelConfig where
  fields : ModelFields := {}
  confirmationMask : Option (List String) := none
  deriving DecidableEq

/-- `bool(config)`. -/
def ModelConfig.nonempty (config : ModelConfig) : Bool := config ≠ {}

/-- What `get_current_model` returns. -/
structure Observation where
  entries : List (String × Option String)
  knownFields : Option (List String) := none

structure RuntimeModel where
  fields : ModelFields := {}
  knownFields : List String := []

/-- The aliases of a field, of which the first that is present counts. -/
def Field.sources : Field → List String
  | .modelId => ["modelId", "newModel", "model"]
  | field => [field.key]

def Observation.at (observed : Observation) (field : Field) : Option (Option String) :=
  field.sources.findSome? fun source => observed.entries.lookup source

def normalizeModelObservation (observed : Observation) : RuntimeModel :=
  { fields :=
      { modelId := observed.at .modelId
        reasoningEffort := observed.at .reasoningEffort
        reasoningSummary := observed.at .reasoningSummary
        contextTier := observed.at .contextTier }
    knownFields := observed.knownFields.getD [] ++
      (Field.sorted.filter fun field => (observed.at field).isSome).map Field.key }

def modelConfirmationMask (config : ModelConfig) : List Field :=
  match config.confirmationMask with
  | some explicit => Field.sorted.filter fun field => field.key ∈ explicit
  | none => Field.sorted.filter fun field => (config.fields.at field).isSome

def modelConfigMatches (requested : ModelConfig) (observed : RuntimeModel) : Bool :=
  (modelConfirmationMask requested).all fun field =>
    field.key ∈ observed.knownFields && observed.fields.get field == requested.fields.get field

structure ModelColumns where
  desired : ModelConfig := {}
  pending : Option ModelConfig := none
  pendingTransitionId : Option String := none
  runtime : Option RuntimeModel := none
  confirmationMask : List Field := []
  reconciliationState : ReconciliationState := .unknown
  drift : Bool := false

/-- `_apply_model_observation`. -/
def ModelColumns.observe (row : ModelColumns) (observed : Observation)
    (transitionId : Option String) : ModelColumns :=
  let normalized := normalizeModelObservation observed
  let previous := row.runtime.getD {}
  let runtime : RuntimeModel :=
    { fields := previous.fields.update normalized.fields
      knownFields := previous.knownFields ++ normalized.knownFields }
  let confirmed : Option ModelConfig := row.pending.filter fun pending =>
    (transitionId = none ∨ row.pendingTransitionId = transitionId) &&
      modelConfigMatches pending runtime
  let desired := confirmed.getD row.desired
  let drift := desired.nonempty && !modelConfigMatches desired runtime
  { desired
    runtime := some runtime
    pending := if confirmed.isSome then none else row.pending
    pendingTransitionId := if confirmed.isSome then none else row.pendingTransitionId
    confirmationMask := modelConfirmationMask desired
    reconciliationState :=
      if row.pending.isSome && !confirmed.isSome then .pending
      else if drift then .drift else .synced
    drift }

/-! ## Agents -/

structure AgentColumns where
  desired : String := "default"
  pending : Option String := none
  pendingTransitionId : Option String := none
  runtime : String := "unknown"

inductive TransitionState where
  | pending | unknown | confirmed | rejected
  deriving DecidableEq

/-- A row of `runtime_agent_transitions` of the session. -/
structure AgentTransition where
  transitionId : String
  previousAgent : String
  targetAgent : String
  state : TransitionState := .pending
  createdAt : Nat

/-- The columns of the binding that an attachment reconciles, and what it reads beside. -/
structure Binding where
  runtimeGeneration : Nat := 0
  mode : ModeColumns
  model : ModelColumns := {}
  agent : AgentColumns := {}
  agentTransitions : List AgentTransition := []
  /-- Internal event ids in the session's journal. -/
  journal : List String := []

variable (row : Binding)

/-- `copilotd.agent.observed`, and the end of an agents snapshot. -/
def AgentColumns.observe (row : AgentColumns) (agent : String) : AgentColumns :=
  { desired := if row.pending = some agent then agent else row.desired
    pending := if row.pending = some agent then none else row.pending
    pendingTransitionId := if row.pending = some agent then none else row.pendingTransitionId
    runtime := agent }

/-- `copilotd.agent_transition.settled` on the columns; every branch is an update of the row
whose slot holds the transition. -/
def AgentColumns.settle (row : AgentColumns) (transitionId targetAgent observedAgent : String)
    (state : TransitionState) (clearPending : Bool) : AgentColumns :=
  if row.pendingTransitionId ≠ some transitionId then row
  else match state with
    | .confirmed =>
      { desired := targetAgent, runtime := targetAgent, pending := none
        pendingTransitionId := none }
    | .unknown =>
      if clearPending then
        { row with
          runtime := if observedAgent = "" then "unknown" else observedAgent
          pending := none
          pendingTransitionId := none }
      else { row with runtime := "unknown" }
    | .rejected =>
      { row with runtime := observedAgent, pending := none, pendingTransitionId := none }
    | .pending => row

def AgentTransition.open (transition : AgentTransition) : Bool :=
  transition.state = .pending ∨ transition.state = .unknown

/-- `ORDER BY created_at DESC LIMIT 1`. -/
def latest (transitions : List AgentTransition) : Option AgentTransition :=
  transitions.foldl
    (fun best transition =>
      match best with
      | none => some transition
      | some other =>
          if other.createdAt < transition.createdAt then some transition else some other)
    none

def Binding.openTransition : Option AgentTransition :=
  let open_ := row.agentTransitions.filter AgentTransition.open
  (row.agent.pendingTransitionId.bind fun id =>
      open_.find? fun transition => transition.transitionId = id).or
    (latest open_)

def TransitionState.value : TransitionState → String
  | .pending => "pending"
  | .unknown => "unknown"
  | .confirmed => "confirmed"
  | .rejected => "rejected"

/-- The commit of `copilotd.agent_transition.settled`. -/
def Binding.commitSettled (transitionId targetAgent observedAgent : String)
    (state : TransitionState) (clearPending : Bool) : Binding :=
  let internalEventId :=
    "agent-transition:" ++ transitionId ++ ":attach-reconcile:" ++ state.value
  if internalEventId ∈ row.journal then row
  else { row with
    journal := internalEventId :: row.journal
    agentTransitions := row.agentTransitions.map fun transition =>
      if transition.transitionId = transitionId then { transition with state } else transition
    agent := row.agent.settle transitionId targetAgent observedAgent state clearPending }

/-- The three outcomes of `_reconcile_agent_after_attach`. -/
def Binding.settleAgent (transitionId previousAgent targetAgent observedAgent : String) : Binding :=
  if observedAgent = targetAgent then
    row.commitSettled transitionId targetAgent observedAgent .confirmed false
  else if observedAgent = previousAgent then
    row.commitSettled transitionId targetAgent observedAgent .rejected false
  else row.commitSettled transitionId targetAgent observedAgent .unknown true

/-- `_reconcile_agent_after_attach`. -/
def Binding.reconcileAgent (observedAgent : String) : Binding :=
  match row.openTransition, row.agent.pendingTransitionId, row.agent.pending with
  | some transition, _, _ =>
    row.settleAgent transition.transitionId transition.previousAgent transition.targetAgent
      observedAgent
  | none, some transitionId, some target =>
    row.settleAgent transitionId row.agent.desired target observedAgent
  | none, _, _ =>
    { row with
      agent := row.agent.observe (if observedAgent = "" then "default" else observedAgent) }

/-! ## The attachment -/

/-- How `get_current_model` answers. -/
inductive ModelReadback where
  | unavailable
  | failed
  | reported (observed : Observation)

/-- What the runtime answers during the attachment. -/
structure Readback where
  mode : Mode
  model : ModelReadback
  /-- `get_current_agent`, if the capability `agents_current` is supported. -/
  agent : Option String
  /-- The current agent of the agents snapshot, if one was merged. -/
  agentSnapshot : Option String := none
  /-- Everything else that `_attach` and `_readiness_blockers` require. -/
  otherwiseReady : Bool := true

/-- The columns that `begin_attachment` resets. -/
def Binding.beginAttachment : Binding :=
  { row with
    runtimeGeneration := row.runtimeGeneration + 1
    mode := { row.mode with
      runtimeMode := none, modeReconciliationState := .unknown, modeDrift := false }
    model := { row.model with runtime := none, reconciliationState := .unknown, drift := false } }

def Binding.observeMode (mode : Mode) : Binding :=
  { row with mode := row.mode.apply (.observed mode) }

def Binding.observeModel (observed : Observation) : Binding :=
  { row with model := row.model.observe observed none }

/-- The model part of `_attach`; `none` is DEGRADED. -/
def Binding.reconcileModel : ModelReadback → Option Binding
  | .reported observed => some (row.observeModel observed)
  | _ => if row.model.desired.nonempty then none else some row

def Binding.applyAgentSnapshot : Option String → Binding
  | none => row
  | some agent => { row with agent := row.agent.observe agent }

/-- The agent checks of `_readiness_blockers`. -/
def AgentColumns.readinessBlockers (row : AgentColumns) : List String :=
  (if row.pending ≠ none then ["agent_transition_pending"] else []) ++
    (if row.runtime = "unknown" then ["runtime_agent_unknown"]
      else if row.runtime ≠ row.desired then ["runtime_agent_drift"] else [])

/-- `_attach` from `mark_attached` on; `some` is READY. -/
def attach (readback : Readback) : Option Binding := do
  let row := row.beginAttachment.observeMode readback.mode
  let row ← row.reconcileModel readback.model
  let row := match readback.agent with
    | none => row
    | some agent => (row.reconcileAgent agent).applyAgentSnapshot readback.agentSnapshot
  if readback.otherwiseReady && (readback.agent = none || row.agent.readinessBlockers = []) then
    some row
  else none

def modeValue : Mode → String
  | .interactive => "interactive"
  | .plan => "plan"
  | .autopilot => "autopilot"

/-- `runtime.get(key) == desired.get(key)`; of the other keys only these two can be present. -/
def sameEntry (requested : ModelConfig) (runtime : RuntimeModel) (key : String) : Bool :=
  match Field.sorted.find? fun field => field.key = key with
  | some field => runtime.fields.get field == requested.fields.get field
  | none => key ≠ "confirmationMask" && key ≠ "knownFields"

/-- `_model_config_matches` of `session_runtime.py`, which takes the mask as it is. -/
def runtimeMatches (requested : ModelConfig) (runtime : RuntimeModel) : Bool :=
  (requested.confirmationMask.getD ((modelConfirmationMask requested).map Field.key)).all
    fun key => key ∈ runtime.knownFields && sameEntry requested runtime key

/-- The message of `_assert_dispatchable`, if these columns make it refuse. -/
def Binding.dispatchRefusal : Option String :=
  match row.mode.pendingMode with
  | some mode => some ("mode transition is pending: " ++ modeValue mode)
  | none =>
    if row.mode.runtimeMode ≠ some row.mode.desiredMode then
      some ("mode drift: desired=" ++ modeValue row.mode.desiredMode ++ ", runtime=" ++
        (row.mode.runtimeMode.map modeValue).getD "unknown")
    else if row.model.pending ≠ none then some "model transition is pending"
    else if row.model.desired.nonempty && row.model.runtime.isNone then
      some "runtime model state is unknown"
    else if row.model.desired.nonempty &&
        !row.model.runtime.any (runtimeMatches row.model.desired) then
      some "runtime model configuration drifted"
    else match row.agent.readinessBlockers with
      | [] => none
      | blockers => some ("session readiness is blocked: " ++ ", ".intercalate blockers)

end Copilotd.Source.Core.AttachReconciliation
