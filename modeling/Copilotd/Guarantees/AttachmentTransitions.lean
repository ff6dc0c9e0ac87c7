import Copilotd.Source.Core.AttachReconciliation

/-!
# Pending transitions after an attachment

`begin_attachment` keeps the three pending columns.  A pending agent is settled with one
of three outcomes, and READY requires that its slot is empty.  A pending mode or model
is only ever confirmed: when the runtime reports another mode, or a model that does not
match, the column stays, and with it the refusal of every send and of every call that
could clear it.  Without a pending change, a mode or a model other than the desired one is
refused in the same way, and nothing on the way to READY compares them.
-/
namespace Copilotd.Guarantees.AttachmentTransitions

open Source.Core.ModeChanges Source.Core.AttachReconciliation

/-- No transition is pending. -/
structure Resolved (row : Binding) : Prop where
  mode : row.mode.pendingMode = none
  model : row.model.pending = none
  agent : row.agent.pending = none

/-- The runtime reports the mode that is pending, or the desired one, and likewise the model. -/
structure Reported (row : Binding) (mode : Mode) (observed : Observation) : Prop where
  mode : mode = row.mode.pendingMode.getD row.mode.desiredMode
  pending : ∀ pending ∈ row.model.pending,
    modelConfigMatches pending (normalizeModelObservation observed) = true
  model : (row.model.pending.getD row.model.desired).nonempty = true →
    runtimeMatches (row.model.pending.getD row.model.desired)
      (normalizeModelObservation observed) = true

theorem confirm_dispatchable (row : ModeColumns) (mode : Mode) :
    (row.confirm mode none).dispatchable = true ↔
      mode = row.pendingMode.getD row.desiredMode := by
  unfold ModeColumns.dispatchable ModeColumns.confirm
  cases held : row.pendingMode with
  | none => simp
  | some pending =>
    by_cases same : pending = mode
    · simp [same]
    · simp [same, Ne.symm same]

theorem update_empty (fields : ModelFields) : ModelFields.update {} fields = fields := by
  unfold ModelFields.update
  simp

theorem observe_pending (row : ModelColumns) (observed : Observation) (fresh : row.runtime = none) :
    (row.observe observed none).pending = none ↔
      ∀ pending ∈ row.pending,
        modelConfigMatches pending (normalizeModelObservation observed) = true := by
  unfold ModelColumns.observe
  rw [fresh]
  dsimp only [Option.getD_none, List.nil_append]
  rw [update_empty]
  cases held : row.pending with
  | none => simp
  | some pending =>
    cases matched : modelConfigMatches pending (normalizeModelObservation observed) with
    | true | false => simp [matched]

theorem observe_desired (row : ModelColumns) (observed : Observation) (fresh : row.runtime = none)
    (settled : (row.observe observed none).pending = none) :
    (row.observe observed none).desired = row.pending.getD row.desired ∧
      (row.observe observed none).runtime = some (normalizeModelObservation observed) := by
  have matched := (observe_pending row observed fresh).mp settled
  unfold ModelColumns.observe
  rw [fresh]
  dsimp only [Option.getD_none, List.nil_append]
  rw [update_empty]
  refine ⟨?_, rfl⟩
  cases held : row.pending with
  | none => rfl
  | some pending =>
    have accepted := matched pending held
    change ((some pending).filter fun pending => _).getD row.desired = pending
    rw [Option.filter_some, if_pos]
    · rfl
    · simpa using accepted

/-- The model checks of `_assert_dispatchable`. -/
structure ModelDispatchable (row : ModelColumns) : Prop where
  pending : row.pending = none
  drift : row.desired.nonempty = true → row.runtime.any (runtimeMatches row.desired) = true

theorem observe_dispatchable (row : ModelColumns) (observed : Observation)
    (fresh : row.runtime = none) :
    ModelDispatchable (row.observe observed none) ↔
      (∀ pending ∈ row.pending,
        modelConfigMatches pending (normalizeModelObservation observed) = true) ∧
      ((row.pending.getD row.desired).nonempty = true →
        runtimeMatches (row.pending.getD row.desired)
          (normalizeModelObservation observed) = true) := by
  rw [← observe_pending row observed fresh]
  constructor
  · rintro ⟨settled, same⟩
    obtain ⟨target, runtime⟩ := observe_desired row observed fresh settled
    rw [target, runtime] at same
    exact ⟨settled, same⟩
  · rintro ⟨settled, same⟩
    obtain ⟨target, runtime⟩ := observe_desired row observed fresh settled
    refine ⟨settled, ?_⟩
    rw [target, runtime]
    exact same

theorem settleAgent_columns (row : Binding) (id previous target observed : String) :
    (row.settleAgent id previous target observed).mode = row.mode ∧
      (row.settleAgent id previous target observed).model = row.model := by
  have commits (state : TransitionState) (clear : Bool) :
      (row.commitSettled id target observed state clear).mode = row.mode ∧
        (row.commitSettled id target observed state clear).model = row.model := by
    unfold Binding.commitSettled
    dsimp only
    split
    · exact ⟨rfl, rfl⟩
    · exact ⟨rfl, rfl⟩
  unfold Binding.settleAgent
  split
  · exact commits _ _
  · split
    · exact commits _ _
    · exact commits _ _

theorem reconcileAgent_columns (row : Binding) (agent : String) (snapshot : Option String) :
    ((row.reconcileAgent agent).applyAgentSnapshot snapshot).mode = row.mode ∧
      ((row.reconcileAgent agent).applyAgentSnapshot snapshot).model = row.model := by
  have reconciled : (row.reconcileAgent agent).mode = row.mode ∧
      (row.reconcileAgent agent).model = row.model := by
    unfold Binding.reconcileAgent
    split
    · exact settleAgent_columns row _ _ _ _
    · exact settleAgent_columns row _ _ _ _
    · exact ⟨rfl, rfl⟩
  cases snapshot with
  | none => exact reconciled
  | some agent => exact reconciled

theorem readinessBlockers_pending {row : AgentColumns} (clear : row.readinessBlockers = []) :
    row.pending = none := by
  unfold AgentColumns.readinessBlockers at clear
  by_contra pending
  rw [if_pos pending] at clear
  cases clear

/-- Nothing in these columns makes `_assert_dispatchable` refuse. -/
structure Dispatchable (row : Binding) : Prop where
  mode : row.mode.dispatchable = true
  model : ModelDispatchable row.model
  agent : row.agent.readinessBlockers = []

theorem dispatchRefusal_eq_none_iff (row : Binding) :
    row.dispatchRefusal = none ↔ Dispatchable row := by
  unfold Binding.dispatchRefusal
  constructor
  · intro accepts
    split at accepts
    · cases accepts
    next idle =>
    split at accepts
    · cases accepts
    next steady =>
    split at accepts
    · cases accepts
    next clear =>
    split at accepts
    · cases accepts
    next known =>
    split at accepts
    · cases accepts
    next same =>
    split at accepts
    next quiet =>
      refine ⟨?_, ⟨not_not.mp clear, ?_⟩, quiet⟩
      · simp [ModeColumns.dispatchable, idle, not_not.mp steady]
      · intro wanted
        simpa [wanted] using same
    · cases accepts
  · intro free
    have mode := free.mode
    simp only [ModeColumns.dispatchable, decide_eq_true_eq] at mode
    rw [mode.1]
    dsimp only
    rw [if_neg (not_not.mpr mode.2), if_neg (not_not.mpr free.model.pending), if_neg, if_neg,
      free.agent]
    · rw [Bool.and_eq_true, Bool.not_eq_true']
      rintro ⟨wanted, drifted⟩
      rw [free.model.drift wanted] at drifted
      cases drifted
    · rw [Bool.and_eq_true]
      rintro ⟨wanted, unknown⟩
      have known := free.model.drift wanted
      rw [Option.isNone_iff_eq_none.mp unknown] at known
      cases known

/-- An attachment that reaches READY, with the model and the agent read back, leaves no
transition pending and `_assert_dispatchable` no reason to refuse in these columns, exactly if the
runtime reported the mode and a model that the row asks for. -/
theorem attachment_resolves_iff {row after : Binding} {readback : Readback}
    {observed : Observation} {agent : String} (model : readback.model = .reported observed)
    (supported : readback.agent = some agent) (ready : attach row readback = some after) :
    (Resolved after ∧ after.dispatchRefusal = none) ↔ Reported row readback.mode observed := by
  rw [dispatchRefusal_eq_none_iff]
  unfold attach at ready
  rw [model, supported] at ready
  simp only [Binding.reconcileModel, Option.bind_eq_bind, Option.bind_some] at ready
  split at ready
  next admitted =>
    cases ready
    have columns := reconcileAgent_columns
      ((row.beginAttachment.observeMode readback.mode).observeModel observed) agent
      readback.agentSnapshot
    have quiet := of_decide_eq_true ((Bool.or_eq_true_iff.mp
      (Bool.and_eq_true_iff.mp admitted).2).resolve_left nofun)
    have mode := confirm_dispatchable row.beginAttachment.mode readback.mode
    have model := observe_dispatchable row.beginAttachment.model observed rfl
    constructor
    · rintro ⟨-, free⟩
      have steady := free.mode
      have settled := free.model
      rw [columns.1] at steady
      rw [columns.2] at settled
      exact ⟨mode.mp steady, (model.mp settled).1, (model.mp settled).2⟩
    · intro reported
      have steady := mode.mpr reported.mode
      have settled := model.mpr ⟨reported.pending, reported.model⟩
      refine ⟨⟨?_, ?_, readinessBlockers_pending quiet⟩, ?_, ?_, quiet⟩
      · rw [columns.1]
        exact (of_decide_eq_true steady).1
      · rw [columns.2]
        exact settled.pending
      · rw [columns.1]
        exact steady
      · rw [columns.2]
        exact settled
  next => cases ready

/-- A plan mode and a model that an ambiguous operation left pending. -/
def ambiguousBinding : Binding :=
  { mode :=
      { desiredMode := .interactive, runtimeMode := none, pendingMode := some .plan
        pendingModeTransitionId := some "mode", modeReconciliationState := .unknown }
    model :=
      { pending := some { fields := { modelId := some (some "large") } }
        pendingTransitionId := some "model" }
    agent := { pending := some "reviewer", pendingTransitionId := some "agent" }
    agentTransitions :=
      [{ transitionId := "agent", previousAgent := "default", targetAgent := "reviewer",
         state := .unknown, createdAt := 1 }] }

/-- The runtime reports a mode, a model id and the agent. -/
def reports (mode : Mode) (modelId agent : String) : Readback :=
  { mode, model := .reported { entries := [("modelId", some modelId)] }, agent := some agent }

theorem attachment_resolves_reported :
    ∃ after, attach ambiguousBinding (reports .plan "large" "default") = some after ∧
      ((Resolved after ∧ after.dispatchRefusal = none) ↔
        Reported ambiguousBinding .plan { entries := [("modelId", some "large")] }) := by
  have reaches : (attach ambiguousBinding (reports .plan "large" "default")).isSome := by decide
  obtain ⟨after, ready⟩ := Option.isSome_iff_exists.mp reaches
  exact ⟨after, ready, attachment_resolves_iff rfl rfl ready⟩

/-- The operation did not take effect: the runtime is still in its old mode. -/
theorem unreported_mode_stays_pending :
    (attach ambiguousBinding (reports .interactive "large" "reviewer")).map
        (fun after => (after.mode.pendingMode, after.dispatchRefusal)) =
      some (some .plan, some "mode transition is pending: plan") := by
  decide

end Copilotd.Guarantees.AttachmentTransitions
