import Copilotd.Source.Core.ModeReconciliation

/-!
# The mode columns agree

`mode_reconciliation_state` and `mode_drift` are written by hand in every handler.  The drift flag
always follows the state.  The state names a pending change until the runtime mode is lost, by an
ambiguous outcome or a new attachment, and then it is unknown although the change is kept; the
claimed precedence of the pending change fails there, which is what the recovery of an expired owner
is tested for.  Two handlers write a state of neither kind: a confirmation of another change than
the pending one, and a rejection while the runtime mode is unknown.
-/
namespace Copilotd.Guarantees.ModeColumnsAgree

open Base.Run Source.Core.Bindings
open Source.Core.ModeChanges (Mode ModeColumns ModeEvent ReconciliationState)
open Source.Core.ModeReconciliation

/-- `outdated` says that the runtime mode was lost after the pending change was announced, and has
not been reported since. -/
structure Observed where
  row : Row
  outdated : Bool

/-- The label is an ambiguous outcome, an attachment or a recovery. -/
def loses (row : Row) : Label → Bool
  | .mode generation fence (.unknown ..) => row.current generation fence
  | .binding step => detaches step row.binding
  | _ => false

def outdatedAfter (after : ModeColumns) (lost outdated : Bool) : Bool :=
  after.pendingMode ≠ none ∧ after.runtimeMode = none ∧ (lost || outdated)

def follow (s : Observed) (label : Label) : Option Observed :=
  (step s.row label).map fun row =>
    { row, outdated := outdatedAfter row.mode (loses s.row label) s.outdated }

def stateOf (columns : ModeColumns) (outdated : Bool) : ReconciliationState :=
  if columns.pendingMode ≠ none ∧ outdated = false then .pending
  else if columns.runtimeMode = none then .unknown
  else if columns.runtimeMode = some columns.desiredMode then .synced
  else .drift

def claimedState (columns : ModeColumns) : ReconciliationState := stateOf columns false

/-- No confirmation passes over a pending change and no rejection finds the runtime mode unknown. -/
def Ordered (columns : ModeColumns) : ModeEvent → Prop
  | .confirmed mode transitionId =>
    columns.pendingMode = none ∨
      columns.pendingMode = some mode ∧ columns.pendingModeTransitionId = some transitionId
  | .observed mode => columns.pendingMode = none ∨ columns.pendingMode = some mode
  | .rejected _ transitionId =>
    columns.pendingModeTransitionId = some transitionId → columns.runtimeMode ≠ none
  | _ => True

instance (columns : ModeColumns) (event : ModeEvent) : Decidable (Ordered columns event) := by
  unfold Ordered
  split <;> infer_instance

def InOrder (s : Observed) : Label → Prop
  | .mode generation fence event => s.row.current generation fence = true → Ordered s.row.mode event
  | _ => True

instance (s : Observed) (label : Label) : Decidable (InOrder s label) := by
  unfold InOrder
  split <;> infer_instance

/-! ## The drift flag -/

def FlagFollows (columns : ModeColumns) : Prop :=
  columns.modeDrift = true ↔ columns.modeReconciliationState = .drift

theorem flag_confirm (columns : ModeColumns) (mode : Mode) (transitionId : Option String) :
    FlagFollows (columns.confirm mode transitionId) := by
  unfold FlagFollows ModeColumns.confirm
  dsimp only
  rw [decide_eq_true_iff]
  constructor
  · intro drift
    rw [if_pos drift]
  · intro state
    by_contra same
    rw [if_neg (not_not.mpr same)] at state
    cases state

variable {columns : ModeColumns}

theorem flag_reject (follows : FlagFollows columns) (transitionId : String) :
    FlagFollows (columns.reject transitionId) := by
  unfold ModeColumns.reject
  split
  · exact follows
  · by_cases synced : columns.runtimeMode = some columns.desiredMode
    · simp [FlagFollows, synced]
    · simp [FlagFollows, synced]

theorem flag_apply (follows : FlagFollows columns) (event : ModeEvent) :
    FlagFollows (columns.apply event) := by
  cases event with
  | pending mode transitionId =>
    dsimp only [ModeColumns.apply]
    split
    · exact follows
    · simp [FlagFollows]
  | confirmed mode transitionId => exact flag_confirm columns mode _
  | observed mode => exact flag_confirm columns mode _
  | unknown mode transitionId => simp [FlagFollows, ModeColumns.apply]
  | rejected mode transitionId => exact flag_reject follows transitionId

theorem flag_reconcile (columns : ModeColumns) : FlagFollows (reconcileMode columns) := by
  unfold FlagFollows reconcileMode
  by_cases pending : columns.pendingMode = none
  · by_cases synced : columns.runtimeMode = some columns.desiredMode
    · simp [pending, synced]
    · simp [pending, synced]
  · simp [pending]

variable {label : Label}

theorem flag_step {row after : Row} (taken : step row label = some after)
    (follows : FlagFollows row.mode) : FlagFollows after.mode := by
  cases label with
  | mode generation fence event =>
    cases taken
    split
    · exact flag_apply follows event
    · exact follows
  | modeChanged generation fence mode newMode now =>
    simp only [step] at taken
    split at taken
    · cases taken
      exact follows
    · cases taken
      unfold Row.modeChanged
      split
      · exact flag_reconcile _
      · exact follows
  | binding change =>
    obtain ⟨binding, _, rfl⟩ := Option.map_eq_some_iff.mp taken
    split
    · simp [FlagFollows, detach]
    · exact follows
  | interactions rows =>
    cases taken
    exact follows

/-! ## The state -/

structure Shown (columns : ModeColumns) (outdated : Bool) : Prop where
  state : columns.modeReconciliationState = stateOf columns outdated
  outdated : outdated = true → columns.pendingMode ≠ none ∧ columns.runtimeMode = none

variable {lost outdated : Bool}

theorem outdatedAfter_spec {after : ModeColumns}
    (still : outdatedAfter after lost outdated = true) :
    after.pendingMode ≠ none ∧ after.runtimeMode = none := by
  simp only [outdatedAfter, decide_eq_true_eq] at still
  exact ⟨still.1, still.2.1⟩

theorem Shown.same (shown : Shown columns outdated) :
    Shown columns (outdatedAfter columns false outdated) := by
  have same : outdatedAfter columns false outdated = outdated := by
    cases outdated with
    | false => simp [outdatedAfter]
    | true =>
      obtain ⟨pending, lost⟩ := shown.outdated rfl
      simp [outdatedAfter, pending, lost]
  rw [same]
  exact shown

theorem shown_detach (columns : ModeColumns) (outdated : Bool) :
    Shown (detach columns) (outdatedAfter (detach columns) true outdated) := by
  refine ⟨?_, outdatedAfter_spec⟩
  by_cases pending : columns.pendingMode = none
  · simp [detach, stateOf, outdatedAfter, pending]
  · simp [detach, stateOf, outdatedAfter, pending]

theorem shown_known (known : columns.runtimeMode ≠ none)
    (state : columns.modeReconciliationState =
      if columns.pendingMode ≠ none then .pending
      else if columns.runtimeMode = some columns.desiredMode then .synced else .drift) :
    Shown columns (outdatedAfter columns lost outdated) := by
  have current : outdatedAfter columns lost outdated = false := by simp [outdatedAfter, known]
  rw [current]
  refine ⟨?_, nofun⟩
  rw [state]
  simp [stateOf, known]

theorem shown_confirm {mode : Mode} {transitionId : Option String}
    (ordered : columns.pendingMode = none ∨ columns.pendingMode = some mode ∧
      (transitionId = none ∨ columns.pendingModeTransitionId = transitionId)) (outdated : Bool) :
    Shown (columns.confirm mode transitionId)
      (outdatedAfter (columns.confirm mode transitionId) false outdated) := by
  refine shown_known (by simp [ModeColumns.confirm]) ?_
  unfold ModeColumns.confirm
  rcases ordered with free | ⟨same, matching⟩
  · by_cases synced : columns.desiredMode = mode
    · simp [free, synced]
    · have drift : ¬ mode = columns.desiredMode := fun same => synced same.symm
      simp [free, synced, drift]
  · simp [same, matching]

theorem shown_announce (shown : Shown columns outdated) (mode : Mode) (transitionId : String) :
    Shown (columns.apply (.pending mode transitionId))
      (outdatedAfter (columns.apply (.pending mode transitionId)) false outdated) := by
  dsimp only [ModeColumns.apply]
  by_cases free : columns.pendingMode = none
  · have fresh : outdated = false := by
      by_contra lost
      exact (shown.outdated (by simpa using lost)).1 free
    rw [if_neg (not_not.mpr free), fresh]
    exact ⟨by simp [stateOf, outdatedAfter], outdatedAfter_spec⟩
  · rw [if_pos free]
    exact shown.same

theorem shown_reject (shown : Shown columns outdated) {transitionId : String}
    (known : columns.pendingModeTransitionId = some transitionId → columns.runtimeMode ≠ none) :
    Shown (columns.reject transitionId)
      (outdatedAfter (columns.reject transitionId) false outdated) := by
  unfold ModeColumns.reject
  by_cases own : columns.pendingModeTransitionId = some transitionId
  · rw [if_neg (not_not.mpr own)]
    exact shown_known (known own) (by simp)
  · rw [if_pos own]
    exact shown.same

theorem shown_apply {event : ModeEvent} (shown : Shown columns outdated)
    (ordered : Ordered columns event)
    (loses : lost = true ↔ ∃ mode transitionId, event = .unknown mode transitionId) :
    Shown (columns.apply event) (outdatedAfter (columns.apply event) lost outdated) := by
  cases event with
  | unknown mode transitionId =>
    rw [loses.mpr ⟨mode, transitionId, rfl⟩]
    exact shown_detach columns outdated
  | pending mode transitionId =>
    have kept : lost = false := by simpa using loses
    rw [kept]
    exact shown_announce shown mode transitionId
  | confirmed mode transitionId =>
    have kept : lost = false := by simpa using loses
    rw [kept]
    refine shown_confirm ?_ outdated
    exact ordered.imp_right fun ⟨same, own⟩ => ⟨same, .inr own⟩
  | observed mode =>
    have kept : lost = false := by simpa using loses
    rw [kept]
    exact shown_confirm (ordered.imp_right fun same => ⟨same, .inl rfl⟩) outdated
  | rejected mode transitionId =>
    have kept : lost = false := by simpa using loses
    rw [kept]
    exact shown_reject shown ordered

theorem shown_step {s after : Observed} (taken : follow s label = some after)
    (inOrder : InOrder s label) (shown : Shown s.row.mode s.outdated) :
    Shown after.row.mode after.outdated := by
  obtain ⟨row, moved, rfl⟩ := Option.map_eq_some_iff.mp taken
  clear taken
  cases label with
  | mode generation fence event =>
    cases moved
    by_cases current : s.row.current generation fence = true
    · rw [if_pos current]
      refine shown_apply shown (inOrder current) ?_
      cases event <;> simp [loses, current]
    · rw [if_neg current]
      have kept : loses s.row (.mode generation fence event) = false := by
        cases event <;> simp [loses, current]
      rw [kept]
      exact shown.same
  | modeChanged generation fence mode newMode now =>
    simp only [step] at moved
    split at moved
    · cases moved
      exact shown.same
    · cases moved
      unfold Row.modeChanged
      split
      · exact shown_known (by simp [reconcileMode, changeMode]) rfl
      · exact shown.same
  | binding change =>
    obtain ⟨binding, _, rfl⟩ := Option.map_eq_some_iff.mp moved
    dsimp only [loses]
    by_cases lost : detaches change s.row.binding = true
    · rw [if_pos lost, lost]
      exact shown_detach _ _
    · rw [if_neg lost, Bool.eq_false_of_not_eq_true lost]
      exact shown.same
  | interactions rows =>
    cases moved
    exact shown.same

/-- The flag follows the state, and in a run in order the state is the one that the columns stand
for. -/
theorem mode_columns_agree {start final : Observed} {labels : List Label}
    (follows : FlagFollows start.row.mode) (shown : Shown start.row.mode start.outdated)
    (reached : run follow start labels = some final) :
    (final.row.mode.modeDrift = true ↔ final.row.mode.modeReconciliationState = .drift) ∧
      (Along follow InOrder start labels →
        final.row.mode.modeReconciliationState = stateOf final.row.mode final.outdated) := by
  constructor
  · have keep : ∀ (s : Observed) label after, FlagFollows s.row.mode →
        follow s label = some after → FlagFollows after.row.mode := by
      intro s label after follows taken
      obtain ⟨row, moved, rfl⟩ := Option.map_eq_some_iff.mp taken
      exact flag_step moved follows
    exact run_inv keep follows reached
  · intro inOrder
    have keep : ∀ (s : Observed) label after, Shown s.row.mode s.outdated → InOrder s label →
        follow s label = some after → Shown after.row.mode after.outdated :=
      fun _ _ _ shown inOrder taken => shown_step taken inOrder shown
    exact (run_inv_along keep inOrder shown reached).state

/-- A binding that nothing has happened to. -/
def fresh : Observed := { row := Row.created, outdated := false }

def ambiguousChange : List Label :=
  [.binding (.beginAttachment .creating 1), .binding (.transition .markAttached 1 1),
    .mode 1 1 (.observed .interactive), .mode 1 1 (.pending .plan "a"),
    .mode 1 1 (.unknown .plan "a")]

theorem mode_columns_agree_ambiguous :
    ∃ final, run follow fresh ambiguousChange = some final ∧
      final.row.mode.modeReconciliationState = stateOf final.row.mode final.outdated := by
  have finishes : (run follow fresh ambiguousChange).isSome := by decide
  obtain ⟨final, reached⟩ := Option.isSome_iff_exists.mp finishes
  refine ⟨final, reached, ?_⟩
  have follows : FlagFollows fresh.row.mode := by
    unfold FlagFollows
    decide
  have shown : Shown fresh.row.mode fresh.outdated := ⟨by decide, by decide⟩
  exact (mode_columns_agree follows shown reached).2 (by decide)

/-- The change stays pending and the state is unknown. -/
theorem ambiguous_change_is_unknown :
    ∃ final, run follow fresh ambiguousChange = some final ∧
      final.row.mode.pendingMode = some .plan ∧
      final.row.mode.modeReconciliationState = .unknown ∧
      claimedState final.row.mode = .pending := by
  have finishes : (run follow fresh ambiguousChange).isSome := by decide
  obtain ⟨final, reached⟩ := Option.isSome_iff_exists.mp finishes
  have facts : ∀ s ∈ run follow fresh ambiguousChange, s.row.mode.pendingMode = some .plan ∧
      s.row.mode.modeReconciliationState = .unknown ∧ claimedState s.row.mode = .pending := by
    decide
  exact ⟨final, reached, facts final reached⟩

end Copilotd.Guarantees.ModeColumnsAgree
