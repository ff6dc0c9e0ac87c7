import Copilotd.Source.Ops.RestartRuns

/-!
# Finished schedule runs across restarts

The restart code keeps its own list of finished statuses.  It names `completed`, which
no run ever has, and leaves out `semantic_complete` and `blocked`.  The timestamps that
its statements read survive completion, so a finished run of these two statuses is
counted as a trigger window and rewritten to `outcome_unknown` exactly when one of them
is set.  The startup recovery names unfinished statuses only.
-/
namespace Copilotd.Guarantees.FinishedRuns

open Base.Run Base.Table Source.Core Source.Core.Scheduler Source.Ops

/-- The step is one of the recovery and restart code. -/
def restarts : Step → Bool
  | .startupRecovery _ | .prepareForce .. | .recoverForReplacement .. => true
  | _ => false

/-- Every finished run has the same status in the same row afterwards. -/
def StatusesKept (before after : List RunRow) : Prop :=
  List.Forall₂ (fun old new => old.status.terminal = true → new.status = old.status) before after

/-- The step gives no finished run another status if it belongs to the recovery and restart
code, and the snapshot counts no finished run. -/
def Respects (db : Db) (label : Step) : Prop :=
  (restarts label = true → StatusesKept db.runs (apply db label).runs) ∧
    (label = .safetySnapshot →
      ∀ row ∈ db.runs, row.status.terminal = true → triggerWindow row = false)

/-- The step reads the list of finished statuses. -/
def consults : Step → Bool
  | .prepareForce _ commits => commits
  | .recoverForReplacement adoption _ => adoption = .unaccounted
  | .safetySnapshot => true
  | _ => false

/-- No run that is `semantic_complete` or `blocked` has begun by its timestamps. -/
def Unexposed (db : Db) (label : Step) : Prop :=
  consults label = true → ∀ row ∈ db.runs,
    row.status = .semanticComplete ∨ row.status = .blocked → begun row = false

/-! ## One row -/

theorem triggerWindow_terminal {row : RunRow} (finished : row.status.terminal = true) :
    triggerWindow row = true ↔
      (row.status = .semanticComplete ∨ row.status = .blocked) ∧ begun row = true := by
  unfold triggerWindow
  rw [decide_eq_true_eq]
  refine and_congr_left fun _ => ?_
  cases status : row.status with
  | semanticComplete => decide
  | blocked => decide
  | failed => decide
  | outcomeUnknown => decide
  | cancelled => decide
  | targetUnknown => decide
  | dispatchUnknown => decide
  | _ =>
    rw [status] at finished
    cases finished

theorem statusesKept_refl (rows : List RunRow) : StatusesKept rows rows :=
  List.forall₂_same.mpr fun _ _ _ => rfl

theorem statusesKept_updateWhere {hit : RunRow → Bool} {set : RunRow → RunRow}
    {rows : List RunRow} :
    StatusesKept rows (updateWhere hit set rows) ↔
      ∀ row ∈ rows, row.status.terminal = true → hit row = true →
        (set row).status = row.status := by
  unfold StatusesKept updateWhere
  rw [List.forall₂_map_right_iff, List.forall₂_same]
  refine forall_congr' fun row => forall_congr' fun _ => forall_congr' fun _ => ?_
  by_cases here : hit row = true
  · rw [if_pos here]
    exact ⟨fun same _ => same, fun same => same here⟩
  · rw [if_neg here]
    exact ⟨fun _ there => absurd there here, fun _ => rfl⟩

theorem StatusesKept.trans {a b c : List RunRow} (first : StatusesKept a b)
    (second : StatusesKept b c) : StatusesKept a c := by
  induction first generalizing c with
  | nil => exact second
  | cons kept _ ih =>
    cases second with
    | cons again rest =>
      refine .cons ?_ (ih rest)
      intro finished
      have same := kept finished
      exact (again (same ▸ finished)).trans same

theorem statusesKept_of_misses {hit : RunRow → Bool} {set : RunRow → RunRow} {rows : List RunRow}
    (misses : ∀ row, hit row = true → row.status.terminal = false) :
    StatusesKept rows (updateWhere hit set rows) := by
  refine statusesKept_updateWhere.mpr ?_
  intro row _ finished taken
  rw [misses row taken] at finished
  cases finished

theorem unfinished_of_column {status : ScheduleRunState}
    (named : status.column ∈ [.claimed, .dispatching, .submitting, .accepted, .waiting]) :
    status.terminal = false := by
  revert named
  cases status <;> decide

theorem startupRecovery_keeps (now : ℚ) (db : Db) :
    StatusesKept db.runs (startupRecovery now db).runs := by
  refine .trans (statusesKept_of_misses ?_) (.trans (statusesKept_of_misses ?_)
    (.trans (statusesKept_of_misses ?_) (statusesKept_of_misses ?_)))
  · intro row hit
    simp only [StartupRecovery.Db.lostTarget, Bool.and_eq_true, decide_eq_true_eq] at hit
    have named : row.status.column ∈ _ := hit.1.1.1.1.1.1
    exact unfinished_of_column (by grind)
  · intro row hit
    simp only [StartupRecovery.Db.lostDispatch, Bool.and_eq_true, decide_eq_true_eq] at hit
    have named : row.status.column ∈ _ := hit.1.1.1.1
    exact unfinished_of_column (by grind)
  · intro row hit
    simp only [StartupRecovery.ScheduleRun.lostClaim, Bool.and_eq_true, decide_eq_true_eq] at hit
    have named : row.status.column ∈ _ := hit.1.1.1
    exact unfinished_of_column (by grind)
  · intro row hit
    simp only [StartupRecovery.Db.lostOutcome, Bool.and_eq_true, decide_eq_true_eq] at hit
    have named : row.status.column ∈ _ := hit.1
    exact unfinished_of_column (by grind)

theorem uncounted_iff (rows : List RunRow) :
    (∀ row ∈ rows, row.status.terminal = true → triggerWindow row = false) ↔
      ∀ row ∈ rows, row.status = .semanticComplete ∨ row.status = .blocked →
        begun row = false := by
  refine forall_congr' fun row => forall_congr' fun _ => ?_
  constructor
  · intro uncounted unknown
    have finished : row.status.terminal = true := by
      rcases unknown with same | same <;> rw [same] <;> rfl
    by_contra started
    have counted := (triggerWindow_terminal finished).mpr
      ⟨unknown, eq_true_of_ne_false started⟩
    rw [uncounted finished] at counted
    cases counted
  · intro unbegun finished
    by_contra counted
    have exposed := (triggerWindow_terminal finished).mp (eq_true_of_ne_false counted)
    rw [unbegun exposed.1] at exposed
    cases exposed.2

theorem markTriggersUnknown_keeps_iff (now : ℚ) (db : Db) :
    StatusesKept db.runs (markTriggersUnknown now db).runs ↔
      ∀ row ∈ db.runs, row.status.terminal = true → triggerWindow row = false := by
  unfold markTriggersUnknown Db.updateRuns
  rw [statusesKept_updateWhere]
  refine forall_congr' fun row => forall_congr' fun _ => forall_congr' fun finished => ?_
  constructor
  · intro same
    by_contra counted
    have hit := eq_true_of_ne_false counted
    have status : ScheduleRunState.outcomeUnknown = row.status := same hit
    rcases ((triggerWindow_terminal finished).mp hit).1 with other | other
    · rw [other] at status
      cases status
    · rw [other] at status
      cases status
  · intro missed hit
    rw [missed] at hit
    cases hit

/-! ## Steps and runs -/

theorem respects_iff (db : Db) (label : Step) : Respects db label ↔ Unexposed db label := by
  have vacuous (quiet : consults label = false) (kept : restarts label = true →
      StatusesKept db.runs (apply db label).runs) (other : label ≠ .safetySnapshot) :
      Respects db label ↔ Unexposed db label := by
    refine ⟨fun _ consulted => ?_, fun _ => ⟨kept, fun same => absurd same other⟩⟩
    rw [quiet] at consulted
    cases consulted
  have marks (now : ℚ) (consulted : consults label = true) (restart : restarts label = true)
      (result : apply db label = markTriggersUnknown now db) (other : label ≠ .safetySnapshot) :
      Respects db label ↔ Unexposed db label := by
    unfold Respects Unexposed
    rw [result, markTriggersUnknown_keeps_iff, uncounted_iff]
    exact ⟨fun both _ => both.1 restart, fun none => ⟨fun _ => none consulted,
      fun same => absurd same other⟩⟩
  cases label with
  | scheduler event => exact vacuous rfl nofun (by simp)
  | finalizeFromReducer runId status basis code now =>
    exact vacuous rfl nofun (by simp)
  | startupRecovery now =>
    exact vacuous rfl (fun _ => startupRecovery_keeps now db) (by simp)
  | prepareForce capturedAt commits =>
    cases commits with
    | false => exact vacuous rfl (fun _ => statusesKept_refl _) (by simp)
    | true => exact marks capturedAt rfl rfl rfl (by simp)
  | recoverForReplacement adoption now =>
    cases adoption with
    | unchanged | accounted => exact vacuous rfl (fun _ => statusesKept_refl _) (by simp)
    | unaccounted => exact marks now rfl rfl rfl (by simp)
  | safetySnapshot =>
    unfold Respects Unexposed
    rw [uncounted_iff]
    exact ⟨fun both _ => both.2 rfl, fun none => ⟨nofun, fun _ => none rfl⟩⟩

/-- In a run of the scheduler, the reducer, the startup recovery and the restart code, no
finished schedule run is given another status by the recovery or restart code or counted as
a trigger window, exactly if no run that is `semantic_complete` or `blocked` has begun by its
timestamps wherever the list of finished statuses is consulted. -/
theorem restart_keeps_finished_runs (start : Db) (labels : List Step) :
    Along step Respects start labels ↔ Along step Unexposed start labels :=
  along_congr respects_iff start labels

/-- A run that was claimed, finished by the reducer, and then met a forced restart. -/
def finishedThenForced : List Step :=
  [.scheduler (.operation (.plan "run" 10 1)), .scheduler (.operation (.claimNext "owner" 20 60)),
    .finalizeFromReducer "run" .semanticComplete (some "session_idle") none 30]

theorem forced_restart_rewrites_finished_run :
    (run step {} finishedThenForced).map (fun db =>
        (db.runs.map RunRow.status, nativeTriggerWindows db,
          (apply db (.prepareForce 40 true)).runs.map RunRow.status)) =
      some ([.semanticComplete], 1, [.outcomeUnknown]) := by
  decide +kernel

end Copilotd.Guarantees.FinishedRuns
