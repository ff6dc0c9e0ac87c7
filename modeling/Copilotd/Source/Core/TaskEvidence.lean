import Copilotd.Base.Payloads
import Copilotd.Source.Storage.Tables

/-!
# Task evidence

Source: `core/reducer.py` (`_apply_session_idle`, `_reopen_submission_for_task`,
`_resolve_task_submission`, `_settle_linked_loop_idle_submissions`, `_apply_task_snapshot`).

The rows of one session.  Left out: incidents, segments, liveness leases, the projection of the
loop, schedule runs, the states of `message_queue`, and the columns that none of these functions
reads (`task_type` of a link, times of progress).
-/
namespace Copilotd.Source.Core.TaskEvidence

open Base Base.Payloads Base.Table
open Source.Storage (SubmissionState)

/-! ## Rows -/

/-- `submission_task_links.state` and `background_observations.observed_state`. -/
inductive TaskState where
  | running | idle | completed | failed | cancelled | unknown
  deriving DecidableEq

/-- A status that a snapshot may report. -/
def TaskState.parse : String → Option TaskState
  | "running" => some .running
  | "idle" => some .idle
  | "completed" => some .completed
  | "failed" => some .failed
  | "cancelled" => some .cancelled
  | _ => none

def TaskState.terminal : TaskState → Bool
  | .completed | .failed | .cancelled => true
  | .running | .idle | .unknown => false

structure Submission where
  submissionId : String
  state : SubmissionState
  requestedMode : Option String := none
  taskCompletionOutcome : Option String := none
  objectiveStatus : Option String := none
  autopilotObjectiveId : Option String := none
  completionBasis : Option String := none
  observedUserEventId : Option String := none
  observedAt : Option ℚ := none
  idleAt : Option ℚ := none
  terminalAt : Option ℚ := none
  createdAt : ℚ
  /-- The submission has a row in `message_queue`. -/
  queued : Bool := true
  deriving DecidableEq

/-- A row of `submission_task_links`. -/
structure TaskLink where
  taskId : String
  submissionId : String
  objectiveId : Option String := none
  state : TaskState
  terminalEvidence : Option String := none
  correlationBasis : String
  terminalAt : Option ℚ := none
  deriving DecidableEq

/-- A row of `background_observations`. -/
structure Observation where
  sourceEventId : String
  runtimeGeneration : Int
  taskId : Option String
  taskType : Option String
  submissionId : Option String := none
  observedState : TaskState
  terminalEvidence : Option String := none
  deriving DecidableEq

structure Db where
  submissions : List Submission := []
  links : List TaskLink := []
  observations : List Observation := []
  deriving DecidableEq

def Db.submission (db : Db) (submissionId : String) : Option Submission :=
  lookup Submission.submissionId submissionId db.submissions

def Db.link (db : Db) (taskId : String) : Option TaskLink := lookup TaskLink.taskId taskId db.links

def Db.updateSubmissions (hit : Submission → Bool) (set : Submission → Submission) (db : Db) : Db :=
  { db with submissions := updateWhere hit set db.submissions }

def Db.updateLinks (hit : TaskLink → Bool) (set : TaskLink → TaskLink) (db : Db) : Db :=
  { db with links := updateWhere hit set db.links }

def Db.updateObservations (hit : Observation → Bool) (set : Observation → Observation) (db : Db) :
    Db :=
  { db with observations := updateWhere hit set db.observations }

/-- `COALESCE(a, b)`. -/
def coalesce {α : Type} : Option α → Option α → Option α
  | some value, _ => some value
  | none, other => other

/-! ## The submission of a task -/

def reopenSubmissionForTask (submissionId : String) (evidenceTime : ℚ) (db : Db) : Db × Bool :=
  match db.submission submissionId with
  | none => (db, false)
  | some row =>
    if row.state ≠ .semanticComplete then (db, true)
    else if row.terminalAt.all (evidenceTime < ·) then (db, false)
    else
      (db.updateSubmissions (fun row => row.submissionId = submissionId) fun row =>
        { row with state := .loopIdle, completionBasis := none, terminalAt := none }, true)

/-- What `_resolve_task_submission` returns. -/
structure Resolved where
  submissionId : Option String := none
  correlationBasis : Option String := none
  objectiveId : Option String := none

/-- The submission, unless it cannot be reopened. -/
def resolveTo (submissionId correlationBasis : String) (objectiveId : Option String)
    (evidenceTime : ℚ) (db : Db) : Db × Resolved :=
  match reopenSubmissionForTask submissionId evidenceTime db with
  | (db, true) => (db, ⟨some submissionId, some correlationBasis, objectiveId⟩)
  | (db, false) => (db, ⟨none, none, objectiveId⟩)

/-- The order of `ORDER BY created_at DESC, submission_id DESC`. -/
def Submission.before (row other : Submission) : Bool :=
  row.createdAt < other.createdAt ∨
    (row.createdAt = other.createdAt ∧ row.submissionId < other.submissionId)

/-- `… ORDER BY created_at DESC, submission_id DESC LIMIT 1`. -/
def Db.latest (db : Db) : Option Submission :=
  db.submissions.foldl
    (fun latest row =>
      match latest with
      | none => some row
      | some best => if best.before row then some row else some best)
    none

def activeStates : List SubmissionState := [.observedActive, .loopIdle, .continuationExpected]

/-- A task without a link and without references of its own. -/
def resolveUnreferenced (objectiveId : Option String) (evidenceTime : ℚ) (db : Db) :
    Db × Resolved :=
  match db.submissions.filter fun row =>
      row.state ∈ activeStates ∧ row.observedAt.any (· ≤ evidenceTime) with
  | [row] => resolveTo row.submissionId "single_active_submission" none evidenceTime db
  | [] =>
    match db.latest with
    | none => (db, { objectiveId })
    | some latest =>
      if latest.state = .semanticComplete ∧
          latest.completionBasis.any
            (· ∈ ["loop_idle", "task_complete_final_idle", "tasks_terminal_quiet"]) ∧
          latest.terminalAt.any (· ≤ evidenceTime) then
        resolveTo latest.submissionId "late_task_after_idle" none evidenceTime db
      else (db, { objectiveId })
  | _ => (db, { objectiveId })

/-- A task that names its objective. -/
def resolveObjective (objectiveId : Option String) (evidenceTime : ℚ) (db : Db) : Db × Resolved :=
  match objectiveId with
  | none => resolveUnreferenced none evidenceTime db
  | some objective =>
    match db.submissions.filter fun row => row.autopilotObjectiveId = some objective with
    | [row] => resolveTo row.submissionId "objective_id" objectiveId evidenceTime db
    | [] => resolveUnreferenced objectiveId evidenceTime db
    | _ => (db, { objectiveId })

variable (text : Text)

def resolveTaskSubmission (task : Json) (taskId : String) (evidenceTime : ℚ) (db : Db) :
    Db × Resolved :=
  match db.link taskId with
  | some link =>
    if link.terminalAt.isSome then
      (db, ⟨some link.submissionId, some link.correlationBasis, link.objectiveId⟩)
    else resolveTo link.submissionId link.correlationBasis link.objectiveId evidenceTime db
  | none =>
    let explicit := orElse (value text.toPython task "submissionId")
      (value text.toPython task "submission_id")
    let objectiveId := orElse (value text.toPython task "objectiveId")
      (value text.toPython task "objective_id")
    match explicit with
    | some submissionId =>
      if (db.submission submissionId).isSome then
        resolveTo submissionId "explicit_submission_id" objectiveId evidenceTime db
      else (db, { objectiveId })
    | none => resolveObjective objectiveId evidenceTime db

/-! ## A snapshot of the tasks -/

/-- `str(task.get(key, default))`. -/
def textField (task : Json) (key default : String) : String :=
  Json.text text.toPython ((task.get? key).getD (.str default))

/-- A task with an id and a known status. -/
def taskOf (task : Json) : Option (String × TaskState) :=
  let taskId := text.strip (textField text task "id" "")
  if taskId = "" then none
  else (TaskState.parse (text.lower (textField text task "status" ""))).map fun state =>
    (taskId, state)

def evidenceOf (state : TaskState) : Option String :=
  if state.terminal then some "task_snapshot" else none

/-- `INSERT INTO background_observations … ON CONFLICT … DO UPDATE`. -/
def Db.observe (row : Observation) (db : Db) : Db :=
  let same := fun old : Observation =>
    decide (old.sourceEventId = row.sourceEventId ∧ old.runtimeGeneration = row.runtimeGeneration)
  if db.observations.any same then
    db.updateObservations same fun old =>
      { old with
        observedState :=
          if old.terminalEvidence.isSome then old.observedState else row.observedState
        terminalEvidence := coalesce old.terminalEvidence row.terminalEvidence
        submissionId := coalesce old.submissionId row.submissionId }
  else { db with observations := db.observations ++ [row] }

/-- `INSERT INTO submission_task_links … ON CONFLICT … DO UPDATE`. -/
def Db.linkTask (row : TaskLink) (db : Db) : Db :=
  if (db.link row.taskId).isSome then
    db.updateLinks (fun old => old.taskId = row.taskId) fun old =>
      { old with
        objectiveId := coalesce old.objectiveId row.objectiveId
        state := if old.terminalAt.isSome then old.state else row.state
        terminalEvidence := coalesce old.terminalEvidence row.terminalEvidence
        terminalAt := coalesce old.terminalAt row.terminalAt }
  else { db with links := db.links ++ [row] }

/-- The evidence about one task. -/
def applyTask (generation : Int) (evidenceTime : ℚ) (task : Json) (db : Db) : Db :=
  match taskOf text task with
  | none => db
  | some (taskId, state) =>
    let (resolvedDb, resolved) := resolveTaskSubmission text task taskId evidenceTime db
    let observed := resolvedDb.observe
      { sourceEventId := "task:" ++ taskId, runtimeGeneration := generation, taskId := some taskId
        taskType := some (textField text task "type" "background")
        submissionId := resolved.submissionId, observedState := state
        terminalEvidence := evidenceOf state }
    match resolved.submissionId, resolved.correlationBasis with
    | some submissionId, some correlationBasis =>
      observed.linkTask
        { taskId, submissionId, objectiveId := resolved.objectiveId, state
          terminalEvidence := evidenceOf state, correlationBasis
          terminalAt := if state.terminal then some evidenceTime else none }
    | _, _ => observed

/-- An observation that a current snapshot does not list. -/
def settleAbsent (evidenceTime : ℚ) (gone : Observation) (db : Db) : Db :=
  let card := fun row : Observation =>
    decide (row.runtimeGeneration = gone.runtimeGeneration ∧
      row.sourceEventId = gone.sourceEventId ∧ row.terminalEvidence = none)
  let awaited :=
    fun link : TaskLink => decide (link.taskId = gone.taskId.getD "" ∧ link.terminalAt = none)
  if text.lower (gone.taskType.getD "") = "shell" then
    (db.updateObservations card fun row =>
        { row with observedState := .completed, terminalEvidence := some "task_snapshot_absent" })
      |>.updateLinks awaited fun link =>
        { link with
          state := .completed, terminalEvidence := some "task_snapshot_absent"
          terminalAt := some evidenceTime }
  else
    (db.updateObservations card ({ · with observedState := .unknown }))
      |>.updateLinks awaited ({ · with state := .unknown })

def applyTaskSnapshot (generation : Int) (tasks : List Json) (evidenceTime : ℚ)
    (allowNegative : Bool) (db : Db) : Db :=
  let seen := (tasks.filterMap (taskOf text)).map Prod.fst
  let observed := tasks.foldl (fun db task => applyTask text generation evidenceTime task db) db
  if allowNegative then
    let existing := observed.observations.filter fun row =>
      row.runtimeGeneration = generation ∧ row.terminalEvidence = none ∧
        row.observedState ∈ [.running, .idle] ∧ row.taskId.getD "" ∉ seen
    existing.foldl (fun db row => settleAbsent text evidenceTime row db) observed
  else observed

/-! ## The end of a loop -/

def idleState (aborted : Bool) (row : Submission) : SubmissionState :=
  if aborted then .observedAborted
  else if row.taskCompletionOutcome = some "continue" then .continuationExpected
  else if row.taskCompletionOutcome = some "blocked" ∨
      row.objectiveStatus.any (· ∈ ["paused", "cap_reached"]) then .semanticBlocked
  else .loopIdle

def idleBasis (aborted : Bool) (row : Submission) : Option String :=
  if aborted then some "session_idle_aborted"
  else if row.taskCompletionOutcome = some "continue" then some "task_complete_continue"
  else if row.taskCompletionOutcome = some "blocked" then some "task_complete_blocked"
  else if row.objectiveStatus = some "paused" then some "objective_paused"
  else if row.objectiveStatus = some "cap_reached" then some "objective_cap_reached"
  else none

def applySessionIdle (aborted : Bool) (receivedAt : ℚ) (db : Db) : Db :=
  let settled := db.updateSubmissions
    (fun row => row.state ∈ [.observedActive, .continuationExpected]) fun row =>
      { row with
        state := idleState aborted row
        idleAt := some receivedAt
        completionBasis := idleBasis aborted row
        terminalAt :=
          if idleState aborted row ∈ [.observedAborted, .semanticBlocked] then some receivedAt
          else row.terminalAt }
  settled.updateSubmissions
    (fun row => row.queued ∧ row.observedUserEventId = none ∧ row.createdAt ≤ receivedAt ∧
      row.state ∈ [.submitting, .submitted, .submittedUnknown]) fun row =>
      { row with
        state := .outcomeUnknown
        completionBasis := some "session_idle_without_user_correlation"
        terminalAt := coalesce row.terminalAt (some receivedAt) }

/-! ## Quiet sessions -/

def Db.linksOf (db : Db) (submissionId : String) : List TaskLink :=
  db.links.filter (·.submissionId = submissionId)

def TaskLink.settled (link : TaskLink) : Bool := link.state.terminal ∧ link.terminalAt.isSome

/-- `cutoff`: the end of the loop and of every linked task. -/
def cutoff (links : List TaskLink) (row : Submission) : ℚ :=
  links.foldl (fun cutoff link => max cutoff (link.terminalAt.getD 0)) (row.idleAt.getD 0)

/-- The state and the basis of a submission whose session is quiet. -/
def quietOutcome (links : List TaskLink) (row : Submission) : Option (SubmissionState × String) :=
  if links.any fun link => link.state ∈ [.failed, .cancelled] then
    some (.semanticBlocked, "tasks_terminal_failure_quiet")
  else if links ≠ [] then some (.semanticComplete, "tasks_terminal_quiet")
  else if row.requestedMode = some "autopilot" then
    if row.taskCompletionOutcome = some "completed" then
      some (.semanticComplete, "task_complete_final_idle")
    else none
  else some (.semanticComplete, "loop_idle")

/-- One candidate; `quietSince cutoff` is when the session was last seen quiet, if the snapshots are
all current and none is older than the cutoff. -/
def settleRow (quietSince : ℚ → Option ℚ) (db : Db) (row : Submission) : Submission :=
  let links := db.linksOf row.submissionId
  if row.state = .loopIdle ∧ links.all TaskLink.settled then
    match quietSince (cutoff links row), quietOutcome links row with
    | some settledAt, some (state, basis) =>
      { row with state, completionBasis := some basis, terminalAt := some settledAt }
    | _, _ => row
  else row

/-- `_settle_linked_loop_idle_submissions`. -/
def settleLinkedLoopIdle (quietSince : ℚ → Option ℚ) (db : Db) : Db :=
  { db with submissions := db.submissions.map (settleRow quietSince db) }

/-! ## What completes a submission -/

structure NoneCompleted (before after : Db) : Prop where
  was : ∀ row ∈ after.submissions, row.state = .semanticComplete →
    ∃ old ∈ before.submissions, old.submissionId = row.submissionId ∧ old.state = .semanticComplete

theorem NoneCompleted.of_submissions {before after : Db}
    (same : after.submissions = before.submissions) :
    NoneCompleted before after :=
  ⟨fun row member complete => ⟨row, same ▸ member, rfl, complete⟩⟩

theorem NoneCompleted.refl (db : Db) : NoneCompleted db db := .of_submissions rfl

theorem NoneCompleted.trans {first second third : Db} (one : NoneCompleted first second)
    (two : NoneCompleted second third) : NoneCompleted first third := by
  refine ⟨fun row member complete => ?_⟩
  obtain ⟨middle, there, named, also⟩ := two.was row member complete
  obtain ⟨old, before, same, was⟩ := one.was middle there also
  exact ⟨old, before, same.trans named, was⟩

theorem noneCompleted_updateSubmissions {hit : Submission → Bool} {set : Submission → Submission}
    (safe : ∀ row, (set row).state ≠ .semanticComplete) (db : Db) :
    NoneCompleted db (db.updateSubmissions hit set) := by
  refine ⟨fun row member complete => ?_⟩
  obtain ⟨old, before, rfl⟩ := mem_updateWhere.mp member
  split at complete
  · exact absurd complete (safe old)
  · rename_i missed
    exact ⟨old, before, by simp [missed], complete⟩

theorem reopen_noneCompleted (submissionId : String) (evidenceTime : ℚ) (db : Db) :
    NoneCompleted db (reopenSubmissionForTask submissionId evidenceTime db).1 := by
  unfold reopenSubmissionForTask
  split
  · exact .refl db
  · split
    · exact .refl db
    · split
      · exact .refl db
      · exact noneCompleted_updateSubmissions (fun _ => SubmissionState.noConfusion) db

theorem resolveTo_noneCompleted (submissionId correlationBasis : String)
    (objectiveId : Option String) (evidenceTime : ℚ) (db : Db) :
    NoneCompleted db (resolveTo submissionId correlationBasis objectiveId evidenceTime db).1 := by
  have reopened := reopen_noneCompleted submissionId evidenceTime db
  unfold resolveTo
  split
  · rename_i opened
    rw [opened] at reopened
    exact reopened
  · rename_i opened
    rw [opened] at reopened
    exact reopened

theorem resolveUnreferenced_noneCompleted (objectiveId : Option String) (evidenceTime : ℚ)
    (db : Db) :
    NoneCompleted db (resolveUnreferenced objectiveId evidenceTime db).1 := by
  unfold resolveUnreferenced
  split
  · exact resolveTo_noneCompleted ..
  · split
    · exact .refl db
    · split
      · exact resolveTo_noneCompleted ..
      · exact .refl db
  · exact .refl db

theorem resolveTaskSubmission_noneCompleted (task : Json) (taskId : String) (evidenceTime : ℚ)
    (db : Db) : NoneCompleted db (resolveTaskSubmission text task taskId evidenceTime db).1 := by
  unfold resolveTaskSubmission
  split
  · split
    · exact .refl db
    · exact resolveTo_noneCompleted ..
  · dsimp only
    split
    · split
      · exact resolveTo_noneCompleted ..
      · exact .refl db
    · unfold resolveObjective
      split
      · exact resolveUnreferenced_noneCompleted ..
      · split
        · exact resolveTo_noneCompleted ..
        · exact resolveUnreferenced_noneCompleted ..
        · exact .refl db

theorem observe_submissions (row : Observation) (db : Db) :
    (db.observe row).submissions = db.submissions := by
  unfold Db.observe
  dsimp only
  split <;> rfl

theorem linkTask_submissions (row : TaskLink) (db : Db) :
    (db.linkTask row).submissions = db.submissions := by
  unfold Db.linkTask
  split <;> rfl

theorem applyTask_noneCompleted (generation : Int) (evidenceTime : ℚ) (task : Json) (db : Db) :
    NoneCompleted db (applyTask text generation evidenceTime task db) := by
  unfold applyTask
  split
  · exact .refl db
  · rename_i taskId state _
    refine (resolveTaskSubmission_noneCompleted text task taskId evidenceTime db).trans ?_
    dsimp only
    split
    · exact .of_submissions ((linkTask_submissions _ _).trans (observe_submissions _ _))
    · exact .of_submissions (observe_submissions _ _)

theorem settleAbsent_submissions (evidenceTime : ℚ) (gone : Observation) (db : Db) :
    (settleAbsent text evidenceTime gone db).submissions = db.submissions := by
  unfold settleAbsent
  split <;> rfl

theorem applyTaskSnapshot_noneCompleted (generation : Int) (tasks : List Json) (evidenceTime : ℚ)
    (allowNegative : Bool) (db : Db) :
    NoneCompleted db (applyTaskSnapshot text generation tasks evidenceTime allowNegative db) := by
  have listed : ∀ (tasks : List Json) (db : Db), NoneCompleted db
      (tasks.foldl (fun db task => applyTask text generation evidenceTime task db) db) := by
    intro tasks
    induction tasks with
    | nil => exact .refl
    | cons task tasks ih =>
      intro db
      exact (applyTask_noneCompleted text generation evidenceTime task db).trans (ih _)
  have absent : ∀ (rows : List Observation) (db : Db),
      (rows.foldl (fun db row => settleAbsent text evidenceTime row db) db).submissions =
        db.submissions := by
    intro rows
    induction rows with
    | nil => exact fun _ => rfl
    | cons row rows ih =>
      exact fun db => (ih _).trans (settleAbsent_submissions text evidenceTime row db)
  unfold applyTaskSnapshot
  split
  · exact (listed tasks db).trans (.of_submissions (absent _ _))
  · exact listed tasks db

theorem applySessionIdle_noneCompleted (aborted : Bool) (receivedAt : ℚ) (db : Db) :
    NoneCompleted db (applySessionIdle aborted receivedAt db) := by
  refine (noneCompleted_updateSubmissions ?_ db).trans
    (noneCompleted_updateSubmissions (fun _ => SubmissionState.noConfusion) _)
  intro row
  unfold idleState
  split
  · nofun
  · split
    · nofun
    · split <;> nofun

theorem settleRow_complete {quietSince : ℚ → Option ℚ} {db : Db} {row : Submission}
    (incomplete : row.state ≠ .semanticComplete)
    (complete : (settleRow quietSince db row).state = .semanticComplete) :
    (settleRow quietSince db row).idleAt = row.idleAt ∧
      (∀ link ∈ db.linksOf row.submissionId, link.settled = true) ∧
      (quietSince (cutoff (db.linksOf row.submissionId) row)).isSome := by
  unfold settleRow at complete ⊢
  dsimp only at complete ⊢
  split at complete
  · rename_i candidate
    rw [if_pos candidate]
    split at complete
    · rename_i quiet _
      rw [quiet]
      exact ⟨rfl, List.all_eq_true.mp candidate.2, rfl⟩
    · exact absurd complete incomplete
  · exact absurd complete incomplete

theorem settleRow_submissionId (quietSince : ℚ → Option ℚ) (db : Db) (row : Submission) :
    (settleRow quietSince db row).submissionId = row.submissionId := by
  unfold settleRow
  dsimp only
  split
  · split <;> rfl
  · rfl

theorem le_cutoff (links : List TaskLink) (row : Submission) :
    row.idleAt.getD 0 ≤ cutoff links row := by
  have grows : ∀ (links : List TaskLink) (least : ℚ),
      least ≤ links.foldl (fun cutoff link => max cutoff (link.terminalAt.getD 0)) least := by
    intro links
    induction links with
    | nil => exact fun least => le_refl least
    | cons link links ih => exact fun least => (le_max_left least _).trans (ih _)
  exact grows links _

end Copilotd.Source.Core.TaskEvidence
