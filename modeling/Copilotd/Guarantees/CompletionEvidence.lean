import Copilotd.Base.Run
import Copilotd.Source.Core.Snapshots

/-!
# Completion on current evidence

A submission is only completed while the rows of `activity`, `queue` and `tasks` are idle at the
epoch that is requested.  Each request, each stale result and each failure of the requested epoch
takes that away again, so the last of these events was a result that applied.  A failure of an epoch
that is no longer requested is ignored.
-/
namespace Copilotd.Guarantees.CompletionEvidence

open Base Base.Payloads Base.Run Source.Core.Snapshots
open Source.Core.TaskEvidence (Submission TaskLink NoneCompleted settleRow settleRow_complete
  settleRow_submissionId settleLinkedLoopIdle le_cutoff cutoff applyTaskSnapshot_noneCompleted
  applySessionIdle_noneCompleted)

/-! ## What was processed -/

/-- A snapshot event, with what the reducer had seen when it came. -/
inductive Seen where
  | requested
  | result (epoch : Int) (caughtUp : Bool) (observedAt : ℚ)
  | failed (epoch : Int)
  deriving DecidableEq

/-- The world with the last snapshot event of each topic. -/
structure Watched where
  world : World
  last : List (Topic × Seen) := []
  deriving DecidableEq

/-- A failure of an epoch that is no longer requested. -/
def outdated (w : World) (topic : Topic) (epoch : Int) : Bool :=
  (Dict.get topic w.reconciliation).any fun row => epoch < row.requestedEpoch

variable (text : Text) (counts : World → Topic → Int → Bool)

/-- The last events after a label; `counts` says which failures count. -/
def record (s : Watched) : Label → List (Topic × Seen)
  | .requested _ topic => Dict.set topic .requested s.last
  | .observed _ snapshot =>
    Dict.set snapshot.topic
      (.result snapshot.epoch (snapshot.queryEnd ≤ s.world.watermark) snapshot.observedAt) s.last
  | .failed topic epoch _ =>
    if counts s.world topic epoch then Dict.set topic (.failed epoch) s.last else s.last
  | _ => s.last

def watch (s : Watched) (label : Label) : Option Watched :=
  (step text s.world label).map fun world => { world, last := record counts s label }

/-- The failures of an outdated epoch apart. -/
abbrev current (w : World) (topic : Topic) (epoch : Int) : Bool := !outdated w topic epoch

structure Completes (before after : World) (row : Submission) : Prop where
  member : row ∈ after.tasks.submissions
  complete : row.state = .semanticComplete
  new : ∀ old ∈ before.tasks.submissions, old.submissionId = row.submissionId →
    old.state ≠ .semanticComplete

/-- The evidence for a completion. -/
structure Supported (s : Watched) (row : Submission) : Prop where
  snapshots : ∀ topic ∈ [Topic.activity, .queue, .tasks],
    ∃ now ∈ Dict.get topic s.world.reconciliation, ∃ observedAt,
      Dict.get topic s.last = some (.result now.requestedEpoch true observedAt) ∧
        ∀ idleAt ∈ row.idleAt, idleAt ≤ observedAt
  links : ∀ link ∈ s.world.tasks.links, link.submissionId = row.submissionId →
    link.state.terminal = true

/-! ## What an idle row says -/

/-- The last event of the topic is a result of the requested epoch that the reducer had caught up
with. -/
def Backed (last : Option Seen) (row : Reconciliation) : Prop :=
  row.status = .idle → row.requestedEpoch = row.appliedEpoch →
    ∃ observedAt, row.observedAt = some observedAt ∧
      last = some (.result row.requestedEpoch true observedAt)

def Inv (s : Watched) : Prop :=
  ∀ topic, ∀ row ∈ Dict.get topic s.world.reconciliation, Backed (Dict.get topic s.last) row

variable {text} {s after : Watched} {label : Label}

theorem Inv.requested {fence : Fence} {topic : Topic} (inv : Inv s) :
    Inv ⟨s.world.requested fence topic, Dict.set topic .requested s.last⟩ := by
  intro other row found
  dsimp only at found ⊢
  rw [get_requested] at found
  rw [Dict.get_set]
  by_cases same : other = topic
  · rw [if_pos same] at found
    cases found
    intro idle
    split at idle <;> cases idle
  · rw [if_neg same] at found ⊢
    exact inv other row found

theorem Inv.observed {fence : Fence} {snapshot : Observed} {world : World} (inv : Inv s)
    (processed : s.world.applySnapshotObserved text fence snapshot = some world) :
    Inv ⟨world, Dict.set snapshot.topic
      (.result snapshot.epoch (snapshot.queryEnd ≤ s.world.watermark) snapshot.observedAt)
      s.last⟩ := by
  intro topic row found
  dsimp only at found ⊢
  rw [Dict.get_set]
  rcases observed_cases processed with ⟨absent, rfl⟩ | ⟨old, merged, present, merge, applied⟩
  · have other : topic ≠ snapshot.topic := by
      rintro rfl
      rw [absent] at found
      cases found
    rw [if_neg other]
    exact inv topic row found
  · have rows : world.reconciliation =
        (merged.reconcile snapshot
          (evidence text snapshot s.world old).negative).reconciliation := by
      rcases applied with rfl | rfl <;> rfl
    rw [rows, get_reconcile, (merge_cases merge).1] at found
    obtain ⟨before, there, rfl⟩ := Option.map_eq_some_iff.mp found
    by_cases same : topic = snapshot.topic
    · -- only an applied result leaves the row idle
      subst same
      rw [present] at there
      cases there
      rw [if_pos rfl, if_pos rfl]
      cases negative : (evidence text snapshot s.world old).negative with
      | false =>
        intro idle
        cases idle
      | true =>
        intro _ _
        refine ⟨snapshot.observedAt, rfl, ?_⟩
        have both := Bool.and_eq_true .. |>.mp negative
        have fresh := of_decide_eq_true both.1
        have caughtUp := of_decide_eq_true both.2
        simp [reconciled, fresh.1, caughtUp]
    · rw [if_neg same, if_neg same]
      exact inv topic before there

theorem Inv.failed {topic : Topic} {epoch : Int} {observedAt : ℚ} (inv : Inv s) :
    Inv
      ⟨s.world.failed topic epoch observedAt,
        record current s (.failed topic epoch observedAt)⟩ := by
  intro other row found
  dsimp only [record] at found ⊢
  rw [get_failed] at found
  obtain ⟨before, there, rfl⟩ := Option.map_eq_some_iff.mp found
  by_cases same : other = topic
  · subst same
    by_cases reached : before.requestedEpoch ≤ epoch
    · simp only [reached, and_self, if_true]
      intro idle
      cases idle
    · have old : outdated s.world other epoch = true := by
        simpa [outdated, Option.mem_def.mp there] using reached
      simp only [reached, and_false, if_false, current, old, Bool.not_true, Bool.false_eq_true]
      exact inv other before there
  · simp only [same, false_and, if_false]
    split
    · rw [Dict.get_set, if_neg same]
      exact inv other before there
    · exact inv other before there

theorem Inv.replaceGeneration {generation : Int} {now : ℚ} (inv : Inv s) :
    Inv ⟨s.world.replaceGeneration generation now, s.last⟩ := by
  intro topic row found
  dsimp only at found ⊢
  rw [get_replaceGeneration] at found
  obtain ⟨before, there, rfl⟩ := Option.map_eq_some_iff.mp found
  by_cases other : before.runtimeGeneration ≠ generation
  · rw [if_pos other]
    intro idle
    cases idle
  · rw [if_neg other]
    exact inv topic before there

theorem Inv.step (inv : Inv s) (taken : watch text current s label = some after) : Inv after := by
  obtain ⟨world, stepped, rfl⟩ := Option.map_eq_some_iff.mp taken
  cases label with
  | requested fence topic =>
    cases stepped
    exact inv.requested
  | observed fence snapshot => exact inv.observed stepped
  | failed topic epoch observedAt =>
    cases stepped
    exact inv.failed
  | sessionIdle aborted receivedAt =>
    cases stepped
    exact inv
  | tasksSnapshot fence tasks observedAt =>
    cases stepped
    exact inv
  | generationReplaced generation now =>
    cases stepped
    exact inv.replaceGeneration
  | others binding tasks =>
    cases stepped
    exact inv

/-! ## What completes -/

theorem completes_settled {world : World} {row : Submission}
    (stepped : step text s.world label = some world)
    (own : ∀ binding tasks, label ≠ .others binding tasks)
    (completes : Completes s.world world row) :
    ∃ (fence : Fence) (merged : World) (old : Submission), world = merged.settle fence ∧
      old.state ≠ .semanticComplete ∧
        row = settleRow (merged.quietSince fence) merged.tasks old := by
  have never : ¬ NoneCompleted s.world.tasks world.tasks := by
    intro none
    obtain ⟨old, member, same, complete⟩ := none.was row completes.member completes.complete
    exact completes.new old member same complete
  cases label with
  | requested fence topic =>
    cases stepped
    exact absurd (NoneCompleted.refl _) never
  | observed fence snapshot =>
    rcases observed_cases stepped with ⟨_, rfl⟩ | ⟨before, merged, _, merge, applied⟩
    · exact absurd (NoneCompleted.refl _) never
    · have none : NoneCompleted s.world.tasks merged.tasks := by
        rcases (merge_cases merge).2 with same | ⟨tasks, same⟩
        · rw [same]
          exact .refl _
        · rw [same]
          exact applyTaskSnapshot_noneCompleted ..
      rcases applied with rfl | rfl
      · exact absurd none never
      · obtain ⟨old, member, rfl⟩ := List.mem_map.mp completes.member
        refine ⟨fence, _, old, rfl, ?_, rfl⟩
        intro complete
        obtain ⟨first, there, same, was⟩ := none.was old member complete
        exact completes.new first there (same.trans (settleRow_submissionId _ _ _).symm) was
  | failed topic epoch observedAt =>
    cases stepped
    exact absurd (NoneCompleted.refl _) never
  | sessionIdle aborted receivedAt =>
    cases stepped
    exact absurd (applySessionIdle_noneCompleted ..) never
  | tasksSnapshot fence tasks observedAt =>
    cases stepped
    have none := applyTaskSnapshot_noneCompleted text fence.generation
      (tasks.filter isDict) observedAt true s.world.tasks
    exact absurd none never
  | generationReplaced generation now =>
    cases stepped
    exact absurd (NoneCompleted.refl _) never
  | others binding tasks => exact absurd rfl (own binding tasks)

theorem since_some {w : World} {topic : Topic} {least time : ℚ}
    (since : w.since topic least = some time) :
    ∃ row ∈ Dict.get topic w.reconciliation, row.status = .idle ∧
      row.requestedEpoch = row.appliedEpoch ∧ row.observedAt = some time ∧ least ≤ time := by
  obtain ⟨row, found, here⟩ := Option.bind_eq_some_iff.mp since
  unfold Reconciliation.since at here
  split at here
  · rename_i idle
    obtain ⟨observed, late⟩ := Option.filter_eq_some_iff.mp here
    exact ⟨row, found, idle.1, idle.2, observed, by simpa using late⟩
  · cases here

theorem quietSince_topics {w : World} {fence : Fence} {least : ℚ}
    (quiet : (w.quietSince fence least).isSome) :
    ∀ topic ∈ [Topic.activity, .queue, .tasks], ∃ time, w.since topic least = some time := by
  unfold World.quietSince at quiet
  split at quiet
  · rename_i activity queue tasks one two three
    intro topic member
    simp only [List.mem_cons, List.not_mem_nil, or_false] at member
    rcases member with rfl | rfl | rfl
    · exact ⟨activity, one⟩
    · exact ⟨queue, two⟩
    · exact ⟨tasks, three⟩
  · cases quiet

theorem supported_of_settled {fence : Fence} {merged : World} {old row : Submission}
    {last : List (Topic × Seen)} (inv : Inv ⟨merged.settle fence, last⟩)
    (incomplete : old.state ≠ .semanticComplete)
    (settled : row = settleRow (merged.quietSince fence) merged.tasks old)
    (complete : row.state = .semanticComplete) : Supported ⟨merged.settle fence, last⟩ row := by
  rw [settled] at complete
  obtain ⟨idle, links, quiet⟩ := settleRow_complete incomplete complete
  have named : row.submissionId = old.submissionId := by
    rw [settled]
    exact settleRow_submissionId _ _ _
  have rested : row.idleAt = old.idleAt := by
    rw [settled]
    exact idle
  refine ⟨?_, ?_⟩
  · intro topic member
    obtain ⟨time, since⟩ := quietSince_topics quiet topic member
    obtain ⟨now, found, still, applied, observed, late⟩ := since_some since
    obtain ⟨observedAt, at_, backed⟩ := inv topic now found still applied
    refine ⟨now, found, observedAt, backed, ?_⟩
    intro idleAt ended
    have same : time = observedAt := Option.some.inj (observed.symm.trans at_)
    have cut := le_cutoff (merged.tasks.linksOf old.submissionId) old
    rw [← rested, Option.mem_def.mp ended, Option.getD_some] at cut
    exact same ▸ cut.trans late
  · intro link member same
    have mine : link ∈ merged.tasks.linksOf old.submissionId := by
      refine List.mem_filter.mpr ⟨member, ?_⟩
      simpa [← named] using same
    have settled := links link mine
    simp only [TaskLink.settled, Bool.decide_and, Bool.and_eq_true, decide_eq_true_eq] at settled
    exact settled.1

/-! ## Main results -/

/-- Whenever a submission is completed, the last snapshot event of each of the three topics,
outdated failures apart, is a result of the requested epoch with which the reducer had caught up, no
older than the end of the loop, and the tasks of the submission are terminal. -/
theorem completes_on_current_evidence (text : Text) {start : World}
    (fresh : start.reconciliation = []) {labels : List Label} {s after : Watched}
    (reached : run (watch text current) { world := start } labels = some s) {label : Label}
    (taken : watch text current s label = some after)
    (own : ∀ binding tasks, label ≠ .others binding tasks) {row : Submission}
    (completes : Completes s.world after.world row) : Supported after row := by
  have begins : Inv { world := start } := by
    intro topic row found
    rw [fresh] at found
    cases found
  have inv := Inv.step (run_inv (fun _ _ _ inv taken => Inv.step inv taken) begins reached) taken
  obtain ⟨world, stepped, rfl⟩ := Option.map_eq_some_iff.mp taken
  obtain ⟨fence, merged, old, rfl, incomplete, settled⟩ := completes_settled stepped own completes
  exact supported_of_settled inv incomplete settled completes.complete

/-- `str.strip` and `str.lower` of text that is stripped and in lower case. -/
def plainText : Text := { str := fun _ => "", int := fun _ => none, strip := id, lower := id }

def emptySnapshot (topic : Topic) (epoch : Int) : Label :=
  .observed ⟨1, 1⟩
    { topic, epoch, snapshotId := "s", queryStart := 0, queryEnd := 0, observedAt := 6
      payload := .dict [] }

/-- A submission whose loop runs. -/
def running : World where
  binding := some { runtimeGeneration := 1, ownerFenceToken := 1 }
  tasks := { submissions := [{ submissionId := "a", state := .observedActive, createdAt := 0 }] }

def completed : Submission where
  submissionId := "a"
  state := .semanticComplete
  completionBasis := some "loop_idle"
  idleAt := some 5
  terminalAt := some 6
  createdAt := 0

/-- The loop ends, and all topics but `tasks` have been read. -/
def quietLabels : List Label :=
  [.sessionIdle false 5, .requested ⟨1, 1⟩ .activity, .requested ⟨1, 1⟩ .queue,
    .requested ⟨1, 1⟩ .tasks, emptySnapshot .activity 1, emptySnapshot .queue 1]

def quietState (counts : World → Topic → Int → Bool) (labels : List Label) : Watched :=
  (run (watch plainText counts) { world := running } labels).getD { world := running }

theorem completes_on_current_evidence_quiet :
    ∃ after, watch plainText current (quietState current quietLabels) (emptySnapshot .tasks 1) =
      some after ∧ Supported after completed := by
  have reached : run (watch plainText current) { world := running } quietLabels =
      some (quietState current quietLabels) := by
    decide +kernel
  obtain ⟨after, taken⟩ : ∃ after, watch plainText current (quietState current quietLabels)
      (emptySnapshot .tasks 1) = some after :=
    Option.isSome_iff_exists.mp (by decide +kernel)
  have member : ∀ after ∈ watch plainText current (quietState current quietLabels)
      (emptySnapshot .tasks 1), completed ∈ after.world.tasks.submissions := by
    decide +kernel
  exact ⟨after, taken, completes_on_current_evidence plainText rfl reached taken (fun _ _ => nofun)
    ⟨member after taken, rfl, by decide +kernel⟩⟩

/-- The queue was requested twice and read at the second epoch; then the first request fails. -/
def overtakenLabels : List Label :=
  [.sessionIdle false 5, .requested ⟨1, 1⟩ .activity, .requested ⟨1, 1⟩ .queue,
    .requested ⟨1, 1⟩ .queue, .requested ⟨1, 1⟩ .tasks, emptySnapshot .activity 1,
    emptySnapshot .queue 2, .failed .queue 1 7]

/-- With every failure counted the last event of the queue is a failure, and the submission
completes all the same. -/
theorem outdated_failure_comes_last :
    run (watch plainText fun _ _ _ => true) { world := running } overtakenLabels =
        some (quietState (fun _ _ _ => true) overtakenLabels) ∧
      ∃ after, watch plainText (fun _ _ _ => true) (quietState (fun _ _ _ => true) overtakenLabels)
          (emptySnapshot .tasks 1) = some after ∧
        Completes (quietState (fun _ _ _ => true) overtakenLabels).world after.world completed ∧
        ¬ Supported after completed := by
  refine ⟨by decide +kernel, ?_⟩
  have taken : ∃ after, watch plainText (fun _ _ _ => true)
      (quietState (fun _ _ _ => true) overtakenLabels) (emptySnapshot .tasks 1) = some after ∧
        completed ∈ after.world.tasks.submissions ∧
          Dict.get .queue after.last = some (.failed 1) := by
    refine ⟨(watch plainText (fun _ _ _ => true) (quietState (fun _ _ _ => true) overtakenLabels)
      (emptySnapshot .tasks 1)).get (by decide +kernel), (Option.some_get _).symm, ?_, ?_⟩
    · decide +kernel
    · decide +kernel
  obtain ⟨after, taken, member, last⟩ := taken
  refine ⟨after, taken, ⟨member, rfl, by decide +kernel⟩, ?_⟩
  intro supported
  obtain ⟨_, _, _, backed, _⟩ := supported.snapshots .queue (by decide)
  rw [last] at backed
  cases backed

end Copilotd.Guarantees.CompletionEvidence
