import Copilotd.Source.Core.Reactions

/-!
# Reactions across a shutdown and its resume

A shutdown marks the reaction that it fails with all that it overwrites, and the resume that
names it puts it back.  Both events also settle the reactions of submissions that have ended,
and these do not come back: what the resume restores it settles again.
-/
namespace Copilotd.Guarantees.ShutdownReactions

open Base.Table
open Source.Storage (SubmissionState)
open Source.Core.Reactions

variable {event shutdown resume : Event} {db : Db} {row : Reaction} {id submissionId : String}
  {state : ReactionState} {resumesInBatch : List (String × Int × Option String)}

/-! ## What one event does to one row -/

@[simp] theorem submissions_set (event : Event) (submissionId : String) (state : ReactionState)
    (db : Db) :
    (setSubmissionReaction event submissionId state db).submissions = db.submissions := by
  unfold setSubmissionReaction
  split
  · rfl
  · split
    · rfl
    · rfl

@[simp] theorem journal_set (event : Event) (submissionId : String) (state : ReactionState)
    (db : Db) : (setSubmissionReaction event submissionId state db).journal = db.journal := by
  unfold setSubmissionReaction
  split
  · rfl
  · split
    · rfl
    · rfl

theorem submissionId_next (event : Event) (submissionState : SubmissionState)
    (state : ReactionState) (existing : Reaction) :
    (nextReaction event submissionState state existing).submissionId = existing.submissionId := by
  unfold nextReaction
  dsimp only
  split
  · split
    · rfl
    · split
      · split <;> rfl
      · rfl
  · split <;> rfl

theorem sdkSessionId_next (event : Event) (submissionState : SubmissionState)
    (state : ReactionState) (existing : Reaction) :
    (nextReaction event submissionState state existing).sdkSessionId = existing.sdkSessionId := by
  unfold nextReaction
  dsimp only
  split
  · split
    · rfl
    · split
      · split <;> rfl
      · rfl
  · split <;> rfl

variable {set : Reaction → Reaction}

theorem reaction_update (hit : Reaction → Bool)
    (key : ∀ row, (set row).submissionId = row.submissionId) (found : db.reaction id = some row) :
    ({ db with reactions := updateWhere hit set db.reactions } : Db).reaction id =
      some (if hit row then set row else row) := by
  unfold Db.reaction at found ⊢
  rw [lookup_updateWhere key, found, Option.map_some]

theorem reaction_set (event : Event) (submissionId : String) (state : ReactionState)
    (found : db.reaction id = some row) :
    (setSubmissionReaction event submissionId state db).reaction id = some row ∨
      id = submissionId ∧ ∃ submission, sourcedSubmission event submissionId db = some submission ∧
        (setSubmissionReaction event submissionId state db).reaction id =
          some (nextReaction event submission.state state row) := by
  unfold setSubmissionReaction
  cases sourced : sourcedSubmission event submissionId db with
  | none => exact .inl found
  | some submission =>
    cases existing : db.reaction submissionId with
    | none => exact .inl (lookup_append_of_some found)
    | some old =>
      have after := reaction_update (fun row => row.submissionId = submissionId)
        (submissionId_next event submission.state state) found
      have key : row.submissionId = id := lookup_some_key found
      by_cases same : id = submissionId
      · refine .inr ⟨same, submission, rfl, after.trans ?_⟩
        rw [if_pos (decide_eq_true (key.trans same))]
      · refine .inl (after.trans ?_)
        rw [if_neg (by simpa [key] using same)]

theorem reaction_set_other (different : id ≠ submissionId) (found : db.reaction id = some row) :
    (setSubmissionReaction event submissionId state db).reaction id = some row := by
  rcases reaction_set event submissionId state found with
    same | ⟨equal, _⟩
  · exact same
  · exact absurd equal different

section

variable (event : Event)

theorem reaction_settleEnded {rows : List Submission}
    (found : db.reaction id = some row)
      (others : ∀ submission ∈ rows, submission.submissionId ≠ id) :
    (settleEnded event rows db).reaction id = some row := by
  unfold settleEnded
  induction rows generalizing db with
  | nil => exact found
  | cons submission rows ih =>
    refine ih ?_ fun other member => others other (List.mem_cons_of_mem _ member)
    exact reaction_set_other (others submission (List.mem_cons_self ..)).symm found

@[simp] theorem submissions_settleEnded (rows : List Submission) (db : Db) :
    (settleEnded event rows db).submissions = db.submissions := by
  unfold settleEnded
  induction rows generalizing db with
  | nil => rfl
  | cons submission rows ih => rw [List.foldl_cons, ih, submissions_set]

@[simp] theorem journal_settleEnded (rows : List Submission) (db : Db) :
    (settleEnded event rows db).journal = db.journal := by
  unfold settleEnded
  induction rows generalizing db with
  | nil => rfl
  | cons submission rows ih => rw [List.foldl_cons, ih, journal_set]

@[simp] theorem submissions_compensate (db : Db) (submissionId : String) :
    (compensateReaction event db submissionId).submissions = db.submissions := by
  unfold compensateReaction
  split
  · rfl
  · split <;> rfl

@[simp] theorem journal_compensate (db : Db) (submissionId : String) :
    (compensateReaction event db submissionId).journal = db.journal := by
  unfold compensateReaction
  split
  · rfl
  · split <;> rfl

@[simp] theorem submissions_compensateAll (ids : List String) (db : Db) :
    (ids.foldl (compensateReaction event) db).submissions = db.submissions := by
  induction ids generalizing db with
  | nil => rfl
  | cons first ids ih => rw [List.foldl_cons, ih, submissions_compensate]

@[simp] theorem journal_compensateAll (ids : List String) (db : Db) :
    (ids.foldl (compensateReaction event) db).journal = db.journal := by
  induction ids generalizing db with
  | nil => rfl
  | cons first ids ih => rw [List.foldl_cons, ih, journal_compensate]

@[simp] theorem submissions_applyReactionState (db : Db) :
    (applyReactionState event db).submissions = db.submissions := by
  unfold applyReactionState
  dsimp only
  split
  · rw [submissions_set, submissions_settleEnded]
    split
    · exact submissions_set ..
    · rfl
  · rw [submissions_settleEnded]
    split
    · exact submissions_set ..
    · rfl

@[simp] theorem journal_applyReactionState (db : Db) :
    (applyReactionState event db).journal = db.journal := by
  unfold applyReactionState
  dsimp only
  split
  · rw [journal_set, journal_settleEnded]
    split
    · exact journal_set ..
    · rfl
  · rw [journal_settleEnded]
    split
    · exact journal_set ..
    · rfl

@[simp] theorem submissions_applyDomainState (db : Db) :
    (applyDomainState event db).submissions = db.submissions := by
  unfold applyDomainState restoreShutdownReactions
  split
  · split <;> rfl
  · rfl

@[simp] theorem journal_applyDomainState (db : Db) :
    (applyDomainState event db).journal = db.journal := by
  unfold applyDomainState restoreShutdownReactions
  split
  · split <;> rfl
  · rfl

theorem submissions_persistEvent (db : Db) :
    (persistEvent resumesInBatch event db).submissions = db.submissions := by
  unfold persistEvent
  dsimp only
  split
  · rfl
  · rw [submissions_compensateAll, submissions_applyReactionState, submissions_applyDomainState]
    rfl

theorem journal_persistEvent (db : Db) :
    (persistEvent resumesInBatch event db).journal = (insertJournal event db).journal := by
  unfold persistEvent
  dsimp only
  split
  · rfl
  · rw [journal_compensateAll, journal_applyReactionState, journal_applyDomainState]

end

/-! ## Rows that come back -/

/-- The four columns are those before. -/
structure SameReaction (row after : Reaction) : Prop where
  desiredState : after.desiredState = row.desiredState
  resumeState : after.resumeState = row.resumeState
  terminal : after.terminal = row.terminal
  lastError : after.lastError = row.lastError

/-- The row as the shutdown leaves it when it fails the reaction. -/
structure Marked (shutdown : Event) (row after : Reaction) : Prop where
  sdkSessionId : after.sdkSessionId = row.sdkSessionId
  desiredState : after.desiredState = .failed
  resumeState : after.resumeState = some (encodeShutdownReactionState shutdown row)
  terminal : after.terminal = true

/-- No event settles the reaction for the state of its submission. -/
def Steady (db : Db) (row : Reaction) : Prop :=
  row.terminal = true ∨ ∀ submission ∈ db.submissions,
    submission.submissionId = row.submissionId → submission.state ∉ endedStates

/-- The reaction failed for its content, its submission has ended, and an intent of one of the
events supersedes the card that said so. -/
def Superseded (db : Db) (row : Reaction) (superseded : List String) : Prop :=
  isContentUnavailable row.resumeState = true ∧ row.desiredState = .failed ∧ row.terminal = true ∧
    row.submissionId ∈ superseded ∧
    ∃ submission, db.submission row.submissionId = some submission ∧ submission.state ∈ endedStates

theorem Steady.not_settled (steady : Steady db row) (event : Event)
    (found : db.reaction id = some row) :
    ∀ submission ∈ terminalRows event db, submission.submissionId ≠ id := by
  rintro submission member rfl
  obtain ⟨listed, selected⟩ := List.mem_filter.mp member
  obtain ⟨ended, joined⟩ := of_decide_eq_true selected
  rw [found] at joined
  simp only [Option.any_some, decide_eq_true_eq, Bool.not_eq_true'] at joined
  rcases steady with final | live
  · rw [joined.2] at final
    cases final
  · exact live submission listed (lookup_some_key found).symm ended

theorem next_of_shutdown (marks : event.marks = true)
    (proper : row.terminal = true ∨ row.desiredState ≠ .failed)
    (submissionState : SubmissionState) :
    nextReaction event submissionState .failed row = row ∨
      Marked event row (nextReaction event submissionState .failed row) := by
  unfold nextReaction
  dsimp only
  by_cases failed : row.desiredState = .failed
  · rw [if_pos failed, if_pos ⟨rfl, marks⟩]
    refine .inr ⟨rfl, failed, rfl, ?_⟩
    exact proper.resolve_right (fun other => other failed)
  · rw [if_neg failed]
    split
    · exact .inl rfl
    · exact .inr ⟨rfl, rfl, if_pos ⟨rfl, marks⟩, rfl⟩

theorem reaction_shutdown (marks : event.marks = true) (found : db.reaction id = some row)
    (steady : Steady db row) (proper : row.terminal = true ∨ row.desiredState ≠ .failed) :
    ∃ after, (applyReactionState event db).reaction id = some after ∧
      (after = row ∨ Marked event row after) := by
  have type : event.rawType = "session.shutdown" := (of_decide_eq_true marks).1
  have settled := reaction_settleEnded event found (steady.not_settled event found)
  unfold applyReactionState
  rw [type, if_neg (by decide)]
  dsimp only
  cases reactingSubmission event (settleEnded event (terminalRows event db) db) with
  | none => exact ⟨row, settled, .inl rfl⟩
  | some submissionId =>
    rcases reaction_set event submissionId .failed settled with
      same | ⟨_, submission, _, changed⟩
    · exact ⟨row, same, .inl rfl⟩
    · exact ⟨_, changed, next_of_shutdown marks proper submission.state⟩

theorem reaction_resume (type : event.rawType = "session.resume")
    (found : db.reaction id = some row)
    (steady : Steady db row) : (applyReactionState event db).reaction id = some row := by
  unfold applyReactionState
  rw [type, if_neg (by decide)]
  exact reaction_settleEnded event found (steady.not_settled event found)

theorem reaction_compensate (found : db.reaction id = some row)
    (kept : ¬ Superseded db row [submissionId]) :
    (compensateReaction event db submissionId).reaction id = some row := by
  unfold compensateReaction
  cases existing : db.submission submissionId with
  | none => exact found
  | some submission =>
    by_cases ended : submission.state ∈ endedStates
    · simp only [if_pos ended]
      rw [reaction_update _ (by intro row; rfl) found, if_neg]
      intro selected
      obtain ⟨own, _, failed, final, content⟩ := of_decide_eq_true selected
      refine kept ⟨content, failed, final, List.mem_singleton.mpr own, submission, ?_, ended⟩
      rw [own]
      exact existing
    · simp only [if_neg ended]
      exact found

variable {ids : List String}

theorem reaction_compensateAll (found : db.reaction id = some row)
    (kept : ¬ Superseded db row ids) :
    (ids.foldl (compensateReaction event) db).reaction id = some row := by
  induction ids generalizing db with
  | nil => exact found
  | cons first ids ih =>
    refine ih (reaction_compensate found ?_) ?_
    · rintro ⟨content, failed, final, own, ended⟩
      refine kept ⟨content, failed, final, ?_, ended⟩
      exact List.mem_cons.mpr (.inl (List.mem_singleton.mp own))
    · rintro ⟨content, failed, final, own, ended⟩
      refine kept ⟨content, failed, final, List.mem_cons_of_mem _ own, ?_⟩
      unfold Db.submission at ended ⊢
      rwa [submissions_compensate] at ended

variable {after : Reaction}

theorem Marked.not_superseded (marked : Marked shutdown row after) :
    ¬ Superseded db after ids := by
  rintro ⟨content, _⟩
  rw [marked.resumeState] at content
  cases content

theorem restoredReaction_key (event : Event) (row : Reaction) :
    (restoredReaction event row).submissionId = row.submissionId ∧
      (restoredReaction event row).sdkSessionId = row.sdkSessionId := by
  unfold restoredReaction
  split
  · exact ⟨rfl, rfl⟩
  · exact ⟨rfl, rfl⟩

/-! ## The two events -/

/-- A shutdown and the resume that names it as its parent. -/
structure Linked (shutdown resume : Event) : Prop where
  shutdownType : shutdown.rawType = "session.shutdown"
  resumeType : resume.rawType = "session.resume"
  named : shutdown.eventId.isSome
  parent : resume.parentId = shutdown.eventId
  session : resume.sdkSessionId = shutdown.sdkSessionId
  generation : resume.generation = shutdown.generation

/-- The reaction of a row that the pair of events leaves as it was. -/
structure Restorable (shutdown resume : Event) (db : Db) (row : Reaction) : Prop where
  steady : Steady db row
  proper : row.terminal = true ∨ row.desiredState ≠ .failed
  /-- The shutdown is new. -/
  unmarked : markedByParent resume row = false
  kept : ¬ Superseded db row (shutdown.superseded ++ resume.superseded)

theorem Superseded.congr {after : Db} (same : after.submissions = db.submissions) :
    Superseded after row ids ↔ Superseded db row ids := by
  unfold Superseded Db.submission
  rw [same]

theorem persist_shutdown (resumesInBatch : List (String × Int × Option String))
    (linked : Linked shutdown resume) (found : db.reaction id = some row)
    (restorable : Restorable shutdown resume db row) :
    ∃ after, (persistEvent resumesInBatch shutdown db).reaction id = some after ∧
      (after = row ∨ Marked shutdown row after) := by
  have marks : shutdown.marks = true := decide_eq_true ⟨linked.shutdownType, linked.named⟩
  unfold persistEvent
  dsimp only
  split
  · exact ⟨row, found, .inl rfl⟩
  · have domain :
      applyDomainState shutdown (insertJournal shutdown db) = insertJournal shutdown db := by
      unfold applyDomainState
      rw [if_neg]
      intro resumes
      rw [linked.shutdownType] at resumes
      exact absurd resumes.1 (by decide)
    rw [domain]
    have journaled : (insertJournal shutdown db).reaction id = some row := found
    have steady : Steady (insertJournal shutdown db) row := restorable.steady
    obtain ⟨after, applied, shape⟩ := reaction_shutdown marks journaled steady restorable.proper
    refine ⟨after, reaction_compensateAll applied ?_, shape⟩
    rcases shape with rfl | marked
    · rw [Superseded.congr (submissions_applyReactionState shutdown (insertJournal shutdown db))]
      rintro ⟨content, failed, final, own, ended⟩
      exact restorable.kept ⟨content, failed, final, List.mem_append_left _ own, ended⟩
    · exact marked.not_superseded

theorem restored_of_marked (linked : Linked shutdown resume) (marked : Marked shutdown row after) :
    markedByParent resume after = true ∧ SameReaction row (restoredReaction resume after) := by
  unfold markedByParent restoredReaction
  rw [marked.resumeState]
  exact ⟨decide_eq_true ⟨linked.parent.symm, linked.generation.symm⟩, rfl, rfl, rfl, rfl⟩

theorem restore_of_marked (linked : Linked shutdown resume)
    (own : row.sdkSessionId = shutdown.sdkSessionId)
    (journaled : (⟨shutdown.sdkSessionId, shutdown.generation, shutdown.eventId, shutdown.parentId,
      shutdown.rawType⟩ : JournalRow) ∈ db.journal) (found : db.reaction id = some after)
    (unmarked : markedByParent resume row = false)
    (shape : after = row ∨ Marked shutdown row after) :
    ∃ back, (applyDomainState resume db).reaction id = some back ∧ SameReaction row back ∧
      back.submissionId = after.submissionId := by
  have resumes : resume.rawType = "session.resume" ∧ resume.parentId.isSome = true ∧
      (db.journal.any fun row => row.sdkSessionId = resume.sdkSessionId ∧
        row.generation = resume.generation ∧ row.eventId = resume.parentId ∧
        row.rawType = "session.shutdown") = true := by
    refine ⟨linked.resumeType, ?_, List.any_eq_true.mpr ⟨_, journaled, ?_⟩⟩
    · rw [linked.parent]
      exact linked.named
    · exact decide_eq_true ⟨linked.session.symm, linked.generation.symm, linked.parent.symm,
        linked.shutdownType⟩
  unfold applyDomainState
  rw [if_pos resumes]
  unfold restoreShutdownReactions
  rw [if_neg
    (by rw [Option.isNone_iff_eq_none, ← ne_eq, Option.ne_none_iff_isSome]; exact resumes.2.1)]
  have key := fun row => (restoredReaction_key resume row).1
  refine ⟨_, reaction_update _ key found, ?_⟩
  rcases shape with rfl | marked
  · rw [if_neg (by simp [unmarked])]
    exact ⟨⟨rfl, rfl, rfl, rfl⟩, rfl⟩
  · obtain ⟨named, same⟩ := restored_of_marked linked marked
    rw [if_pos (decide_eq_true ⟨(marked.sdkSessionId.trans own).trans linked.session.symm,
      marked.desiredState, marked.terminal, named⟩)]
    exact ⟨same, key after⟩

variable {back : Reaction}

theorem SameReaction.steady (same : SameReaction row back)
    (key : back.submissionId = row.submissionId) (steady : Steady db row) : Steady db back := by
  unfold Steady
  rw [same.terminal, key]
  exact steady

theorem SameReaction.superseded (same : SameReaction row back)
    (key : back.submissionId = row.submissionId) :
    Superseded db back ids ↔ Superseded db row ids := by
  unfold Superseded
  rw [same.resumeState, same.desiredState, same.terminal, key]

theorem persist_resume (resumesInBatch : List (String × Int × Option String))
    (linked : Linked shutdown resume) (own : row.sdkSessionId = shutdown.sdkSessionId)
    (journaled : (⟨shutdown.sdkSessionId, shutdown.generation, shutdown.eventId, shutdown.parentId,
      shutdown.rawType⟩ : JournalRow) ∈ db.journal) (found : db.reaction id = some after)
    (named : row.submissionId = id) (restorable : Restorable shutdown resume db row)
    (shape : after = row ∨ Marked shutdown row after) :
    ∃ back, (persistEvent resumesInBatch resume db).reaction id = some back ∧
      SameReaction row back := by
  have notSuperseded :
    isSupersededShutdown resumesInBatch resume (insertJournal resume db) = false := by
    unfold isSupersededShutdown
    rw [linked.resumeType]
    rfl
  unfold persistEvent
  simp only [notSuperseded, Bool.false_eq_true, if_false]
  have still : (insertJournal resume db).reaction id = some after := found
  obtain ⟨back, restored, same, key⟩ := restore_of_marked linked own
    (List.mem_append_left _ journaled) still restorable.unmarked shape
  have keyed : back.submissionId = row.submissionId := by
    rw [key, named]
    exact lookup_some_key found
  have steady : Steady (applyDomainState resume (insertJournal resume db)) back := by
    refine same.steady keyed ?_
    unfold Steady
    rw [submissions_applyDomainState]
    exact restorable.steady
  refine ⟨back, reaction_compensateAll (reaction_resume linked.resumeType restored steady) ?_, same⟩
  have submissions : (applyReactionState resume
      (applyDomainState resume (insertJournal resume db))).submissions = db.submissions := by
    rw [submissions_applyReactionState, submissions_applyDomainState]
    rfl
  rw [same.superseded keyed, Superseded.congr submissions]
  rintro ⟨content, failed, final, own, ended⟩
  exact restorable.kept ⟨content, failed, final, List.mem_append_right _ own, ended⟩

/-! ## Rows of other sessions -/

/-- A row is of the session of its submission. -/
def Owned (db : Db) : Prop :=
  ∀ id row submission, db.reaction id = some row → db.submission id = some submission →
    submission.sdkSessionId = row.sdkSessionId

theorem owned_update {hit : Reaction → Bool} (owned : Owned db)
    (key : ∀ row, (set row).submissionId = row.submissionId)
    (session : ∀ row, (set row).sdkSessionId = row.sdkSessionId) :
    Owned { db with reactions := updateWhere hit set db.reactions } := by
  intro id after submission found existing
  unfold Db.reaction at found
  rw [lookup_updateWhere key] at found
  obtain ⟨row, before, rfl⟩ := Option.map_eq_some_iff.mp found
  have same := owned id row submission before existing
  split
  · rw [session]
    exact same
  · exact same

theorem owned_set (owned : Owned db) (event : Event) (submissionId : String)
    (state : ReactionState) :
    Owned (setSubmissionReaction event submissionId state db) := by
  unfold setSubmissionReaction
  cases sourced : sourcedSubmission event submissionId db with
  | none => exact owned
  | some submission =>
    cases existing : db.reaction submissionId with
    | some old => exact owned_update owned (submissionId_next _ _ _) (sdkSessionId_next _ _ _)
    | none =>
      intro id after other found present
      unfold Db.reaction at found
      rw [lookup_append, Option.or_eq_some_iff] at found
      rcases found with before | ⟨_, inserted⟩
      · exact owned id after other before present
      · have new := List.mem_singleton.mp (lookup_some_mem inserted)
        have key := lookup_some_key inserted
        subst new
        obtain ⟨known, selected⟩ := Option.filter_eq_some_iff.mp sourced
        change submissionId = id at key
        subst key
        cases known.symm.trans present
        exact (of_decide_eq_true selected).1

theorem owned_settleEnded (owned : Owned db) (event : Event) (rows : List Submission) :
    Owned (settleEnded event rows db) := by
  unfold settleEnded
  induction rows generalizing db with
  | nil => exact owned
  | cons submission rows ih => exact ih (owned_set owned _ _ _)

theorem owned_applyReactionState (owned : Owned db) (event : Event) :
    Owned (applyReactionState event db) := by
  have queued : Owned (if event.rawType = "copilotd.submission.queued" then
      setSubmissionReaction event event.submissionId .accepted db else db) := by
    split
    · exact owned_set owned _ _ _
    · exact owned
  unfold applyReactionState
  dsimp only
  split
  · exact owned_set (owned_settleEnded queued _ _) _ _ _
  · exact owned_settleEnded queued _ _

theorem owned_applyDomainState (owned : Owned db) (event : Event) :
    Owned (applyDomainState event db) := by
  unfold applyDomainState restoreShutdownReactions
  split
  · split
    · exact owned
    · exact owned_update owned (fun row => (restoredReaction_key event row).1)
        fun row => (restoredReaction_key event row).2
  · exact owned

theorem owned_compensateAll (owned : Owned db) (event : Event) (ids : List String) :
    Owned (ids.foldl (compensateReaction event) db) := by
  induction ids generalizing db with
  | nil => exact owned
  | cons first ids ih =>
    refine ih ?_
    unfold compensateReaction
    split
    · exact owned
    · split
      · exact owned_update owned (fun _ => rfl) fun _ => rfl
      · exact owned

theorem owned_persistEvent (owned : Owned db) (event : Event) :
    Owned (persistEvent resumesInBatch event db) := by
  unfold persistEvent
  dsimp only
  split
  · exact owned
  · have journaled : Owned (insertJournal event db) := owned
    exact owned_compensateAll
      (owned_applyReactionState (owned_applyDomainState journaled event) _) _ _

theorem reaction_set_foreign (found : db.reaction id = some row)
    (foreign : ∀ submission, db.submission id = some submission →
      submission.sdkSessionId ≠ event.sdkSessionId) :
    (setSubmissionReaction event submissionId state db).reaction id = some row := by
  rcases reaction_set event submissionId state found with
    same | ⟨rfl, submission, sourced, _⟩
  · exact same
  · obtain ⟨existing, selected⟩ := Option.filter_eq_some_iff.mp sourced
    exact absurd (of_decide_eq_true selected).1 (foreign submission existing)

theorem applyReactionState_other (owned : Owned db) (found : db.reaction id = some row)
    (other : row.sdkSessionId ≠ event.sdkSessionId) :
    (applyReactionState event db).reaction id = some row := by
  have foreign : ∀ submission, db.submission id = some submission →
      submission.sdkSessionId ≠ event.sdkSessionId := by
    intro submission existing
    rw [owned id row submission found existing]
    exact other
  have queued : (if event.rawType = "copilotd.submission.queued" then
      setSubmissionReaction event event.submissionId .accepted db else db).reaction id =
        some row := by
    split
    · exact reaction_set_foreign found foreign
    · exact found
  have submissions : (if event.rawType = "copilotd.submission.queued" then
      setSubmissionReaction event event.submissionId .accepted db else db).submissions =
        db.submissions := by
    split
    · exact submissions_set ..
    · rfl
  unfold applyReactionState
  dsimp only
  generalize (if event.rawType = "copilotd.submission.queued" then
    setSubmissionReaction event event.submissionId .accepted db else db) =
      next at queued submissions ⊢
  have settled : (settleEnded event (terminalRows event next) next).reaction id = some row := by
    refine reaction_settleEnded event queued ?_
    rintro submission member rfl
    have joined := (of_decide_eq_true (List.mem_filter.mp member).2).2
    rw [queued] at joined
    simp only [Option.any_some, decide_eq_true_eq] at joined
    exact other joined.1
  split
  · refine reaction_set_foreign settled ?_
    unfold Db.submission
    rw [submissions_settleEnded, submissions]
    exact foreign
  · exact settled

theorem reaction_compensateAll_other (found : db.reaction id = some row)
    (other : row.sdkSessionId ≠ event.sdkSessionId) :
    (ids.foldl (compensateReaction event) db).reaction id = some row := by
  induction ids generalizing db with
  | nil => exact found
  | cons first ids ih =>
    refine ih ?_
    unfold compensateReaction
    split
    · exact found
    · split
      · rw [reaction_update _ (by intro row; rfl) found, if_neg (by simp [other])]
      · exact found

theorem applyDomainState_other (found : db.reaction id = some row)
    (other : row.sdkSessionId ≠ event.sdkSessionId) :
    (applyDomainState event db).reaction id = some row := by
  have key := fun row => (restoredReaction_key event row).1
  unfold applyDomainState restoreShutdownReactions
  split
  · split
    · exact found
    · rw [reaction_update _ key found, if_neg (by simp [other])]
  · exact found

theorem persist_other (owned : Owned db) (found : db.reaction id = some row)
    (other : row.sdkSessionId ≠ event.sdkSessionId) :
    (persistEvent resumesInBatch event db).reaction id = some row := by
  unfold persistEvent
  dsimp only
  split
  · exact found
  · have still : (insertJournal event db).reaction id = some row := found
    have domain := applyDomainState_other still other
    have journaled : Owned (insertJournal event db) := owned
    have ownedDomain := owned_applyDomainState journaled event
    exact reaction_compensateAll_other (applyReactionState_other ownedDomain domain other) other

/-! ## The pair -/

/-- A shutdown and its resume restore every restorable row of their session and leave the rows of
the others. -/
theorem shutdown_resume_restores (earlier later : List (String × Int × Option String))
    (linked : Linked shutdown resume) (owned : Owned db) (found : db.reaction id = some row) :
    if row.sdkSessionId = shutdown.sdkSessionId then
      Restorable shutdown resume db row → ∃ back,
        (persistEvent later resume (persistEvent earlier shutdown db)).reaction id = some back ∧
          SameReaction row back
    else (persistEvent later resume (persistEvent earlier shutdown db)).reaction id = some row := by
  split
  · next own =>
    intro restorable
    obtain ⟨after, failed, shape⟩ := persist_shutdown earlier linked found restorable
    refine persist_resume later linked own ?_ failed (lookup_some_key found) ?_ shape
    · rw [journal_persistEvent]
      exact List.mem_concat_self
    · refine ⟨?_, restorable.proper, restorable.unmarked, ?_⟩
      · unfold Steady
        rw [submissions_persistEvent]
        exact restorable.steady
      · rw [Superseded.congr (submissions_persistEvent shutdown db)]
        exact restorable.kept
  · next other =>
    refine persist_other (owned_persistEvent owned shutdown) (persist_other owned found other) ?_
    rw [linked.session]
    exact other

/-! ## One reaction -/

section Examples

def shutdownEvent : Event :=
  { sdkSessionId := "s"
    generation := 1
    fenceToken := 1
    rawType := "session.shutdown"
    eventId := some "e" }

def resumeEvent : Event :=
  { sdkSessionId := "s"
    generation := 1
    fenceToken := 1
    rawType := "session.resume"
    eventId := some "r"
    parentId := some "e" }

def reasoning : Reaction :=
  { submissionId := "a"
    sdkSessionId := "s"
    desiredState := .reasoning
    runtimeGeneration := 1
    ownerFenceToken := 1
    lastError := some "forbidden" }

def reacting (state : SubmissionState) : Db where
  submissions :=
    [{ submissionId := "a"
       sdkSessionId := "s"
       discordSourceChannelId := some "c"
       discordSourceMessageId := some "m"
       state }]
  reactions := [reasoning]

/-- The submission is at work: the shutdown fails its reaction, and the resume restores it. -/
theorem shutdown_resume_restores_active : ∃ back,
    (persistEvent [] resumeEvent
      (persistEvent [] shutdownEvent (reacting .observedActive))).reaction "a" =
      some back ∧ SameReaction reasoning back := by
  have owned : Owned (reacting .observedActive) := by
    intro id row submission found existing
    have mine := List.mem_singleton.mp (lookup_some_mem found)
    have its := List.mem_singleton.mp (lookup_some_mem existing)
    rw [mine, its]
    rfl
  have linked : Linked shutdownEvent resumeEvent := ⟨rfl, rfl, rfl, rfl, rfl, rfl⟩
  have found : (reacting .observedActive).reaction "a" = some reasoning := rfl
  have restored := shutdown_resume_restores [] [] linked owned found
  have own : reasoning.sdkSessionId = shutdownEvent.sdkSessionId := rfl
  rw [if_pos own] at restored
  refine restored ⟨.inr ?_, .inr (by decide), rfl, ?_⟩
  · intro submission member _
    rw [List.mem_singleton.mp member]
    decide
  · rintro ⟨content, _⟩
    cases content

/-- The submission has ended before the shutdown: its reaction ends with it. -/
theorem shutdown_resume_settles_ended :
    ((persistEvent [] resumeEvent
      (persistEvent [] shutdownEvent (reacting .outcomeUnknown))).reaction
      "a").map (fun row => (row.desiredState, row.terminal, row.lastError)) =
        some (.failed, true, none) ∧
    ¬ ∃ back, (persistEvent [] resumeEvent
        (persistEvent [] shutdownEvent (reacting .outcomeUnknown))).reaction "a" = some back ∧
      SameReaction reasoning back := by
  have final : ((persistEvent [] resumeEvent
      (persistEvent [] shutdownEvent (reacting .outcomeUnknown))).reaction "a").map
        (fun row => (row.desiredState, row.terminal, row.lastError)) =
          some (.failed, true, none) := by
    decide
  refine ⟨final, ?_⟩
  rintro ⟨back, found, same⟩
  rw [found, Option.map_some, same.desiredState] at final
  cases final

end Examples

end Copilotd.Guarantees.ShutdownReactions
