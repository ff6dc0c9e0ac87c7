import Copilotd.Source.Core.StartupRecovery

/-!
# A second startup recovery

At the same time and on the same owner leases, a second run finds nothing more to
settle, with two exceptions.  A submission that the first run has left
`submitted_unknown` is named by the same statement again and becomes `outcome_unknown`.
And the first run deletes the contents of what it gives up, so that a row which shares
such a key has lost its content by the second run; that no two rows share one is a
condition here.
-/
namespace Copilotd.Guarantees.RecoveryRepeated

open Base Base.Table Source.Core.Bindings Source.Core.StartupRecovery

/-- The submissions of the sessions that are left as submitted come out unknown. -/
def escalate (expired : List String) (db : Db) : Db :=
  { db with
    submissions :=
      updateWhere (fun row => row.sdkSessionId ∈ expired ∧ row.state = .submittedUnknown)
        (fun row => { row with state := .outcomeUnknown }) db.submissions }

section
variable (opaqueContentKey : String → String → String → String)

/-- No content that the run deletes is the content of a row that goes on waiting. -/
structure Apart (db : Db) (contents : Contents) : Prop where
  items : ∀ item ∈ db.queue, item.waits = true →
    item.id ∉ db.unavailableSubmissions contents →
    ∀ key, item.promptContentKey = some key →
      key ∉ db.deletedKeys opaqueContentKey (db.unavailableSubmissions contents)
        (db.unavailableInteractions contents)
  interactions : ∀ row ∈ db.interactions, row.state = .pending →
    row.interactionId ∉ db.unavailableInteractions contents →
    ∀ key, row.contentKey = some key →
      key ∉ db.deletedKeys opaqueContentKey (db.unavailableSubmissions contents)
        (db.unavailableInteractions contents)

end

/-- The statements find nothing to settle, except submissions left as submitted. -/
structure Settled (db : Db) (now : ℚ) : Prop where
  requests : ∀ row ∈ db.requests, row.responseState ∉ [.pending, .responding]
  operations : ∀ effect ∈ db.operations,
    ¬(effect.state ∈ [.pending, .started] ∧ (!db.owned now effect) = true)
  attempts : ∀ effect ∈ db.attempts,
    ¬(effect.state ∈ [.started] ∧ (!db.owned now effect) = true)
  reloads : ∀ effect ∈ db.reloads,
    ¬(effect.state ∈ [.claimed, .started] ∧ (!db.owned now effect) = true)
  terminals : ∀ row ∈ db.bindings,
    ¬(row.binding.bindingIntent = .active ∧ row.binding.attachmentState = .terminal)
  submissions : ∀ row ∈ db.submissions, row.sdkSessionId ∈ db.expired now →
    row.state ∈ activeStates → row.state = .submittedUnknown ∧ row.terminalAt ≠ none
  interactions :
    ∀ row ∈ db.interactions, ¬(row.sdkSessionId ∈ db.expired now ∧ row.state = .pending)
  liveness : ∀ row ∈ db.liveness, ¬(row.sdkSessionId ∈ db.expired now ∧ row.state = .active)
  runtimeSchedules : ∀ row ∈ db.runtimeSchedules,
    ¬(row.sdkSessionId ∈ db.expired now ∧ row.state = .active)
  bindings : ∀ row ∈ db.bindings, ¬(row.sdkSessionId ∈ db.expired now ∧
    row.binding.attachmentState ∈ [.creating, .resuming, .attached, .disconnecting, .terminal])
  intents : ∀ row ∈ db.intents, db.lostCreation now row = false
  targets : ∀ run ∈ db.runs, db.lostTarget now run = false
  dispatches : ∀ run ∈ db.runs, db.lostDispatch now run = false
  claims : ∀ run ∈ db.runs, run.lostClaim now = false
  outcomes : ∀ run ∈ db.runs, db.lostOutcome run = false

/-! ## A run on settled rows -/

section
variable {db : Db} {now : ℚ}

theorem loseContent_nil (db : Db) (now : ℚ) : db.loseContent now [] [] = db := by
  unfold Db.loseContent
  rw [updateWhere_of_misses, updateWhere_of_misses, updateWhere_of_misses, updateWhere_of_misses,
    updateWhere_of_misses] <;> intro row _ <;> simp

/-- Acceptance and observation do not depend on the state of a submission. -/
theorem escalate_lostDispatch (expired : List String) (run : ScheduleRun) :
    (escalate expired db).lostDispatch now run = db.lostDispatch now run := by
  have same : ∀ ask : Submission → Bool,
      (∀ row : Submission, ask { row with state := .outcomeUnknown } = ask row) →
      (escalate expired db).submissions.any ask = db.submissions.any ask := by
    intro ask blind
    simp only [escalate, updateWhere, List.any_map]
    congr 1
    funext row
    rw [Function.comp_apply]
    split
    · exact blind row
    · rfl
  unfold Db.lostDispatch
  rw [same]
  intro row
  rfl

theorem escalate_lostOutcome (expired : List String) (run : ScheduleRun) :
    (escalate expired db).lostOutcome run = db.lostOutcome run := by
  unfold Db.lostOutcome
  simp only [escalate, updateWhere, List.any_map]
  congr 2
  funext row
  rw [Function.comp_apply]
  split
  next left =>
    have state : row.state = .submittedUnknown := (of_decide_eq_true left).2
    rw [state]
    rfl
  · rfl

theorem Settled.escalates (settled : Settled db now) :
    db.loseSubmissions now (db.expired now) = escalate (db.expired now) db := by
  unfold Db.loseSubmissions escalate updateWhere
  congr 1
  refine List.map_congr_left ?_
  intro row member
  by_cases expired : row.sdkSessionId ∈ db.expired now
  · by_cases active : row.state ∈ activeStates
    · obtain ⟨state, terminal⟩ := settled.submissions row member expired active
      obtain ⟨at_, found⟩ := Option.ne_none_iff_exists'.mp terminal
      rw [if_pos (by simp [expired, active]), if_pos (by simp [expired, state])]
      simp [Submission.loseOwner, lostState, state, found]
    · have other : row.state ≠ .submittedUnknown := by
        intro same
        rw [same] at active
        exact active (by decide)
      rw [if_neg (by simp [active]), if_neg (by simp [other])]
  · rw [if_neg (by simp [expired]), if_neg (by simp [expired])]

theorem Settled.recover (settled : Settled db now) :
    db.recover now [] [] = escalate (db.expired now) db := by
  have closes : db.closeResponses now = db := by
    unfold Db.closeResponses
    rw [updateWhere_of_misses]
    intro row member
    exact decide_eq_false (settled.requests row member)
  have terminals : db.recoverTerminals now = db := by
    unfold Db.recoverTerminals
    rw [updateWhere_of_misses]
    intro row member
    exact decide_eq_false (settled.terminals row member)
  have operations : db.loseOperations now = db := by
    unfold Db.loseOperations Db.loseEffects
    rw [updateWhere_of_misses]
    intro effect member
    exact decide_eq_false (settled.operations effect member)
  have attempts : db.loseAttempts now = db := by
    unfold Db.loseAttempts Db.loseEffects
    rw [updateWhere_of_misses]
    intro effect member
    exact decide_eq_false (settled.attempts effect member)
  have reloads : db.loseReloads now = db := by
    unfold Db.loseReloads Db.loseEffects
    rw [updateWhere_of_misses]
    intro effect member
    exact decide_eq_false (settled.reloads effect member)
  have responses : db.loseResponses now = db := by
    unfold Db.loseResponses
    rw [updateWhere_of_misses]
    intro row member
    refine decide_eq_false ?_
    rintro ⟨responding, _⟩
    refine settled.requests row member ?_
    rw [responding]
    decide
  have sessions : (escalate (db.expired now) db).loseSessions now (db.expired now) =
      escalate (db.expired now) db := by
    unfold Db.loseSessions
    rw [updateWhere_of_misses, updateWhere_of_misses, updateWhere_of_misses, updateWhere_of_misses]
    · exact fun row member => decide_eq_false (settled.runtimeSchedules row member)
    · exact fun row member => decide_eq_false (settled.bindings row member)
    · exact fun row member => decide_eq_false (settled.liveness row member)
    · exact fun row member => decide_eq_false (settled.interactions row member)
  have creations : (escalate (db.expired now) db).loseCreations now =
      escalate (db.expired now) db := by
    unfold Db.loseCreations
    rw [updateWhere_of_misses]
    exact settled.intents
  have targets : (escalate (db.expired now) db).resumeTargets now =
      escalate (db.expired now) db := by
    unfold Db.resumeTargets
    rw [updateWhere_of_misses]
    exact settled.targets
  have dispatches : (escalate (db.expired now) db).loseDispatches now =
      escalate (db.expired now) db := by
    unfold Db.loseDispatches
    rw [updateWhere_of_misses]
    intro run member
    rw [escalate_lostDispatch]
    exact settled.dispatches run member
  have claims : (escalate (db.expired now) db).retryClaims now =
      escalate (db.expired now) db := by
    unfold Db.retryClaims
    rw [updateWhere_of_misses]
    exact settled.claims
  have outcomes : (escalate (db.expired now) db).loseOutcomes now =
      escalate (db.expired now) db := by
    unfold Db.loseOutcomes
    rw [updateWhere_of_misses]
    intro run member
    rw [escalate_lostOutcome]
    exact settled.outcomes run member
  unfold Db.recover
  simp only [loseContent_nil, closes, terminals, operations, attempts, reloads, responses,
    settled.escalates, sessions, creations, targets, dispatches, claims, outcomes]

end

/-! ## The rows after a run -/

section
variable {db : Db} {now : ℚ} {submissions interactions : List String}

/-- Up to the statements on the schedule runs. -/
def upToRuns (db : Db) (now : ℚ) (submissions interactions : List String) : Db :=
  let expired := db.expired now
  let db := db.loseContent now submissions interactions
  let db := db.closeResponses now
  let db := db.recoverTerminals now
  let db := db.loseOperations now
  let db := db.loseAttempts now
  let db := db.loseReloads now
  let db := db.loseResponses now
  let db := db.loseSubmissions now expired
  let db := db.loseSessions now expired
  db.loseCreations now

/-- The statements on the schedule runs read tables that the run is done with. -/
def settleRuns (db : Db) (now : ℚ) (runs : List ScheduleRun) : List ScheduleRun :=
  updateWhere (fun run => db.lostOutcome run) (ScheduleRun.settle .outcomeUnknown now)
    (updateWhere (ScheduleRun.lostClaim now) (ScheduleRun.retry now)
      (updateWhere (fun run => db.lostDispatch now run) (ScheduleRun.settle .dispatchUnknown now)
        (updateWhere (fun run => db.lostTarget now run) (ScheduleRun.resumeTarget now) runs)))

theorem requests_closed (attempted : ProtocolRequest → Bool) (rows : List ProtocolRequest) :
    ∀ row ∈ updateWhere (fun row => row.responseState = .responding ∧ attempted row)
        (ProtocolRequest.settle .unknown now)
        (updateWhere (fun row => row.responseState ∈ [.pending, .responding])
          (ProtocolRequest.settle .contentUnavailable now) rows),
      row.responseState ∉ [.pending, .responding] := by
  refine forall_updateWhere ?_
  intro row member
  have closed : row.responseState ∉ [.pending, .responding] := by
    revert row
    refine forall_updateWhere ?_
    intro row _
    split
    · simp [ProtocolRequest.settle]
    next open_ => simpa using open_
  split
  · simp [ProtocolRequest.settle]
  · exact closed

theorem effects_settled {states : List EffectState} (unlisted : .unknown ∉ states)
    (effects : List FencedEffect) :
    ∀ effect ∈ db.loseEffects now states effects,
      ¬(effect.state ∈ states ∧ (!db.owned now effect) = true) := by
  refine forall_updateWhere ?_
  intro effect _
  split
  · rintro ⟨listed, _⟩
    exact unlisted listed
  next kept => exact of_decide_eq_false (Bool.eq_false_iff.mpr kept)

theorem submissions_lost (expired : List String) (rows : List Submission) :
    ∀ row ∈ updateWhere (fun row => row.sdkSessionId ∈ expired ∧ row.state ∈ activeStates)
        (Submission.loseOwner now) rows,
      row.sdkSessionId ∈ expired → row.state ∈ activeStates →
        row.state = .submittedUnknown ∧ row.terminalAt ≠ none := by
  refine forall_updateWhere ?_
  intro row _
  split
  · intro _ active
    refine ⟨?_, ?_⟩
    · simp only [Submission.loseOwner, lostState] at active ⊢
      split at active
      next submitted => rw [if_pos submitted]
      · exact absurd active (by decide)
    · cases found : row.terminalAt with
      | none => simp [Submission.loseOwner, found]
      | some at_ => simp [Submission.loseOwner, found]
  next kept =>
    intro expired active
    exact absurd (decide_eq_true ⟨expired, active⟩) kept

theorem missed_after {α : Type} {hit : α → Bool} {set : α → α}
    (leaves : ∀ row, hit (set row) = false)
    (rows : List α) : ∀ row ∈ updateWhere hit set rows, hit row = false := by
  refine forall_updateWhere ?_
  intro row _
  split
  · exact leaves row
  next kept => exact Bool.eq_false_iff.mpr kept

theorem bindings_recovered (expired : List String) (rows : List BindingRow) :
    ∀ row ∈ updateWhere
        (fun row => row.sdkSessionId ∈ expired ∧
          row.binding.attachmentState ∈
            [.creating, .resuming, .attached, .disconnecting, .terminal])
        (BindingRow.loseOwner now)
        (updateWhere
          (fun row =>
            row.binding.bindingIntent = .active ∧ row.binding.attachmentState = .terminal)
          (BindingRow.recoverTerminal now) rows),
      ¬(row.binding.bindingIntent = .active ∧ row.binding.attachmentState = .terminal) := by
  refine forall_updateWhere ?_
  intro row member
  split
  · rintro ⟨_, terminal⟩
    cases terminal
  · refine of_decide_eq_false (missed_after ?_ rows row member)
    intro row
    refine decide_eq_false ?_
    rintro ⟨_, terminal⟩
    cases terminal

/-! ### Schedule runs -/

variable {run : ScheduleRun}

theorem runs_unlisted (db : Db) (now : ℚ)
    (unlisted : run.status ∉ [.claimed, .dispatching, .submitting, .accepted, .waiting]) :
    db.lostTarget now run = false ∧ db.lostDispatch now run = false ∧
      run.lostClaim now = false ∧ db.lostOutcome run = false := by
  simp only [List.mem_cons, List.not_mem_nil, or_false, not_or] at unlisted
  obtain ⟨claimed, dispatching, submitting, accepted, waiting⟩ := unlisted
  simp [Db.lostTarget, Db.lostDispatch, ScheduleRun.lostClaim, Db.lostOutcome, claimed,
    dispatching, submitting, accepted, waiting]

theorem runs_settled (db : Db) (now : ℚ) (rows : List ScheduleRun) :
    ∀ run ∈ settleRuns db now rows,
      db.lostTarget now run = false ∧ db.lostDispatch now run = false ∧
        run.lostClaim now = false ∧ db.lostOutcome run = false := by
  refine forall_updateWhere ?_
  intro run member
  have claims : db.lostTarget now run = false ∧ db.lostDispatch now run = false ∧
      run.lostClaim now = false := by
    revert run
    refine forall_updateWhere ?_
    intro run member
    have dispatches : db.lostTarget now run = false ∧ db.lostDispatch now run = false := by
      revert run
      refine forall_updateWhere ?_
      intro run member
      have targets : db.lostTarget now run = false := by
        revert run
        refine forall_updateWhere ?_
        intro run _
        split
        · exact (runs_unlisted db now (by simp [ScheduleRun.resumeTarget])).1
        next kept => exact Bool.eq_false_iff.mpr kept
      split
      · have unlisted := (runs_unlisted db now (by simp [ScheduleRun.settle]) :
          _ ∧ _ ∧ (ScheduleRun.settle .dispatchUnknown now run).lostClaim now = false ∧ _)
        exact ⟨unlisted.1, unlisted.2.1⟩
      next kept => exact ⟨targets, Bool.eq_false_iff.mpr kept⟩
    split
    · have unlisted := (runs_unlisted db now (by simp [ScheduleRun.retry]) :
        _ ∧ _ ∧ (run.retry now).lostClaim now = false ∧ _)
      exact ⟨unlisted.1, unlisted.2.1, unlisted.2.2.1⟩
    next kept => exact ⟨dispatches.1, dispatches.2, Bool.eq_false_iff.mpr kept⟩
  split
  · exact runs_unlisted db now (by simp [ScheduleRun.settle])
  next kept => exact ⟨claims.1, claims.2.1, claims.2.2, Bool.eq_false_iff.mpr kept⟩

theorem run_image (Keeps : ScheduleRun → Prop)
    (target : ∀ run, Keeps run → db.lostTarget now run = true → Keeps (run.resumeTarget now))
    (dispatch : ∀ run, Keeps run → db.lostDispatch now run = true →
      Keeps (ScheduleRun.settle .dispatchUnknown now run))
    (claim : ∀ run, Keeps run → run.lostClaim now = true → Keeps (run.retry now))
    (outcome : ∀ run, Keeps run → db.lostOutcome run = true →
      Keeps (ScheduleRun.settle .outcomeUnknown now run))
    {rows : List ScheduleRun} (member : run ∈ rows) (keeps : Keeps run) :
    ∃ left ∈ settleRuns db now rows, Keeps left := by
  have one : ∀ (hit : ScheduleRun → Bool) (set : ScheduleRun → ScheduleRun),
      (∀ run, Keeps run → hit run = true → Keeps (set run)) → ∀ rows : List ScheduleRun,
      (∃ run ∈ rows, Keeps run) → ∃ run ∈ updateWhere hit set rows, Keeps run := by
    rintro hit set kept rows ⟨run, there, has⟩
    refine ⟨if hit run then set run else run, mem_updateWhere.mpr ⟨run, there, rfl⟩, ?_⟩
    split
    next taken => exact kept run has taken
    · exact has
  exact one _ _ outcome _
    (one _ _ claim _ (one _ _ dispatch _ (one _ _ target _ ⟨run, member, keeps⟩)))

theorem lease_kept {rows : List ScheduleRun} (member : run ∈ rows)
    {expires : ℚ} (lease : run.leaseExpiresAt = some expires) (live : now < expires) :
    ∃ left ∈ settleRuns db now rows, left.runId = run.runId ∧
      left.leaseExpiresAt = some expires := by
  have inForce : ∀ other : ScheduleRun, other.leaseExpiresAt = some expires →
      other.leaseOver now = false := by
    intro other same
    rw [ScheduleRun.leaseOver, same]
    exact decide_eq_false (not_le.mpr live)
  refine run_image (fun other => other.runId = run.runId ∧ other.leaseExpiresAt = some expires)
    ?_ ?_ ?_ ?_ member ⟨rfl, lease⟩
  · intro other keeps taken
    simp [Db.lostTarget, inForce other keeps.2] at taken
  · exact fun other keeps _ => keeps
  · intro other keeps taken
    simp [ScheduleRun.lostClaim, inForce other keeps.2] at taken
  · exact fun other keeps _ => keeps

theorem creation_kept {settled : Db} (owners : settled.owners = db.owners)
    (runs : ∃ tables : Db, settled.runs = settleRuns tables now db.runs)
    {intent : CreationIntent} (kept : db.lostCreation now intent = false) :
    settled.lostCreation now intent = false := by
  obtain ⟨tables, runs⟩ := runs
  simp only [Db.lostCreation, Bool.and_eq_false_iff, Bool.not_eq_false'] at kept ⊢
  rw [owners]
  rcases kept with (other | owned) | leased
  · exact .inl (.inl other)
  · exact .inl (.inr owned)
  · right
    obtain ⟨run, member, holds⟩ := List.any_eq_true.mp leased
    simp only [Bool.and_eq_true, decide_eq_true_eq, Option.any_eq_true] at holds
    obtain ⟨⟨ofSchedule, same⟩, expires, lease, live⟩ := holds
    have image : ∃ left ∈ settleRuns tables now db.runs, left.runId = run.runId ∧
        left.leaseExpiresAt = some expires := lease_kept member lease live
    obtain ⟨left, there, sameId, sameLease⟩ := image
    rw [runs]
    refine List.any_eq_true.mpr ⟨left, there, ?_⟩
    simp only [Bool.and_eq_true, decide_eq_true_eq, Option.any_eq_true]
    exact ⟨⟨ofSchedule, sameId.trans same⟩, expires, sameLease, live⟩

theorem recover_settled (db : Db) (now : ℚ) (submissions interactions : List String) :
    Settled (db.recover now submissions interactions) now where
  requests := requests_closed _ _
  operations := effects_settled (by decide) _
  attempts := effects_settled (by decide) _
  reloads := effects_settled (by decide) _
  terminals := bindings_recovered _ _
  submissions := submissions_lost _ _
  interactions := by
    intro row member
    refine of_decide_eq_false (missed_after ?_ _ row member)
    intro row
    exact decide_eq_false fun pending => by cases pending.2
  liveness := by
    intro row member
    refine of_decide_eq_false (missed_after ?_ _ row member)
    intro row
    exact decide_eq_false fun active => by cases active.2
  runtimeSchedules := by
    intro row member
    refine of_decide_eq_false (missed_after ?_ _ row member)
    intro row
    exact decide_eq_false fun active => by cases active.2
  bindings := by
    intro row member
    refine of_decide_eq_false (missed_after ?_ _ row member)
    intro row
    exact decide_eq_false fun held => by
      revert held
      simp [BindingRow.loseOwner]
  intents := by
    refine forall_updateWhere ?_
    intro intent _
    split
    · simp [CreationIntent.lose, Db.lostCreation]
    next kept =>
      have owners : (db.recover now submissions interactions).owners = db.owners := rfl
      exact creation_kept owners ⟨_, rfl⟩ (Bool.eq_false_iff.mpr kept)
  targets := fun run member => (runs_settled _ now _ run member).1
  dispatches := fun run member => (runs_settled _ now _ run member).2.1
  claims := fun run member => (runs_settled _ now _ run member).2.2.1
  outcomes := fun run member => (runs_settled _ now _ run member).2.2.2

end

/-! ## What is still available -/

section
variable {db : Db} {now : ℚ} {contents : Contents} {submissions interactions : List String}

theorem read_deleteAll {keys : List String} {key hash : Option String}
    (other : ∀ text, key = some text → text ∉ keys) :
    (contents.deleteAll keys).read key hash = contents.read key hash := by
  have found : ∀ text, text ∉ keys → Dict.get text (contents.deleteAll keys) =
      Dict.get text contents := by
    intro text kept
    unfold Contents.deleteAll Dict.get
    rw [List.find?_filter]
    congr 2
    funext entry
    by_cases same : entry.1 = text
    · simp [same, kept]
    · simp [same]
  unfold Contents.read
  cases present : key.filter (· ≠ "") with
  | none => rfl
  | some text =>
    obtain ⟨given, _⟩ := Option.filter_eq_some_iff.mp present
    simp only [Option.bind_eq_bind, Option.bind_some, found text (other text given)]

theorem deleteAll_nil (contents : Contents) : contents.deleteAll [] = contents := by
  simp [Contents.deleteAll]

theorem source_kept {item : QueueItem} (spared : item.id ∉ submissions)
    (recoverable : db.sourceRecoverable item = true) :
    (db.recover now submissions interactions).sourceRecoverable item = true := by
  obtain ⟨row, there, holds⟩ := List.any_eq_true.mp recoverable
  simp only [Bool.and_eq_true, decide_eq_true_eq] at holds
  obtain ⟨⟨⟨id, origin⟩, queued⟩, running⟩ := holds
  obtain ⟨run, member, runHolds⟩ := List.any_eq_true.mp running
  -- neither statement on the submissions hits a row that is still queued and spared
  have same : row ∈ (db.recover now submissions interactions).submissions := by
    refine mem_updateWhere.mpr ⟨row, mem_updateWhere.mpr ⟨row, there, ?_⟩, ?_⟩
    · rw [if_neg]
      simp [id, spared]
    · rw [if_neg]
      simp [queued, activeStates]
  -- a run that was never sent is at most claimed again
  have image : ∃ left ∈ settleRuns (upToRuns db now submissions interactions) now db.runs,
      (left.runId = run.runId ∧ left.scheduleId = run.scheduleId ∧
        left.status ∈ [.claimed, .submitting, .retryWait] ∧ left.sendStartedAt.isNone = true ∧
        left.acceptedMessageId.isNone = true) := by
    simp only [Bool.and_eq_true, decide_eq_true_eq] at runHolds
    refine run_image _ ?_ ?_ ?_ ?_ member
      ⟨rfl, rfl, runHolds.1.1.1.2, runHolds.1.1.2, runHolds.1.2⟩
    · rintro other ⟨sameRun, schedule, _, unsent, unaccepted⟩ _
      exact ⟨sameRun, schedule, by simp [ScheduleRun.resumeTarget], unsent, unaccepted⟩
    · rintro other ⟨_, _, _, unsent, _⟩ taken
      have sent : other.sendStartedAt.isSome = true := by
        simp only [Db.lostDispatch, Bool.and_eq_true] at taken
        exact taken.1.1.2
      rw [Option.isNone_iff_eq_none] at unsent
      rw [unsent] at sent
      cases sent
    · rintro other ⟨sameRun, schedule, _, unsent, unaccepted⟩ _
      exact ⟨sameRun, schedule, by simp [ScheduleRun.retry], unsent, unaccepted⟩
    · rintro other ⟨_, _, status, _, _⟩ taken
      simp only [Db.lostOutcome, Bool.and_eq_true, decide_eq_true_eq] at taken
      have waiting := taken.1
      simp only [List.mem_cons, List.not_mem_nil, or_false] at status waiting
      rcases waiting with same | same <;> rw [same] at status <;>
        rcases status with clash | clash | clash <;> cases clash
  obtain ⟨left, found, sameRun, schedule, status, unsent, unaccepted⟩ := image
  refine List.any_eq_true.mpr ⟨row, same, ?_⟩
  simp only [Bool.and_eq_true, decide_eq_true_eq]
  refine ⟨⟨⟨id, origin⟩, queued⟩, List.any_eq_true.mpr ⟨left, found, ?_⟩⟩
  simp only [Bool.and_eq_true, decide_eq_true_eq] at runHolds ⊢
  rw [sameRun, schedule]
  exact ⟨⟨⟨⟨runHolds.1.1.1.1, status⟩, unsent⟩, unaccepted⟩, runHolds.2⟩

end

section
variable {opaqueContentKey : String → String → String → String} {db : Db} {contents : Contents}

theorem submissions_available (now : ℚ) (apart : Apart opaqueContentKey db contents) :
    (run opaqueContentKey now (db, contents)).1.unavailableSubmissions
      (run opaqueContentKey now (db, contents)).2 = [] := by
  rw [Db.unavailableSubmissions, List.map_eq_nil_iff, List.filter_eq_nil_iff]
  intro item member lost
  simp only [Db.lostItem, Bool.and_eq_true, Bool.not_eq_true'] at lost
  obtain ⟨⟨waits, unread⟩, gone⟩ := lost
  obtain ⟨old, there, rfl⟩ := mem_updateWhere.mp member
  split at waits
  · simp [QueueItem.lose, QueueItem.waits] at waits
  next spared =>
    rw [if_neg spared] at unread gone
    have kept : old.id ∉ db.unavailableSubmissions contents := fun listed =>
      spared (decide_eq_true listed)
    have available : ¬db.lostItem contents old = true := fun lost =>
      kept (List.mem_map.mpr ⟨old, List.mem_filter.mpr ⟨there, lost⟩, rfl⟩)
    rw [run, read_deleteAll (apart.items old there waits kept)] at unread
    have recoverable : db.sourceRecoverable old = true := by
      simpa [Db.lostItem, waits, unread] using available
    rw [run, source_kept kept recoverable] at gone
    cases gone

theorem interactions_available (now : ℚ) (apart : Apart opaqueContentKey db contents) :
    (run opaqueContentKey now (db, contents)).1.unavailableInteractions
      (run opaqueContentKey now (db, contents)).2 = [] := by
  rw [Db.unavailableInteractions, List.map_eq_nil_iff, List.filter_eq_nil_iff]
  intro row member lost
  simp only [Interaction.lost, Bool.and_eq_true, decide_eq_true_eq] at lost
  obtain ⟨pending, unread⟩ := lost
  obtain ⟨middle, between, rfl⟩ := mem_updateWhere.mp member
  split at pending
  · cases pending
  next unexpired =>
    rw [if_neg unexpired] at unread
    obtain ⟨old, there, rfl⟩ := mem_updateWhere.mp between
    split at pending
    · cases pending
    next spared =>
      rw [if_neg spared] at unread
      have kept : old.interactionId ∉ db.unavailableInteractions contents := fun listed =>
        spared (decide_eq_true ⟨listed, pending⟩)
      rw [run, read_deleteAll (apart.interactions old there pending kept)] at unread
      refine kept (List.mem_map.mpr ⟨old, List.mem_filter.mpr ⟨there, ?_⟩, rfl⟩)
      simp [Interaction.lost, pending, unread]

/-- At the same time a second run changes nothing but the submissions that the first run
has left as submitted: those of expired owners come out unknown. -/
theorem second_recovery_only_escalates (now : ℚ) (apart : Apart opaqueContentKey db contents) :
    run opaqueContentKey now (run opaqueContentKey now (db, contents)) =
      (escalate (db.expired now) (run opaqueContentKey now (db, contents)).1,
        (run opaqueContentKey now (db, contents)).2) := by
  have settled := recover_settled db now (db.unavailableSubmissions contents)
    (db.unavailableInteractions contents)
  have again : ∀ first : Db × Contents, first.1.unavailableSubmissions first.2 = [] →
      first.1.unavailableInteractions first.2 = [] →
      run opaqueContentKey now first = (first.1.recover now [] [], first.2) := by
    intro first submissions interactions
    rw [run, submissions, interactions]
    have none : first.1.deletedKeys opaqueContentKey [] [] = [] := by
      simp [Db.deletedKeys]
    rw [none, deleteAll_nil]
  rw [again _ (submissions_available now apart) (interactions_available now apart)]
  have escalates := settled.recover
  exact Prod.ext escalates rfl

/-- A submission that was sent, and a prompt whose hash does not match. -/
def crashed : Db × Contents :=
  ({ submissions := [{ submissionId := "sent", sdkSessionId := "session", state := .submitted }]
     owners := [{ sdkSessionId := "session", fenceToken := 1, expiresAt := 0 }]
     queue := [{ id := "lost", state := .localQueued, promptContentKey := some "a" }] }, [])

theorem second_recovery_only_escalates_crashed :
    run (fun _ _ _ => "response") 1 (run (fun _ _ _ => "response") 1 crashed) =
      (escalate ["session"] (run (fun _ _ _ => "response") 1 crashed).1,
        (run (fun _ _ _ => "response") 1 crashed).2) := by
  refine second_recovery_only_escalates 1 ⟨?_, ?_⟩
  · decide +kernel
  · decide +kernel

end

section
variable (opaqueContentKey : String → String → String → String)

/-- The rows without their update timestamps. -/
def untimed (db : Db) : Db :=
  { db with
    queue := db.queue.map fun row => { row with updatedAt := 0 }
    runs := db.runs.map fun row => { row with updatedAt := 0 }
    interactions := db.interactions.map fun row => { row with updatedAt := 0 }
    liveness := db.liveness.map fun row => { row with refreshedAt := 0 }
    requests := db.requests.map fun row => { row with updatedAt := 0 }
    bindings := db.bindings.map fun row => { row with updatedAt := 0 }
    runtimeSchedules := db.runtimeSchedules.map fun row => { row with updatedAt := 0 }
    intents := db.intents.map fun row => { row with updatedAt := 0 } }

/-- A second run at the same time changes no row. -/
def Repeats (now : ℚ) (state : Db × Contents) : Prop :=
  untimed (run opaqueContentKey now (run opaqueContentKey now state)).1 =
    untimed (run opaqueContentKey now state).1

instance (now : ℚ) (state : Db × Contents) : Decidable (Repeats opaqueContentKey now state) :=
  inferInstanceAs (Decidable (_ = _))

end

/-- Two prompts under one key, of which one has another hash. -/
def sharing : Db × Contents :=
  ({ queue :=
      [{ id := "stale", state := .localQueued, promptContentKey := some "key",
         promptHash := some "old" },
       { id := "good", state := .localQueued, promptContentKey := some "key",
         promptHash := some "new" }] },
    [("key", { value := some "prompt", sha256 := "new" })])

theorem second_recovery_rewrites_rows :
    ¬Repeats (fun _ _ _ => "response") 1 crashed ∧
      ¬Repeats (fun _ _ _ => "response") 1 sharing := by
  decide +kernel

end Copilotd.Guarantees.RecoveryRepeated
