import Copilotd.Base.Run
import Copilotd.Source.Core.ScheduleRuns

/-!
# Schedule run fencing

Every operation of the repository rewrites `schedule_runs` with one `UPDATE`.  The
fence predicate is in the statement, or checked before it in the same
transaction, everywhere but on the early return of `enqueue`.  Where that return
is taken only by the current holder of a run that has not ended (`Fenced`), a
stale caller changes nothing and a terminal run stays terminal
(`schedule_run_fencing`); without it a second `enqueue` brings a finished run
back to `submitting` (`second_enqueue_revives_finished_run`).
-/
namespace Copilotd.Guarantees.ScheduleRunFencing

open Base.Run Base.Table Source.Core.Scheduler

def step (db : Db) (operation : Operation) : Option Db := some (db.apply operation)

/-- The run, owner and fence the call is made with. -/
def credentialsOf : Operation → Option (String × String × Int)
  | .plan .. | .claimNext .. => none
  | .renewRun runId ownerId fenceToken _ _ => some (runId, ownerId, fenceToken)
  | .markTargetStarted runId ownerId fenceToken _ _ _ => some (runId, ownerId, fenceToken)
  | .recordTarget runId ownerId fenceToken _ _ => some (runId, ownerId, fenceToken)
  | .enqueue runId ownerId fenceToken _ _ _ _ => some (runId, ownerId, fenceToken)
  | .retryOrFail runId ownerId fenceToken _ _ _ => some (runId, ownerId, fenceToken)
  | .finalize runId _ _ _ _ _ expected =>
    expected.map fun pair => (runId, pair.1, pair.2)

/-- `enqueue` finds an item of the run and returns early. -/
def returnsEarly (db : Db) (runId promptHash : String) : Bool :=
  !db.draining && (db.existingItem runId).any fun existing => !existing.conflicts promptHash

/-- `enqueue` returns early only to the holder of a run that has not ended. -/
def Fenced (db : Db) : Operation → Prop
  | .enqueue runId ownerId fenceToken _ promptHash _ _ =>
    returnsEarly db runId promptHash → ∀ row ∈ db.run runId,
      row.heldBy ownerId fenceToken = true ∧ row.status.terminal = false
  | _ => True

/-! ## One statement -/

/-- The row is the one its run id selects. -/
def Selected (db : Db) (row : RunRow) : Prop := db.run row.runId = some row

variable {row : RunRow} {db : Db} {runId : String}

theorem selected_of_run (found : db.run runId = some row) : Selected db row := by
  have key : row.runId = runId := lookup_some_key found
  unfold Selected
  rw [key]
  exact found

/-- A run that has ended is leased to nobody. -/
def Unleased (db : Db) : Prop :=
  ∀ row, Selected db row → row.status.terminal = true → row.leaseOwner = none

/-- The call carries another owner or fence than the row. -/
def Stale (credentials : Option (String × String × Int)) (row : RunRow) : Prop :=
  ∃ runId ownerId fenceToken, credentials = some (runId, ownerId, fenceToken) ∧
    row.runId = runId ∧ row.heldBy ownerId fenceToken = false

/-- What an `UPDATE` of the repository may do to the rows it selects. -/
structure Guarded (db : Db) (credentials : Option (String × String × Int))
    (hit : RunRow → Bool) (set : RunRow → RunRow) : Prop where
  key : ∀ row, (set row).runId = row.runId
  fresh : ∀ row, Selected db row → hit row = true → ¬ Stale credentials row
  ended : ∀ row, Selected db row → hit row = true → row.status.terminal = true →
    (set row).status.terminal = true
  unleased : ∀ row, Selected db row → hit row = true → (set row).status.terminal = true →
    (set row).leaseOwner = none

/-- The effect of a call: one guarded `UPDATE`, or the insertion of a new run. -/
inductive Effect (db : Db) (credentials : Option (String × String × Int)) : Db → Prop where
  | same (after : Db) (runs : after.runs = db.runs) : Effect db credentials after
  | update (hit : RunRow → Bool) (set : RunRow → RunRow) (after : Db)
      (guarded : Guarded db credentials hit set) (runs : after.runs = updateWhere hit set db.runs) :
      Effect db credentials after
  | insert (row : RunRow) (after : Db) (free : db.run row.runId = none)
      (open_ : row.status.terminal = false) (runs : after.runs = db.runs ++ [row]) :
      Effect db credentials after

variable {credentials : Option (String × String × Int)} {after : Db}

theorem Effect.run (effect : Effect db credentials after) (found : db.run runId = some row) :
    ∃ now, after.run runId = some now ∧ (Stale credentials row → now = row) ∧
      (row.status.terminal = true → now.status.terminal = true) := by
  have selected := selected_of_run found
  cases effect with
  | same after runs =>
    refine ⟨row, ?_, fun _ => rfl, id⟩
    unfold Db.run
    rw [runs]
    exact found
  | update hit set after guarded runs =>
    have moved : after.run runId = some (if hit row then set row else row) := by
      unfold Db.run
      rw [runs, lookup_updateWhere guarded.key]
      unfold Db.run at found
      rw [found]
      rfl
    refine ⟨_, moved, ?_, ?_⟩
    · intro stale
      split
      · next taken => exact absurd stale (guarded.fresh row selected taken)
      · rfl
    · intro terminal
      split
      · next taken => exact guarded.ended row selected taken terminal
      · exact terminal
  | insert new after free open_ runs =>
    refine ⟨row, ?_, fun _ => rfl, id⟩
    unfold Db.run
    rw [runs]
    exact lookup_append_of_some found

theorem Effect.unleased (effect : Effect db credentials after) (before : Unleased db) :
    Unleased after := by
  intro now selected terminal
  have found : after.run now.runId = some now := selected
  cases effect with
  | same after runs =>
    refine before now ?_ terminal
    unfold Selected Db.run
    rw [← runs]
    exact found
  | update hit set after guarded runs =>
    unfold Db.run at found
    rw [runs, lookup_updateWhere guarded.key, Option.map_eq_some_iff] at found
    obtain ⟨row, old, is⟩ := found
    have selected := selected_of_run old
    split at is
    · next taken =>
      rw [← is] at terminal ⊢
      exact guarded.unleased row selected taken terminal
    · rw [← is] at terminal ⊢
      exact before row selected terminal
  | insert new after free open_ runs =>
    unfold Db.run at found
    rw [runs, lookup_append] at found
    rcases Option.or_eq_some_iff.mp found with old | ⟨_, inserted⟩
    · exact before now old terminal
    · have same : now = new := by
        have member := lookup_some_mem inserted
        exact List.mem_singleton.mp member
      rw [same, open_] at terminal
      cases terminal

/-! ## Every call is guarded -/

variable {ownerId : String} {fenceToken : Int}

theorem guarded_of_held {hit : RunRow → Bool} {set : RunRow → RunRow}
    (key : ∀ row, (set row).runId = row.runId)
    (held : ∀ row, hit row = true → row.heldBy ownerId fenceToken = true)
    (open_ : ∀ row, Selected db row → hit row = true →
      row.status.terminal = false ∧ (set row).status.terminal = false) :
    Guarded db (some (runId, ownerId, fenceToken)) hit set := by
  refine ⟨key, ?_, ?_, ?_⟩
  · rintro row _ taken ⟨_, _, _, same, _, lost⟩
    cases same
    rw [held row taken] at lost
    cases lost
  · intro row selected taken terminal
    rw [(open_ row selected taken).1] at terminal
    cases terminal
  · intro row selected taken terminal
    rw [(open_ row selected taken).2] at terminal
    cases terminal

theorem open_of_held (unleased : Unleased db) (selected : Selected db row)
    (held : row.heldBy ownerId fenceToken = true) : row.status.terminal = false := by
  have owner : row.leaseOwner = some ownerId := (of_decide_eq_true held).1
  cases ended : row.status.terminal with
  | false => rfl
  | true =>
    rw [unleased row selected ended] at owner
    cases owner

variable {status : ScheduleRunState}

theorem open_of_mem (member : status ∈ [.claimed, .submitting]) :
    status.terminal = false := by
  rcases List.mem_cons.mp member with rfl | rest
  · rfl
  · rw [List.mem_singleton.mp rest]
    rfl

variable {now : ℚ}

theorem finalizeInTransaction_effect {basis : Option String} {category : Option ErrorCategory}
    {code : Option String} {expected : Option (String × Int)} (terminal : status.terminal = true)
    (done : db.finalizeInTransaction runId status basis category code now expected = .ok after) :
    Effect db (expected.map fun pair => (runId, pair.1, pair.2)) after := by
  unfold Db.finalizeInTransaction at done
  split at done
  · cases done
  · next current found =>
    split at done
    · cases done
    · next held =>
      split at done
      · cases done
        exact .same db rfl
      · simp only [Except.ok.injEq] at done
        refine .update (fun other => other.runId = runId) (fun other => other.finalized
          (if code = some "forced_restart" ∧ status = .dispatchUnknown ∧
              (db.dispatchObserved current ∨ current.acceptedMessageId ≠ none) then
            .outcomeUnknown else status) basis category code now) after ⟨?_, ?_, ?_, ?_⟩ ?_
        · intro row
          rfl
        · rintro row selected taken ⟨_, ownerId, fenceToken, same, _, lost⟩
          obtain ⟨pair, isPair, isSame⟩ := Option.map_eq_some_iff.mp same
          cases isSame
          have mine : row.runId = runId := of_decide_eq_true taken
          have isCurrent : current = row := by
            have both : db.run runId = some row := mine ▸ selected
            rw [found] at both
            exact Option.some.inj both
          rw [isPair, isCurrent] at held
          simp [lost] at held
        · intro row _ _ _
          split
          · rfl
          · exact terminal
        · intro row _ _ _
          rfl
        · rw [← done]
          split <;> rfl

theorem committed_effect {result : Except SchedulerError Db}
    (ok : ∀ after, result = .ok after → Effect db credentials after) :
    Effect db credentials (committed db result) := by
  cases result with
  | error error => exact .same db rfl
  | ok after => exact ok after rfl

theorem claimNext_effect {leaseSeconds : ℚ} {claimed : Option RunRow}
    (done : claimNext ownerId now leaseSeconds db = .ok (after, claimed)) :
    Effect db none after := by
  unfold claimNext at done
  split at done
  · cases done
    exact .same db rfl
  · split at done
    · cases done
      exact .same db rfl
    · next row first =>
      have claimable : row.status.terminal = false := by
        have filtered := (List.mem_filter.mp (firstRun_mem first)).2
        unfold Db.claimable at filtered
        split at filtered <;> simp_all [ScheduleRunState.terminal]
      split at done
      · cases finished : db.finalizeInTransaction row.runId .failed none (some .runtime)
            (some "retry_exhausted") now none with
        | error error =>
          rw [finished] at done
          cases done
        | ok final =>
          rw [finished] at done
          cases done
          exact finalizeInTransaction_effect rfl finished
      · cases done
        refine .update _ _ _ ⟨?_, ?_, ?_, ?_⟩ rfl
        · intro other
          rfl
        · rintro other _ _ ⟨_, _, _, same, _⟩
          cases same
        · intro other _ taken terminal
          rw [(of_decide_eq_true taken).2, claimable] at terminal
          cases terminal
        · intro other _ _ terminal
          cases terminal

theorem enqueue_effect {target : ScheduledTarget} {promptHash : String} {ready : Bool}
    (fenced : Fenced db (.enqueue runId ownerId fenceToken target promptHash ready now))
    (unleased : Unleased db)
    (done : enqueue runId ownerId fenceToken target promptHash ready now db = .ok after) :
    Effect db (some (runId, ownerId, fenceToken)) after := by
  unfold enqueue at done
  split at done
  · cases done
  · next open_ =>
    split at done
    · cases done
    · next current found =>
      split at done
      · next existing queued =>
        split at done
        · cases done
        · next agrees =>
          cases done
          have returns : returnsEarly db runId promptHash = true := by
            simp [returnsEarly, open_, queued, agrees]
          have early := fenced returns current found
          have mine : ∀ row, Selected db row → row.runId = runId → row = current := by
            intro row selected is
            have both : db.run runId = some row := is ▸ selected
            rw [found] at both
            exact (Option.some.inj both).symm
          refine .update _ _ _ ⟨?_, ?_, ?_, ?_⟩ rfl
          · intro row
            rfl
          · rintro row selected taken ⟨_, _, _, same, _, lost⟩
            cases same
            rw [mine row selected (of_decide_eq_true taken), early.1] at lost
            cases lost
          · intro row selected taken terminal
            rw [mine row selected (of_decide_eq_true taken), early.2] at terminal
            cases terminal
          · intro row _ _ _
            rfl
      · split at done
        · cases done
        · split at done
          · cases done
          · split at done
            · cases done
            · split at done
              · cases done
              · cases done
                refine .update _ _ _ (guarded_of_held ?_ ?_ ?_) rfl
                · intro row
                  rfl
                · intro row taken
                  exact (of_decide_eq_true taken).2
                · intro row selected taken
                  exact ⟨open_of_held unleased selected (of_decide_eq_true taken).2, rfl⟩

theorem retryOrFail_effect {attempt : Nat} {error : DispatchError} (unleased : Unleased db)
    (done : retryOrFail runId ownerId fenceToken attempt error now db = .ok after) :
    Effect db (some (runId, ownerId, fenceToken)) after := by
  unfold retryOrFail at done
  dsimp only at done
  split at done
  · next terminal =>
    unfold finalize at done
    split at done
    · cases done
    · exact finalizeInTransaction_effect terminal done
  · split at done
    · cases done
    · cases done
      refine .update _ _ _ (guarded_of_held ?_ ?_ ?_) rfl
      · intro row
        rfl
      · intro row taken
        exact (of_decide_eq_true taken).2.1
      · intro row selected taken
        exact ⟨open_of_held unleased selected (of_decide_eq_true taken).2.1, rfl⟩

theorem apply_effect (operation : Operation) (fenced : Fenced db operation)
    (unleased : Unleased db) : Effect db (credentialsOf operation) (db.apply operation) := by
  cases operation with
  | plan runId plannedAtUtc now =>
    change Effect db none (plan runId plannedAtUtc now db)
    unfold plan
    split
    · exact .same db rfl
    · next free => exact .insert _ _ free rfl rfl
  | claimNext ownerId now leaseSeconds =>
    refine committed_effect ?_
    intro after done
    cases result : claimNext ownerId now leaseSeconds db with
    | error error =>
      rw [result] at done
      cases done
    | ok pair =>
      rw [result] at done
      cases done
      exact claimNext_effect result
  | renewRun runId ownerId fenceToken now leaseSeconds =>
    refine .update _ _ _ (guarded_of_held ?_ ?_ ?_) rfl
    · intro row
      rfl
    · intro row taken
      exact (of_decide_eq_true taken).2.1
    · intro row _ taken
      have status := open_of_mem (of_decide_eq_true taken).2.2
      exact ⟨status, status⟩
  | markTargetStarted runId ownerId fenceToken newSession resultSessionId now =>
    refine committed_effect ?_
    intro after done
    unfold markTargetStarted at done
    dsimp only at done
    split at done
    · cases done
    · cases done
      refine .update _ _ _ (guarded_of_held ?_ ?_ ?_) rfl
      · intro row
        rfl
      · intro row taken
        exact (of_decide_eq_true taken).2.1
      · intro row _ taken
        refine ⟨?_, rfl⟩
        rw [(of_decide_eq_true taken).2.2]
        rfl
  | recordTarget runId ownerId fenceToken target now =>
    refine committed_effect ?_
    intro after done
    unfold recordTarget at done
    dsimp only at done
    split at done
    · cases done
    · cases done
      refine .update _ _ _ (guarded_of_held ?_ ?_ ?_) rfl
      · intro row
        rfl
      · intro row taken
        exact (of_decide_eq_true taken).2.1
      · intro row _ taken
        have status := open_of_mem (of_decide_eq_true taken).2.2.1
        exact ⟨status, status⟩
  | enqueue runId ownerId fenceToken target promptHash ready now =>
    refine committed_effect ?_
    intro after done
    exact enqueue_effect fenced unleased done
  | retryOrFail runId ownerId fenceToken attempt error now =>
    refine committed_effect ?_
    intro after done
    exact retryOrFail_effect unleased done
  | finalize runId status basis category code now expected =>
    refine committed_effect ?_
    intro after done
    unfold finalize at done
    split at done
    · cases done
    · next terminal =>
      refine finalizeInTransaction_effect ?_ done
      simpa using terminal

/-! ## Whole runs -/

theorem step_unleased (db : Db) (operation : Operation) (after : Db) (unleased : Unleased db)
    (fenced : Fenced db operation) (taken : step db operation = some after) : Unleased after := by
  cases taken
  exact (apply_effect operation fenced unleased).unleased unleased

/-- From any database in which ended runs are leased to nobody, in every interleaving
whose calls are `Fenced`: a call made with a lease that is not the run's current one
leaves the run's row, and a run that has ended stays ended. -/
theorem schedule_run_fencing (start : Db) (before later : List Operation) (db after : Db)
    (unleased : Unleased start) (fenced : Along step Fenced start (before ++ later))
    (reached : run step start before = some db) (ran : run step db later = some after) :
    (∀ operation rest, later = operation :: rest → ∀ runId ownerId fenceToken,
      credentialsOf operation = some (runId, ownerId, fenceToken) →
      ∀ row, db.run runId = some row → row.heldBy ownerId fenceToken = false →
        (db.apply operation).run runId = some row) ∧
    ∀ runId row, db.run runId = some row → row.status.terminal = true →
      ∃ now, after.run runId = some now ∧ now.status.terminal = true := by
  have split := along_append reached fenced
  have unleased := run_inv_along step_unleased split.1 unleased reached
  constructor
  · rintro operation rest rfl runId ownerId fenceToken credentials row found lost
    have effect := apply_effect operation split.2.1 unleased
    obtain ⟨now, isNow, kept, _⟩ := effect.run found
    rw [isNow, kept ⟨runId, ownerId, fenceToken, credentials, lookup_some_key found, lost⟩]
  · intro runId row found terminal
    have ended : ∀ s operation t, (Unleased s ∧ ∃ now, s.run runId = some now ∧
        now.status.terminal = true) → Fenced s operation → step s operation = some t →
        Unleased t ∧ ∃ now, t.run runId = some now ∧ now.status.terminal = true := by
      rintro s operation t ⟨unleased, row, found, terminal⟩ fenced taken
      refine ⟨step_unleased s operation t unleased fenced taken, ?_⟩
      cases taken
      obtain ⟨now, isNow, _, ended⟩ := (apply_effect operation fenced unleased).run found
      exact ⟨now, isNow, ended terminal⟩
    exact (run_inv_along ended split.2 ⟨unleased, row, found, terminal⟩ ran).2

/-- A run is planned, claimed, queued and then finalized without a fence. -/
def queuedThenFailed : List Operation :=
  [.plan "run" 0 0, .claimNext "owner" 1 60, .markTargetStarted "run" "owner" 1 false none 2,
    .enqueue "run" "owner" 1 { threadId := "thread", sdkSessionId := "session" } "hash" true 3,
    .finalize "run" .failed none none (some "operator") 4 none]

/-- The owner's second `enqueue` finds the queue item, and the failed run is back in
`submitting`. -/
theorem second_enqueue_revives_finished_run :
    ∃ db after row now, run step {} queuedThenFailed = some db ∧
      run step db [.enqueue "run" "owner" 1 { threadId := "thread", sdkSessionId := "session" }
        "hash" true 5] = some after ∧
      db.run "run" = some row ∧ row.status.terminal = true ∧
      row.heldBy "owner" 1 = false ∧
      after.run "run" = some now ∧ now.status.terminal = false := by
  have first : ((run step {} queuedThenFailed).bind (·.run "run")).map
      (fun row => (row.status.terminal, row.heldBy "owner" 1)) = some (true, false) := by
    decide +kernel
  have second : ((run step {} (queuedThenFailed ++ [.enqueue "run" "owner" 1
      { threadId := "thread", sdkSessionId := "session" } "hash" true 5])).bind
      (·.run "run")).map (·.status.terminal) = some false := by
    decide +kernel
  obtain ⟨row, isRow, facts⟩ := Option.map_eq_some_iff.mp first
  obtain ⟨db, reached, found⟩ := Option.bind_eq_some_iff.mp isRow
  obtain ⟨now, isNow, revived⟩ := Option.map_eq_some_iff.mp second
  obtain ⟨after, ran, foundNow⟩ := Option.bind_eq_some_iff.mp isNow
  rw [run_append, reached] at ran
  simp only [Prod.mk.injEq] at facts
  exact ⟨db, after, row, now, reached, ran, found, facts.1, facts.2, foundNow, revived⟩

instance (db : Db) (operation : Operation) : Decidable (Fenced db operation) := by
  unfold Fenced
  split <;> infer_instance

/-- A finished run keeps its row when its former owner renews the lease. -/
theorem schedule_run_fencing_after_failure :
    ∃ db row, run step {} queuedThenFailed = some db ∧ db.run "run" = some row ∧
      (db.apply (.renewRun "run" "owner" 1 5 60)).run "run" = some row := by
  have first : ((run step {} queuedThenFailed).bind (·.run "run")).map
      (fun row => row.heldBy "owner" 1) = some false := by
    decide +kernel
  obtain ⟨row, isRow, lost⟩ := Option.map_eq_some_iff.mp first
  obtain ⟨db, reached, found⟩ := Option.bind_eq_some_iff.mp isRow
  refine ⟨db, row, reached, found, ?_⟩
  have empty : Unleased {} := by
    intro row selected
    cases selected
  exact (schedule_run_fencing {} queuedThenFailed [.renewRun "run" "owner" 1 5 60] db _ empty
    (by decide +kernel) reached rfl).1 _ [] rfl "run" "owner" 1 rfl row found lost

end Copilotd.Guarantees.ScheduleRunFencing
