import Copilotd.Base.Run
import Copilotd.Guarantees.ScheduleOccurrences
import Copilotd.Source.Core.SchedulePlanner

/-!
# Planning covers the occurrences of a schedule

A definition with the misfire policy `latest` is planned at every `plan_due` that goes
through it, or that finds it not yet due.  Between two such planning times
`next_run_at_utc` is the least occurrence not seen yet, so that each planning creates
the run of the newest occurrence since the one before it and no other.

`_cron_next` and `_cron_previous_or_at` raise where they run out of wall times, which
rolls the planning back and ends the whole `plan_due`; the results are about the calls
whose definitions are in reach of both searches.
-/
namespace Copilotd.Guarantees.SchedulePlanning

open Base.Run Base.Table Base.Ticks Source.Core.ScheduleTime Source.Core.SchedulePlanner
open Guarantees.ScheduleOccurrences

/-! ## The statement -/

/-- The times of the planned runs of a definition, in the order of their creation. -/
def plannedTimes (scheduleId : String) (db : PlannerDb) : List ℚ :=
  (db.runs.filter fun run => run.scheduleId = scheduleId).map PlannedRun.plannedAtUtc

/-- The call plans the definition or finds it not due: the worker does not drain, and the
limit does not put the definition off. -/
def reaches (scheduleId : String) (db : PlannerDb) (call : PlanCall) : Bool :=
  !db.draining && ((lookup ScheduleRow.id scheduleId db.schedules).all
    (fun row => !row.plannable call.ownerId call.now) || scheduleId ∈ db.dueIds call)

def planningTimes (scheduleId : String) : PlannerDb → List PlannerStep → List ℚ
  | _, [] => []
  | db, .planDue call :: steps =>
    if reaches scheduleId db call then
      call.now :: planningTimes scheduleId (planDue db call).1 steps
    else planningTimes scheduleId (planDue db call).1 steps
  | db, .setDraining draining :: steps => planningTimes scheduleId { db with draining } steps

def callTimes (steps : List PlannerStep) : List ℚ :=
  steps.filterMap fun
    | .planDue call => some call.now
    | .setDraining _ => none

/-- A definition as `create` leaves it, with the misfire policy `latest` and an occurrence
to come. -/
structure Created (row : ScheduleRow) (db : PlannerDb) : Prop where
  unique : (db.schedules.map ScheduleRow.id).Nodup
  stored : lookup ScheduleRow.id row.id db.schedules = some row
  enabled : row.state = .enabled
  latest : row.misfirePolicy = .latest
  free : row.plannerLeaseExpiresAt = none
  first : ∃ next, row.nextRunAtUtc = some next ∧
    IsLeast (After (occurrences row.expression row.createdAt) row.createdAt) next
  noRuns : ∀ run ∈ db.runs, run.scheduleId ≠ row.id

/-- The runs of the definition are those of the newest occurrence between each two planning
times, each created once, and its next run is the least occurrence after the last one. -/
structure Covered (row : ScheduleRow) (start : PlannerDb) (steps : List PlannerStep)
    (db : PlannerDb) : Prop where
  covers : Covers (occurrences row.expression row.createdAt) row.createdAt
    (planningTimes row.id start steps) (plannedTimes row.id db)
  once : (plannedTimes row.id db).Nodup
  next : ∃ current, lookup ScheduleRow.id row.id db.schedules = some current ∧
    IsNext (occurrences row.expression row.createdAt)
      ((planningTimes row.id start steps).getLastD row.createdAt) current.nextRunAtUtc ∧
    (current.nextRunAtUtc = none → current.state = .disabled)

/-- Both searches get to their occurrence for every definition that a call goes through. -/
def Searchable (db : PlannerDb) : PlannerStep → Prop
  | .planDue call => ∀ row ∈ db.schedules, row.id ∈ db.dueIds call → InReach row.expression call.now
  | .setDraining _ => True

/-! ## One planning -/

section PlanOne

variable {db db' : PlannerDb} {scheduleId ownerId : String} {now leaseSeconds : ℚ}

def runsOf (scheduleId : String) (db : PlannerDb) : List PlannedRun :=
  db.runs.filter fun run => run.scheduleId = scheduleId

/-- A change that leaves a definition, its runs and the keys of the table alone. -/
structure Frame (scheduleId : String) (db db' : PlannerDb) : Prop where
  row :
    lookup ScheduleRow.id scheduleId db'.schedules = lookup ScheduleRow.id scheduleId db.schedules
  runs : runsOf scheduleId db' = runsOf scheduleId db

theorem Frame.trans {db'' : PlannerDb} (first : Frame scheduleId db db')
    (second : Frame scheduleId db' db'') : Frame scheduleId db db'' :=
  ⟨second.row.trans first.row, second.runs.trans first.runs⟩

/-- What a planning never touches: the keys and the worker state. -/
structure Kept (db db' : PlannerDb) : Prop where
  keys : db'.schedules.map ScheduleRow.id = db.schedules.map ScheduleRow.id
  draining : db'.draining = db.draining

/-- What a planning that goes through leaves behind. -/
structure Advanced (row : ScheduleRow) (ownerId : String) (now leaseSeconds : ℚ)
    (latestDue nextRun : Option ℚ) (db db' : PlannerDb) : Prop where
  stored : lookup ScheduleRow.id row.id db'.schedules =
    some ((row.claimed ownerId now leaseSeconds).advanced nextRun latestDue now)
  runs : db'.runs = (planRun db.runs row latestDue now).1

theorem planOne_skips (unique : (db.schedules.map ScheduleRow.id).Nodup)
    (skip : ∀ row, lookup ScheduleRow.id scheduleId db.schedules = some row →
      row.plannable ownerId now = false) :
    planOne db scheduleId ownerId now leaseSeconds = .ok (db, none) := by
  unfold planOne
  split
  · rfl
  · have none : rowcount (fun row : ScheduleRow =>
        decide (row.id = scheduleId ∧ row.plannable ownerId now = true)) db.schedules = 0 := by
      unfold rowcount
      rw [List.countP_eq_zero]
      intro row member hit
      obtain ⟨rfl, plannable⟩ := of_decide_eq_true hit
      rw [skip row (lookup_of_mem unique member)] at plannable
      cases plannable
    dsimp only
    rw [none, if_pos (by decide)]

theorem planOne_plans {row : ScheduleRow} {firstDue : ℚ} {latestDue nextRun : Option ℚ}
    (unique : (db.schedules.map ScheduleRow.id).Nodup) (active : db.draining = false)
    (stored : lookup ScheduleRow.id scheduleId db.schedules = some row)
    (plannable : row.plannable ownerId now = true) (due : row.nextRunAtUtc = some firstDue)
    (latest : (parseDefinition row).latestDue firstDue now = .ok latestDue)
    (next : (parseDefinition row).nextAfter now = .ok nextRun) :
    ∃ db' run, planOne db scheduleId ownerId now leaseSeconds = .ok (db', run) ∧
      Advanced row ownerId now leaseSeconds latestDue nextRun db db' := by
  have own : row.id = scheduleId := lookup_some_key stored
  have counted : rowcount (fun row : ScheduleRow =>
      decide (row.id = scheduleId ∧ row.plannable ownerId now = true)) db.schedules = 1 := by
    rw [rowcount_of_lookup unique stored (fun other hit => (of_decide_eq_true hit).1),
      if_pos (decide_eq_true ⟨own, plannable⟩)]
  have claimed : lookup ScheduleRow.id scheduleId (updateWhere (fun row : ScheduleRow =>
      decide (row.id = scheduleId ∧ row.plannable ownerId now = true))
      (fun row => row.claimed ownerId now leaseSeconds) db.schedules) =
      some (row.claimed ownerId now leaseSeconds) := by
    rw [lookup_updateWhere (by exact fun _ => rfl), stored, Option.map_some,
      if_pos (decide_eq_true ⟨own, plannable⟩)]
  unfold planOne
  rw [if_neg (by rw [active]; decide)]
  dsimp only
  rw [counted, if_neg (by decide), claimed]
  simp only [show (row.claimed ownerId now leaseSeconds).nextRunAtUtc = some firstDue from due,
    show (parseDefinition (row.claimed ownerId now leaseSeconds)).latestDue firstDue now =
      .ok latestDue from latest,
    show (parseDefinition (row.claimed ownerId now leaseSeconds)).nextAfter now = .ok nextRun
      from next]
  refine ⟨_, _, rfl, ?_, rfl⟩
  rw [own]
  change lookup ScheduleRow.id scheduleId (updateWhere _ _ _) = _
  rw [lookup_updateWhere (by exact fun _ => rfl), claimed, Option.map_some,
    if_pos (decide_eq_true ⟨own, rfl⟩)]

theorem runsOf_planRun {other : String} {row : ScheduleRow} (latestDue : Option ℚ) (now : ℚ)
    (different : row.id ≠ other) (runs : List PlannedRun) :
    (planRun runs row latestDue now).1.filter (fun run => run.scheduleId = other) =
      runs.filter fun run => run.scheduleId = other := by
  unfold planRun
  split
  · rfl
  · split
    · rfl
    · unfold insertRun
      dsimp only
      split
      · rfl
      · rw [List.filter_append, List.filter_cons_of_neg (by simpa using different), List.filter_nil,
          List.append_nil]

theorem planOne_frame {run : Option PlannedRun}
    (done : planOne db scheduleId ownerId now leaseSeconds = .ok (db', run)) :
    Kept db db' ∧ ∀ other, other ≠ scheduleId → Frame other db db' := by
  unfold planOne at done
  split at done
  · cases done
    exact ⟨⟨rfl, rfl⟩, fun other _ => ⟨rfl, rfl⟩⟩
  · dsimp only at done
    split at done
    · cases done
      exact ⟨⟨rfl, rfl⟩, fun other _ => ⟨rfl, rfl⟩⟩
    · split at done
      · cases done
        refine ⟨⟨map_updateWhere (by exact fun _ => rfl) _, rfl⟩, fun other different => ⟨?_, rfl⟩⟩
        exact lookup_updateWhere_other different (by exact fun _ => rfl)
          (by exact fun row hit => (of_decide_eq_true hit).1) _
      · next row found =>
        have own : row.id = scheduleId := lookup_some_key found
        split at done
        · cases done
          refine
            ⟨⟨map_updateWhere (by exact fun _ => rfl) _, rfl⟩, fun other different => ⟨?_, rfl⟩⟩
          exact lookup_updateWhere_other different (by exact fun _ => rfl)
            (by exact fun row hit => (of_decide_eq_true hit).1) _
        · next firstDue due =>
          cases latest : (parseDefinition row).latestDue firstDue now with
          | error error => rw [latest] at done; cases done
          | ok latestDue =>
            cases next : (parseDefinition row).nextAfter now with
            | error error => rw [latest, next] at done; cases done
            | ok nextRun =>
              rw [latest, next] at done
              cases done
              refine ⟨⟨?_, rfl⟩, fun other different => ⟨?_, ?_⟩⟩
              · exact (map_updateWhere (by exact fun _ => rfl) _).trans
                  (map_updateWhere (by exact fun _ => rfl) _)
              · dsimp only
                rw [lookup_updateWhere_other different (by exact fun _ => rfl)
                  (by exact fun row hit => (of_decide_eq_true hit).1)]
                exact lookup_updateWhere_other different (by exact fun _ => rfl)
                  (by exact fun row hit => (of_decide_eq_true hit).1) _
              · exact runsOf_planRun latestDue now (by rw [own]; exact different.symm) db.runs

theorem planOne_ok (unique : (db.schedules.map ScheduleRow.id).Nodup)
    (reach : ∀ row, lookup ScheduleRow.id scheduleId db.schedules = some row →
      InReach row.expression now) :
    ∃ result, planOne db scheduleId ownerId now leaseSeconds = .ok result := by
  by_cases active : db.draining = false
  swap
  · refine ⟨(db, none), ?_⟩
    unfold planOne
    rw [if_pos (by simpa using active)]
  by_cases skip : ∀ row, lookup ScheduleRow.id scheduleId db.schedules = some row →
      row.plannable ownerId now = false
  · exact ⟨_, planOne_skips unique skip⟩
  · push Not at skip
    obtain ⟨row, stored, plannable⟩ := skip
    have plannable : row.plannable ownerId now = true := by simpa using plannable
    have conditions := plannable
    simp only [ScheduleRow.plannable, decide_eq_true_eq, Option.any_eq_true] at conditions
    obtain ⟨firstDue, due, -⟩ := conditions.2.1
    obtain ⟨nextRun, next, -⟩ := nextAfter_isNext row.createdAt (reach row stored)
    have latest : ∃ latestDue, (parseDefinition row).latestDue firstDue now = .ok latestDue := by
      have inReach := reach row stored
      unfold parseDefinition ParsedSchedule.latestDue
      split
      · exact ⟨_, rfl⟩
      · cases expression : row.expression with
        | «at» atUtc => exact ⟨_, rfl⟩
        | interval seconds atLeastOne => exact ⟨_, rfl⟩
        | cron cron zone =>
          rw [expression] at inReach
          obtain ⟨target, found, -⟩ := cronPreviousOrAt_isGreatest inReach.1
          exact ⟨_, congrArg (Except.map (Option.filter fun latest => firstDue ≤ latest)) found⟩
    obtain ⟨latestDue, latest⟩ := latest
    obtain ⟨db', run, done, -⟩ :=
      @planOne_plans db scheduleId ownerId now leaseSeconds _ _ _ _ unique active stored plannable
        due latest next
    exact ⟨_, done⟩

end PlanOne

/-! ## The invariant of a definition -/

/-- The row of a definition between two plannings, the last of them at `previous`. -/
structure RowTracks (row : ScheduleRow) (previous : ℚ) (current : ScheduleRow) : Prop where
  expression : current.expression = row.expression
  createdAt : current.createdAt = row.createdAt
  latest : current.misfirePolicy = .latest
  free : current.plannerLeaseExpiresAt = none
  next : IsNext (occurrences row.expression row.createdAt) previous current.nextRunAtUtc
  disabled : current.nextRunAtUtc = none → current.state = .disabled
  enabled : current.nextRunAtUtc ≠ none → current.state = .enabled

structure Tracks (row : ScheduleRow) (previous : ℚ) (db : PlannerDb) : Prop where
  unique : (db.schedules.map ScheduleRow.id).Nodup
  stored : ∃ current, lookup ScheduleRow.id row.id db.schedules = some current ∧
    RowTracks row previous current
  runs : ∀ run ∈ runsOf row.id db, run.plannedKey = plannedKey run.plannedAtUtc ∧
    run.plannedAtUtc ∈ occurrences row.expression row.createdAt ∧ run.plannedAtUtc ≤ previous

variable {now : ℚ}

section Tracks

variable {row : ScheduleRow} {previous : ℚ} {db db' : PlannerDb} {call : PlanCall}

theorem Created.tracks (created : Created row db) : Tracks row row.createdAt db := by
  obtain ⟨next, isNext, least⟩ := created.first
  refine ⟨created.unique,
    ⟨row, created.stored, ⟨rfl, rfl, created.latest, created.free, ?_, ?_, ?_⟩⟩, ?_⟩
  · rw [isNext]
    exact least
  · intro none
    rw [isNext] at none
    cases none
  · exact fun _ => created.enabled
  · intro run member
    obtain ⟨inRuns, own⟩ := List.mem_filter.mp member
    exact absurd (of_decide_eq_true own) (created.noRuns run inRuns)

theorem Tracks.frame (tracks : Tracks row previous db) (kept : Kept db db')
    (frame : Frame row.id db db') : Tracks row previous db' := by
  obtain ⟨current, stored, rowTracks⟩ := tracks.stored
  refine ⟨by rw [kept.keys]; exact tracks.unique, ⟨current, frame.row.trans stored, rowTracks⟩, ?_⟩
  rw [frame.runs]
  exact tracks.runs

theorem RowTracks.plannable_iff {current : ScheduleRow} {ownerId : String}
    (tracks : RowTracks row previous current) :
    current.plannable ownerId now = true ↔
      ∃ next, current.nextRunAtUtc = some next ∧ next ≤ now := by
  simp only [ScheduleRow.plannable, decide_eq_true_eq, Option.any_eq_true, tracks.free,
    Option.all_none, true_or, and_true]
  constructor
  · rintro ⟨-, next, isNext, due⟩
    exact ⟨next, isNext, due⟩
  · rintro ⟨next, isNext, due⟩
    refine ⟨tracks.enabled (by rw [isNext]; simp), next, isNext, due⟩

theorem Tracks.miss (tracks : Tracks row previous db) (later : previous ≤ now)
    (notDue : ∀ current, lookup ScheduleRow.id row.id db.schedules = some current →
      ∀ next ∈ current.nextRunAtUtc, now < next) :
    Tracks row now db ∧ Within (occurrences row.expression row.createdAt) previous now = ∅ := by
  obtain ⟨current, stored, rowTracks⟩ := tracks.stored
  have ahead := notDue current stored
  refine ⟨⟨tracks.unique, ⟨current, stored, ?_⟩, ?_⟩, rowTracks.next.within_empty ahead⟩
  · exact { rowTracks with next := rowTracks.next.advance later ahead }
  · intro run member
    obtain ⟨key, occurs, upTo⟩ := tracks.runs run member
    exact ⟨key, occurs, upTo.trans later⟩

/-- The run that a planning at `now` creates for an occurrence. -/
def runAt (scheduleId : String) (tick now : ℚ) : PlannedRun :=
  { scheduleId, plannedKey := plannedKey tick, plannedAtUtc := tick, createdAt := now }

theorem Tracks.insertRun_fresh {tick : ℚ} (tracks : Tracks row previous db)
    (occurs : tick ∈ occurrences row.expression row.createdAt) (after : previous < tick) :
    insertRun db.runs (runAt row.id tick now) = db.runs ++ [runAt row.id tick now] := by
  unfold insertRun
  rw [if_neg]
  intro conflict
  obtain ⟨other, member, same⟩ := List.any_eq_true.mp conflict
  obtain ⟨own, sameKey⟩ := of_decide_eq_true same
  obtain ⟨key, otherOccurs, upTo⟩ :=
    tracks.runs other (List.mem_filter.mpr ⟨member, decide_eq_true own⟩)
  have apart := occurrences_apart otherOccurs occurs (upTo.trans_lt after)
  have below := plannedKey_lt apart
  rw [← key, sameKey] at below
  exact lt_irrefl _ below

theorem Tracks.hit {current : ScheduleRow} {ownerId : String} {now leaseSeconds : ℚ}
    (tracks : Tracks row previous db) (active : db.draining = false)
    (stored : lookup ScheduleRow.id row.id db.schedules = some current)
    (plannable : current.plannable ownerId now = true) (reach : InReach row.expression now) :
    ∃ db' run, planOne db row.id ownerId now leaseSeconds = .ok (db', run) ∧ Tracks row now db' ∧
      ∃ tick, IsGreatest (Within (occurrences row.expression row.createdAt) previous now) tick ∧
        plannedTimes row.id db' = plannedTimes row.id db ++ [tick] := by
  obtain ⟨current', stored', rowTracks⟩ := tracks.stored
  rw [stored] at stored'
  cases stored'
  obtain ⟨firstDue, isNext, due⟩ := rowTracks.plannable_iff.mp plannable
  have least := rowTracks.next
  rw [isNext] at least
  have parsed : parseDefinition current = parseSchedule row.expression row.createdAt := by
    unfold parseDefinition
    rw [rowTracks.expression, rowTracks.createdAt]
  obtain ⟨tick, latest, greatest⟩ := latestDue_isGreatest reach least.1.1 due
  obtain ⟨nextRun, next, nextIs⟩ := nextAfter_isNext row.createdAt reach
  rw [← parsed] at latest next
  obtain ⟨db', run, done, advanced⟩ :=
    @planOne_plans db row.id ownerId now leaseSeconds _ _ _ _ tracks.unique active stored plannable
      isNext latest next
  have own : current.id = row.id := lookup_some_key stored
  obtain ⟨newest, -⟩ := newest_within least due greatest
  have notSkipped : current.skipMisfire tick now = false := by
    simp [ScheduleRow.skipMisfire, rowTracks.latest]
  have runs : db'.runs = db.runs ++ [runAt row.id tick now] := by
    rw [advanced.runs]
    simp only [planRun, notSkipped, Bool.false_eq_true, if_false, own]
    exact tracks.insertRun_fresh newest.1.1 newest.1.2.1
  have ownRuns : runsOf row.id db' = runsOf row.id db ++ [runAt row.id tick now] := by
    unfold runsOf
    rw [runs, List.filter_append, List.filter_cons_of_pos (by simp [runAt]), List.filter_nil]
  refine ⟨db', run, done, ⟨?_, ⟨_, own ▸ advanced.stored, ?_⟩, ?_⟩, tick, newest, ?_⟩
  · rw [(planOne_frame done).1.keys]
    exact tracks.unique
  · refine ⟨rowTracks.expression, rowTracks.createdAt, rowTracks.latest, rfl, nextIs, ?_, ?_⟩
    · intro none
      exact if_pos none
    · intro some
      refine (if_neg some).trans (rowTracks.enabled ?_)
      rw [isNext]
      simp
  · intro other member
    rw [ownRuns] at member
    rcases List.mem_append.mp member with old | new
    · obtain ⟨key, occurs, upTo⟩ := tracks.runs other old
      exact ⟨key, occurs, upTo.trans (newest.1.2.1.le.trans newest.1.2.2)⟩
    · rw [List.mem_singleton.mp new]
      exact ⟨rfl, newest.1.1, newest.1.2.2⟩
  · change (runsOf row.id db').map PlannedRun.plannedAtUtc = (runsOf row.id db).map _ ++ [tick]
    rw [ownRuns, List.map_append, List.map_singleton]
    rfl

end Tracks

/-! ## One call of `plan_due` -/

section PlanDue

variable {row : ScheduleRow} {previous : ℚ} {db db' : PlannerDb} {call : PlanCall}

theorem Kept.trans {db'' : PlannerDb} (first : Kept db db') (second : Kept db' db'') :
    Kept db db'' :=
  ⟨second.keys.trans first.keys, second.draining.trans first.draining⟩

theorem planEach_frame (ids : List String) (db : PlannerDb) :
    Kept db (planEach call db ids).1 ∧
      ∀ other, other ∉ ids → Frame other db (planEach call db ids).1 := by
  induction ids generalizing db with
  | nil => exact ⟨⟨rfl, rfl⟩, fun other _ => ⟨rfl, rfl⟩⟩
  | cons id ids ih =>
    unfold planEach
    split
    · exact ⟨⟨rfl, rfl⟩, fun other _ => ⟨rfl, rfl⟩⟩
    · next between run done =>
      obtain ⟨kept, frame⟩ := planOne_frame done
      obtain ⟨keptRest, frameRest⟩ := ih between
      refine ⟨kept.trans keptRest, ?_⟩
      intro other absent
      rw [List.mem_cons, not_or] at absent
      exact (frame other absent.1).trans (frameRest other absent.2)

theorem planEach_own {id : String} {ids : List String} (member : id ∈ ids) (distinct : ids.Nodup)
    (unique : (db.schedules.map ScheduleRow.id).Nodup)
    (reach : ∀ k ∈ ids, ∀ row, lookup ScheduleRow.id k db.schedules = some row →
      InReach row.expression call.now) :
    ∃ before db' run, Kept db before ∧ Frame id db before ∧
      planOne before id call.ownerId call.now call.leaseSeconds = .ok (db', run) ∧
      Kept db' (planEach call db ids).1 ∧ Frame id db' (planEach call db ids).1 := by
  induction ids generalizing db with
  | nil => cases member
  | cons first ids ih =>
    obtain ⟨notLater, distinctRest⟩ := List.nodup_cons.mp distinct
    obtain ⟨⟨between, run⟩, done⟩ :=
      @planOne_ok db first call.ownerId call.now call.leaseSeconds unique
        (reach first (List.mem_cons_self ..))
    have unfolded : (planEach call db (first :: ids)).1 = (planEach call between ids).1 := by
      rw [planEach, done]
    rw [unfolded]
    obtain ⟨kept, frame⟩ := planOne_frame done
    by_cases own : first = id
    · subst own
      obtain ⟨keptRest, frameRest⟩ := @planEach_frame call ids between
      exact ⟨db, between, run, ⟨rfl, rfl⟩, ⟨rfl, rfl⟩, done, keptRest, frameRest first notLater⟩
    · have later : id ∈ ids := by
        rcases List.mem_cons.mp member with same | inRest
        · exact absurd same.symm own
        · exact inRest
      obtain ⟨before, db', run', keptBefore, frameBefore, planned, keptAfter, frameAfter⟩ :=
        @ih between later distinctRest (by rw [kept.keys]; exact unique) (by
          intro k inRest row stored
          have different : k ≠ first := by
            rintro rfl
            exact notLater inRest
          rw [(frame k different).row] at stored
          exact reach k (List.mem_cons_of_mem _ inRest) row stored)
      exact ⟨before, db', run', kept.trans keptBefore, (frame id (Ne.symm own)).trans frameBefore,
        planned, keptAfter, frameAfter⟩

theorem dueIds_nodup (unique : (db.schedules.map ScheduleRow.id).Nodup) :
    (db.dueIds call).Nodup := by
  unfold PlannerDb.dueIds
  split
  · exact List.nodup_nil
  · refine List.Nodup.sublist ((List.take_sublist ..).map _) ?_
    refine ((List.mergeSort_perm _ _).map ScheduleRow.id).nodup_iff.mpr ?_
    exact unique.sublist (List.filter_sublist.map _)

theorem plannable_of_mem_dueIds {id : String} (member : id ∈ db.dueIds call) :
    db.draining = false ∧
      ∃ row ∈ db.schedules, row.id = id ∧ row.plannable call.ownerId call.now = true := by
  unfold PlannerDb.dueIds at member
  split at member
  · cases member
  · next active =>
    obtain ⟨row, selected, own⟩ := List.mem_map.mp member
    have sorted := List.mem_of_mem_take selected
    rw [List.mem_mergeSort] at sorted
    obtain ⟨stored, plannable⟩ := List.mem_filter.mp sorted
    exact ⟨by simpa using active, row, stored, own, plannable⟩

theorem Tracks.after_call (tracks : Tracks row previous db) (later : previous ≤ call.now)
    (searchable : Searchable db (.planDue call)) :
    if reaches row.id db call then
      Tracks row call.now (planDue db call).1 ∧
        ((∃ tick,
          IsGreatest (Within (occurrences row.expression row.createdAt) previous call.now) tick ∧
            plannedTimes row.id (planDue db call).1 = plannedTimes row.id db ++ [tick]) ∨
          (Within (occurrences row.expression row.createdAt) previous call.now = ∅ ∧
            plannedTimes row.id (planDue db call).1 = plannedTimes row.id db))
    else
      Tracks row previous (planDue db call).1 ∧
        plannedTimes row.id (planDue db call).1 = plannedTimes row.id db := by
  obtain ⟨current, stored, rowTracks⟩ := tracks.stored
  have reach : ∀ k ∈ db.dueIds call, ∀ row, lookup ScheduleRow.id k db.schedules = some row →
      InReach row.expression call.now := by
    intro k member row found
    refine searchable row (lookup_some_mem found) ?_
    rw [lookup_some_key found]
    exact member
  by_cases selected : row.id ∈ db.dueIds call
  · obtain ⟨active, current', inTable, own, plannable⟩ := plannable_of_mem_dueIds selected
    have same := lookup_of_mem tracks.unique inTable
    rw [own, stored] at same
    cases same
    obtain ⟨before, db', run, kept, frame, planned, keptAfter, frameAfter⟩ :=
      planEach_own selected (dueIds_nodup tracks.unique) tracks.unique reach
    have inReach := reach row.id selected current stored
    rw [rowTracks.expression] at inReach
    obtain ⟨db'', run', planned', tracks', tick, newest, times⟩ :=
      @Tracks.hit row previous before current call.ownerId call.now call.leaseSeconds
        (tracks.frame kept frame) (kept.draining.trans active)
          (frame.row.trans stored) plannable inReach
    rw [planned] at planned'
    cases planned'
    have planTimes : ∀ {a b : PlannerDb}, Frame row.id a b → plannedTimes row.id b =
        plannedTimes row.id a := fun frame => congrArg (List.map PlannedRun.plannedAtUtc) frame.runs
    rw [if_pos (by simp [reaches, active, selected])]
    refine ⟨tracks'.frame keptAfter frameAfter, .inl ⟨tick, newest, ?_⟩⟩
    exact (planTimes frameAfter).trans (times.trans (by rw [planTimes frame]))
  · obtain ⟨kept, frames⟩ := @planEach_frame call (db.dueIds call) db
    have frame := frames row.id selected
    have times : plannedTimes row.id (planDue db call).1 = plannedTimes row.id db :=
      congrArg (List.map PlannedRun.plannedAtUtc) frame.runs
    split
    · next reached =>
      have notPlannable : current.plannable call.ownerId call.now = false := by
        simp only [reaches, Bool.and_eq_true, Bool.or_eq_true, decide_eq_true_eq, selected,
          or_false,
          stored, Option.all_some, Bool.not_eq_true'] at reached
        exact reached.2
      have miss := tracks.miss later (by
        intro other found next isNext
        rw [stored] at found
        cases found
        by_contra due
        have plannable : current.plannable call.ownerId call.now = true :=
          rowTracks.plannable_iff.mpr ⟨next, isNext, not_lt.mp due⟩
        rw [notPlannable] at plannable
        cases plannable)
      exact ⟨miss.1.frame kept frame, .inr ⟨miss.2, times⟩⟩
    · exact ⟨tracks.frame kept frame, times⟩

end PlanDue

/-! ## Runs -/

theorem planningTimes_sublist (scheduleId : String) (steps : List PlannerStep) (db : PlannerDb) :
    (planningTimes scheduleId db steps).Sublist (callTimes steps) := by
  induction steps generalizing db with
  | nil => exact List.Sublist.refl _
  | cons head steps ih =>
    cases head with
    | planDue call =>
      unfold planningTimes
      split
      · exact (ih _).cons_cons call.now
      · exact (ih _).cons call.now
    | setDraining draining => exact ih _

theorem Tracks.after_run {row : ScheduleRow} {previous : ℚ} {db db' : PlannerDb}
    {steps : List PlannerStep} (tracks : Tracks row previous db)
    (ordered : (previous :: callTimes steps).Pairwise (· ≤ ·))
    (searchable : Along step Searchable db steps) (reached : run step db steps = some db') :
    ∃ planned, Covers (occurrences row.expression row.createdAt) previous
        (planningTimes row.id db steps) planned ∧
      plannedTimes row.id db' = plannedTimes row.id db ++ planned ∧
      Tracks row ((planningTimes row.id db steps).getLastD previous) db' := by
  induction steps generalizing db previous with
  | nil =>
    cases reached
    exact ⟨[], .nil _, (List.append_nil _).symm, tracks⟩
  | cons head steps ih =>
    obtain ⟨between, taken, rest⟩ := run_cons_eq_some.mp reached
    have searchableRest := searchable.2 between taken
    cases head with
    | setDraining draining =>
      cases taken
      exact ih ⟨tracks.unique, tracks.stored, tracks.runs⟩ ordered searchableRest rest
    | planDue call =>
      cases taken
      have later : previous ≤ call.now :=
        (List.pairwise_cons.mp ordered).1 _ (List.mem_cons_self ..)
      have orderedRest : (call.now :: callTimes steps).Pairwise (· ≤ ·) :=
        (List.pairwise_cons.mp ordered).2
      have effect := tracks.after_call later searchable.1
      unfold planningTimes
      split
      · next reaches =>
        rw [if_pos reaches] at effect
        obtain ⟨tracks', made⟩ := effect
        obtain ⟨planned, covers, times, last⟩ := ih tracks' orderedRest searchableRest rest
        rw [List.getLastD_cons]
        rcases made with ⟨tick, newest, more⟩ | ⟨empty, same⟩
        · refine ⟨tick :: planned, .hit newest covers, ?_, last⟩
          rw [times, more, List.append_assoc, List.singleton_append]
        · refine ⟨planned, .miss empty covers, ?_, last⟩
          rw [times, same]
      · next put =>
        rw [if_neg put] at effect
        obtain ⟨tracks', same⟩ := effect
        have ordered' : (previous :: callTimes steps).Pairwise (· ≤ ·) :=
          ordered.sublist ((List.sublist_cons_self ..).cons_cons previous)
        obtain ⟨planned, covers, times, last⟩ := ih tracks' ordered' searchableRest rest
        refine ⟨planned, covers, ?_, last⟩
        rw [times, same]

/-- Planning covers every occurrence once, in every run whose calls stay in reach of the
two searches. -/
theorem plan_due_covers {row : ScheduleRow} {db db' : PlannerDb} {steps : List PlannerStep}
    (created : Created row db) (ordered : (row.createdAt :: callTimes steps).Pairwise (· ≤ ·))
    (searchable : Along step Searchable db steps) (reached : run step db steps = some db') :
    Covered row db steps db' := by
  obtain ⟨planned, covers, times, tracks⟩ := created.tracks.after_run ordered searchable reached
  have none : plannedTimes row.id db = [] := by
    unfold plannedTimes
    rw [List.map_eq_nil_iff, List.filter_eq_nil_iff]
    intro run member own
    exact created.noRuns run member (of_decide_eq_true own)
  rw [none, List.nil_append] at times
  obtain ⟨current, stored, rowTracks⟩ := tracks.stored
  refine ⟨times ▸ covers, ?_, current, stored, rowTracks.next, rowTracks.disabled⟩
  rw [times]
  have looks := ordered.sublist ((planningTimes_sublist row.id steps db).cons_cons row.createdAt)
  exact (covers.increasing looks).imp fun less => less.ne

/-! ## An hourly schedule in UTC -/

def utc : ZoneInfo where
  utcoffset _ := 0
  wallOffset _ _ := 0
  folds _ := ⟨false, rfl⟩
  setback t u before back := by
    simp only [Int.cast_zero, add_zero] at back
    exact absurd before (not_lt.mpr back)

/-- The wall minutes of `0 * * * *`. -/
def hourlyMinutes : Set ℤ := { m | ∃ h : ℤ, m = 60 * h ∧ -17259888 ≤ h ∧ h < 70389528 }

/-- `0 * * * *`. -/
def hourly : Croniter where
  matching := hourlyMinutes
  getNext cursor :=
    let hour := max (-17259888) (⌊cursor / 3600⌋ + 1)
    if hour < 70389528 then some (60 * hour) else none
  getPrev cursor :=
    let hour := min 70389527 (⌈cursor / 3600⌉ - 1)
    if -17259888 ≤ hour then some (60 * hour) else none
  representable := by
    rintro minute ⟨h, rfl, low, high⟩
    have first := @lt_yearOf_minute 0 (60 * h)
    have last := @lt_yearOf_minute 9999 (60 * h)
    have start : yearStart (0 + 1) = 60 * (-17259888) := by decide
    have finish : yearStart (9999 + 1) = 60 * 70389528 := by decide
    rw [start] at first
    rw [finish] at last
    omega
  getNext_eq_some := by
    intro cursor minute
    have floor : ∀ h : ℤ, cursor < 60 * (60 * h : ℤ) ↔ ⌊cursor / 3600⌋ + 1 ≤ h := by
      intro h
      rw [Int.add_one_le_iff, Int.floor_lt, div_lt_iff₀ (by norm_num)]
      push_cast
      constructor <;> intro <;> linarith
    have least : max (-17259888) (⌊cursor / 3600⌋ + 1) < 70389528 →
        IsLeast { m | m ∈ hourlyMinutes ∧ cursor < 60 * m }
          (60 * max (-17259888) (⌊cursor / 3600⌋ + 1)) := by
      intro inRange
      refine ⟨⟨⟨_, rfl, le_max_left .., inRange⟩, (floor _).mpr (le_max_right ..)⟩, ?_⟩
      rintro m ⟨⟨h, rfl, low, high⟩, after⟩
      have := (floor h).mp after
      omega
    constructor
    · intro found
      dsimp only at found
      split at found
      · next inRange =>
        cases found
        exact least inRange
      · cases found
    · intro isLeast
      obtain ⟨⟨h, rfl, low, high⟩, after⟩ := isLeast.1
      have reached := (floor h).mp after
      have inRange : max (-17259888) (⌊cursor / 3600⌋ + 1) < 70389528 := by omega
      dsimp only
      rw [if_pos inRange, (least inRange).unique isLeast]
  getPrev_eq_some := by
    intro cursor minute
    have ceil : ∀ h : ℤ, 60 * (60 * h : ℤ) < cursor ↔ h ≤ ⌈cursor / 3600⌉ - 1 := by
      intro h
      rw [Int.le_sub_one_iff, Int.lt_ceil, lt_div_iff₀ (by norm_num)]
      push_cast
      constructor <;> intro <;> linarith
    have greatest : -17259888 ≤ min 70389527 (⌈cursor / 3600⌉ - 1) →
        IsGreatest { m | m ∈ hourlyMinutes ∧ 60 * m < cursor }
          (60 * min 70389527 (⌈cursor / 3600⌉ - 1)) := by
      intro inRange
      refine ⟨⟨⟨_, rfl, inRange, by omega⟩, (ceil _).mpr (min_le_right ..)⟩, ?_⟩
      rintro m ⟨⟨h, rfl, low, high⟩, before⟩
      have := (ceil h).mp before
      omega
    constructor
    · intro found
      dsimp only at found
      split at found
      · next inRange =>
        cases found
        exact greatest inRange
      · cases found
    · intro isGreatest
      obtain ⟨⟨h, rfl, low, high⟩, before⟩ := isGreatest.1
      have reached := (ceil h).mp before
      have inRange : -17259888 ≤ min 70389527 (⌈cursor / 3600⌉ - 1) := by omega
      dsimp only
      rw [if_pos inRange, (greatest inRange).unique isGreatest]

theorem hourly_occurs {t : ℚ} :
    t ∈ cronOccurrences hourly utc ↔ ∃ h : ℤ, t = 3600 * h ∧ -17259888 ≤ h ∧ h < 70389528 := by
  unfold cronOccurrences ZoneInfo.wallTime
  constructor
  · rintro ⟨minute, ⟨h, rfl, low, high⟩, wall⟩
    refine ⟨h, ?_, low, high⟩
    simp only [utc, Int.cast_zero, add_zero] at wall
    rw [wall]
    push_cast
    ring
  · rintro ⟨h, rfl, low, high⟩
    refine ⟨60 * h, ⟨h, rfl, low, high⟩, ?_⟩
    simp only [utc, Int.cast_zero, add_zero]
    push_cast
    ring

theorem hourly_least {h : ℤ} (low : -17259888 ≤ h) (high : h < 70389528)
    (before : 3600 * h - 3600 ≤ now) (after : now < 3600 * h) :
    IsLeast (After (cronOccurrences hourly utc) now) (3600 * h) := by
  refine ⟨⟨hourly_occurs.mpr ⟨h, rfl, low, high⟩, after⟩, ?_⟩
  rintro t ⟨occurs, later⟩
  obtain ⟨k, rfl, -⟩ := hourly_occurs.mp occurs
  have : (h : ℚ) < k + 1 := by linarith
  have : h ≤ k := by
    have : h < k + 1 := by exact_mod_cast this
    omega
  have : (h : ℚ) ≤ k := by exact_mod_cast this
  linarith

theorem hourly_greatest {h : ℤ} (low : -17259888 ≤ h) (high : h < 70389528)
    (upTo : 3600 * h ≤ now) (beyond : now < 3600 * h + 3600) :
    IsGreatest (UpTo (cronOccurrences hourly utc) now) (3600 * h) := by
  refine ⟨⟨hourly_occurs.mpr ⟨h, rfl, low, high⟩, upTo⟩, ?_⟩
  rintro t ⟨occurs, earlier⟩
  obtain ⟨k, rfl, -⟩ := hourly_occurs.mp occurs
  have : (k : ℚ) < h + 1 := by linarith
  have : k ≤ h := by
    have : k < h + 1 := by exact_mod_cast this
    omega
  have : (k : ℚ) ≤ h := by exact_mod_cast this
  linarith

/-- An hourly schedule as `create` stores it half an hour before the hour `hour`. -/
def hourlyRow (hour : ℤ) : ScheduleRow :=
  { id := "hourly", expression := .cron hourly utc, nextRunAtUtc := some (3600 * hour),
    createdAt := 3600 * hour - 1800, updatedAt := 3600 * hour - 1800 }

def hourlyDb (hour : ℤ) : PlannerDb := { schedules := [hourlyRow hour] }

theorem hourly_created {hour : ℤ} (low : -17259888 ≤ hour) (high : hour < 70389528) :
    Created (hourlyRow hour) (hourlyDb hour) where
  unique := by simp [hourlyDb]
  stored := by simp [hourlyDb, lookup]
  enabled := rfl
  latest := rfl
  free := rfl
  first := by
    refine ⟨_, rfl, hourly_least low high ?_ ?_⟩
    · show (3600 * hour : ℚ) - 3600 ≤ 3600 * hour - 1800
      linarith
    · show (3600 * hour : ℚ) - 1800 < 3600 * hour
      linarith
  noRuns := by simp [hourlyDb]

def hourlyCall (hour : ℤ) : PlanCall := { ownerId := "owner", now := 3600 * hour + 1800 }

theorem hourly_inReach {hour : ℤ} (low : -17259888 ≤ hour) (high : hour + 1 < 70389528)
    (past :
      (planSearch hourly utc (hourlyCall hour).now).pastHorizon ≤ yearOf (60 * (60 * hour : ℤ)))
    (future : yearOf (60 * (60 * (hour + 1) : ℤ)) ≤
      (planSearch hourly utc (hourlyCall hour).now).futureHorizon) :
    InReach (.cron hourly utc) (hourlyCall hour).now := by
  have wall : ∀ t : ℚ, utc.wallTime t = t := by
    intro t
    simp [ZoneInfo.wallTime, utc]
  constructor
  · refine ⟨3600 * hour, 60 * hour, hourly_greatest low (by omega) ?_ ?_, ?_, past, .inl ?_⟩
    · show (3600 * hour : ℚ) ≤ 3600 * hour + 1800
      linarith
    · show (3600 * hour + 1800 : ℚ) < 3600 * hour + 3600
      linarith
    · rw [wall]
      push_cast
      ring
    · intro t same
      rw [wall, wall] at same
      exact same.le
  · refine ⟨3600 * (hour + 1 : ℤ), 60 * (hour + 1), hourly_least (by omega) high ?_ ?_, ?_, future,
      .inl ?_⟩
    · show 3600 * ((hour + 1 : ℤ) : ℚ) - 3600 ≤ 3600 * hour + 1800
      push_cast
      linarith
    · show (3600 * hour + 1800 : ℚ) < 3600 * ((hour + 1 : ℤ) : ℚ)
      push_cast
      linarith
    · rw [wall]
      push_cast
      ring
    · intro t same
      rw [wall, wall] at same
      exact same.ge

/-- The run of the first hour of 1970 is planned half an hour after it. -/
theorem plan_due_covers_hourly :
    ∃ db', run step (hourlyDb 1) [.planDue (hourlyCall 1)] = some db' ∧
      plannedTimes "hourly" db' = [3600] ∧
      Covered (hourlyRow 1) (hourlyDb 1) [.planDue (hourlyCall 1)] db' := by
  refine ⟨(planDue (hourlyDb 1) (hourlyCall 1)).1, rfl, by decide +kernel, ?_⟩
  refine plan_due_covers (hourly_created (by decide) (by decide)) ?_ ⟨?_, fun _ _ => trivial⟩ rfl
  · decide +kernel
  · intro row member _
    rw [List.mem_singleton.mp member]
    exact hourly_inReach (by decide) (by decide) (by decide +kernel) (by decide +kernel)

/-- The last hour of the calendar: `_cron_next` raises, its run is not planned and the
schedule stays due. -/
theorem last_hour_not_covered :
    Created (hourlyRow 70389527) (hourlyDb 70389527) ∧
      ((hourlyRow 70389527).createdAt :: callTimes [.planDue (hourlyCall 70389527)]).Pairwise
        (· ≤ ·) ∧
      ∃ db', run step (hourlyDb 70389527) [.planDue (hourlyCall 70389527)] = some db' ∧
        ¬ Covered (hourlyRow 70389527) (hourlyDb 70389527)
          [.planDue (hourlyCall 70389527)] db' := by
  refine ⟨hourly_created (by decide) (by decide), by decide +kernel,
    (planDue (hourlyDb 70389527) (hourlyCall 70389527)).1, rfl, ?_⟩
  intro covered
  have noRuns : plannedTimes (hourlyRow 70389527).id
      (planDue (hourlyDb 70389527) (hourlyCall 70389527)).1 = [] := by decide +kernel
  have times : planningTimes (hourlyRow 70389527).id (hourlyDb 70389527)
      [.planDue (hourlyCall 70389527)] = [3600 * 70389527 + 1800] := by decide +kernel
  have covers := covered.covers
  rw [noRuns, times] at covers
  cases covers with
  | miss empty rest =>
    rw [Set.eq_empty_iff_forall_notMem] at empty
    refine empty (3600 * (70389527 : ℤ)) ⟨?_, ?_, ?_⟩
    · exact hourly_occurs.mpr ⟨_, rfl, by decide, by decide⟩
    · decide +kernel
    · decide +kernel

end Copilotd.Guarantees.SchedulePlanning
