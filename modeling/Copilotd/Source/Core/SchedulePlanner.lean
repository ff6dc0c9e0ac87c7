import Copilotd.Base.Table
import Copilotd.Source.Core.ScheduleTime

/-!
# The schedule planner

Source: `core/scheduler.py` (`ScheduleRepository.plan_due` and `_plan_one` 571-712,
`_parse_definition` 3099-3104), over `schedules`, `schedule_runs` and the
`worker_state` of `scheduler_state`.

`_plan_one` is one transaction: where it raises, its writes are rolled back and
`plan_due` ends, with the definitions planned before it committed.  A planned run keeps
the columns that the planner writes with a value of its own; its `run_id` is a
`uuid5` of the schedule and the key.  Left out: the event log, and every other writer
of the two tables.
-/
namespace Copilotd.Source.Core.SchedulePlanner

open Base.Table Source.Core.ScheduleTime

inductive ScheduleState where
  | enabled | disabled | deleted | needsRecreate
  deriving DecidableEq

inductive MisfirePolicy where
  | latest | skip
  deriving DecidableEq

/-- A row of `schedules`; `expression` stands for the two text columns. -/
structure ScheduleRow where
  id : String
  expression : Expression
  misfirePolicy : MisfirePolicy := .latest
  misfireGraceSeconds : Option ℚ := none
  state : ScheduleState := .enabled
  nextRunAtUtc : Option ℚ
  lastPlannedAtUtc : Option ℚ := none
  plannerOwner : Option String := none
  plannerLeaseExpiresAt : Option ℚ := none
  plannerFenceToken : Int := 0
  createdAt : ℚ
  updatedAt : ℚ

/-- A row of `schedule_runs` as the planner inserts it. -/
structure PlannedRun where
  scheduleId : String
  plannedKey : ℤ
  plannedAtUtc : ℚ
  createdAt : ℚ

structure PlannerDb where
  schedules : List ScheduleRow := []
  runs : List PlannedRun := []
  /-- `scheduler_state.worker_state = 'draining'`. -/
  draining : Bool := false

def parseDefinition (row : ScheduleRow) : ParsedSchedule :=
  parseSchedule row.expression row.createdAt

/-- The condition that `plan_due` selects by and `_plan_one` claims by. -/
def ScheduleRow.plannable (row : ScheduleRow) (ownerId : String) (now : ℚ) : Bool :=
  row.state = .enabled ∧ row.nextRunAtUtc.any (fun next => next ≤ now) ∧
    (row.plannerLeaseExpiresAt.all (fun expires => expires ≤ now) ∨ row.plannerOwner = some ownerId)

/-- The claiming `UPDATE` of `_plan_one`. -/
def ScheduleRow.claimed (row : ScheduleRow) (ownerId : String) (now leaseSeconds : ℚ) :
    ScheduleRow :=
  { row with
    plannerOwner := some ownerId
    plannerLeaseExpiresAt := some (now + leaseSeconds)
    plannerFenceToken := row.plannerFenceToken + 1
    updatedAt := now }

/-- The final `UPDATE` of `_plan_one`. -/
def ScheduleRow.advanced (row : ScheduleRow) (nextRun latestDue : Option ℚ) (now : ℚ) :
    ScheduleRow :=
  { row with
    nextRunAtUtc := nextRun
    lastPlannedAtUtc := latestDue
    state := if nextRun = none then .disabled else row.state
    plannerOwner := none
    plannerLeaseExpiresAt := none
    updatedAt := now }

def ScheduleRow.skipMisfire (row : ScheduleRow) (latestDue now : ℚ) : Bool :=
  row.misfirePolicy = .skip ∧ latestDue < now - row.misfireGraceSeconds.getD 0

/-- `INSERT … ON CONFLICT(schedule_id, planned_key) DO NOTHING`. -/
def insertRun (runs : List PlannedRun) (run : PlannedRun) : List PlannedRun :=
  if runs.any fun other => other.scheduleId = run.scheduleId ∧ other.plannedKey = run.plannedKey
  then runs
  else runs ++ [run]

/-- The runs after `latest_due` is known, and the run that `_plan_one` returns. -/
def planRun (runs : List PlannedRun) (row : ScheduleRow) (latestDue : Option ℚ) (now : ℚ) :
    List PlannedRun × Option PlannedRun :=
  match latestDue with
  | none => (runs, none)
  | some latest =>
    if row.skipMisfire latest now then (runs, none)
    else
      let key := plannedKey latest
      let runs := insertRun runs
        { scheduleId := row.id, plannedKey := key, plannedAtUtc := latest, createdAt := now }
      (runs, runs.find? fun run => run.scheduleId = row.id ∧ run.plannedKey = key)

def planOne (db : PlannerDb) (scheduleId ownerId : String) (now leaseSeconds : ℚ) :
    Except ScheduleTimeError (PlannerDb × Option PlannedRun) :=
  if db.draining then .ok (db, none)
  else
    let mine (row : ScheduleRow) : Bool := row.id = scheduleId ∧ row.plannable ownerId now
    if rowcount mine db.schedules ≠ 1 then .ok (db, none)
    else
      let schedules :=
        updateWhere mine (fun row => row.claimed ownerId now leaseSeconds) db.schedules
      match lookup ScheduleRow.id scheduleId schedules with
      | none => .ok ({ db with schedules }, none)
      | some row =>
        match row.nextRunAtUtc with
        -- The claim asks for a column that is not null.
        | none => .ok ({ db with schedules }, none)
        | some firstDue => do
          let latestDue ← (parseDefinition row).latestDue firstDue now
          let (runs, run) := planRun db.runs row latestDue now
          let nextRun ← (parseDefinition row).nextAfter now
          let schedules := updateWhere
            (fun row => row.id = scheduleId ∧ row.plannerOwner = some ownerId)
            (fun row => row.advanced nextRun latestDue now) schedules
          .ok ({ db with schedules, runs }, run)

/-- The arguments of `plan_due`. -/
structure PlanCall where
  ownerId : String
  now : ℚ
  limit : Nat := 100
  leaseSeconds : ℚ := 60

/-- `ORDER BY next_run_at_utc, id`. -/
def ScheduleRow.plansBefore (a b : ScheduleRow) : Bool :=
  a.nextRunAtUtc.getD 0 < b.nextRunAtUtc.getD 0 ∨
    (a.nextRunAtUtc.getD 0 = b.nextRunAtUtc.getD 0 ∧ a.id ≤ b.id)

/-- The ids that `plan_due` goes through; none while the worker drains. -/
def PlannerDb.dueIds (db : PlannerDb) (call : PlanCall) : List String :=
  if db.draining then []
  else
    let due := db.schedules.filter fun row => row.plannable call.ownerId call.now
    ((due.mergeSort ScheduleRow.plansBefore).take call.limit).map ScheduleRow.id

/-- The loop of `plan_due`, with the database it leaves and what it returns or raises. -/
def planEach (call : PlanCall) :
    PlannerDb → List String → PlannerDb × Except ScheduleTimeError (List PlannedRun)
  | db, [] => (db, .ok [])
  | db, id :: ids =>
    match planOne db id call.ownerId call.now call.leaseSeconds with
    | .error error => (db, .error error)
    | .ok (db, run) =>
      let (db, planned) := planEach call db ids
      (db, planned.map fun planned => run.toList ++ planned)

def planDue (db : PlannerDb) (call : PlanCall) :
    PlannerDb × Except ScheduleTimeError (List PlannedRun) :=
  planEach call db (db.dueIds call)

/-- What happens to the two tables: calls of `plan_due` by any owner, and the worker
state going to and from `draining` at a restart. -/
inductive PlannerStep where
  | planDue (call : PlanCall)
  | setDraining (draining : Bool)

def step (db : PlannerDb) : PlannerStep → Option PlannerDb
  | .planDue call => some (planDue db call).1
  | .setDraining draining => some { db with draining }

end Copilotd.Source.Core.SchedulePlanner
