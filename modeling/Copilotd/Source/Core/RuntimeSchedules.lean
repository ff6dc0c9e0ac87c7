import Copilotd.Base.Payloads

/-!
# Runtime schedules

Source: `core/reducer.py` (`_apply_runtime_schedule_event`, what `_apply_user_message` and
`_create_runtime_observed_submission` do to the schedule of a message, and the topic `schedules` of
`_apply_snapshot_observed`) over `runtime_schedules` and `pending_runtime_schedule_triggers`; the
updates of `storage/leases.py`, `core/recovery.py` and `ops/service.py` that make schedules unknown.

The rows of one session.  Left out: the columns that no statement here reads (times, the next run,
the prompt's hash, ids of events and snapshots) and the stored prompts.
-/
namespace Copilotd.Source.Core.RuntimeSchedules

open Base Base.Payloads

structure RuntimeSchedule where
  recurrence : Option String
  state : String
  recurring : Bool
  scheduleKind : String
  deriving DecidableEq

structure Store where
  /-- `runtime_schedules`, by `runtime_schedule_id`. -/
  schedules : List (String × RuntimeSchedule) := []
  /-- The keys of `pending_runtime_schedule_triggers`. -/
  triggers : List String := []
  deriving DecidableEq

variable (text : Text) (store : Store)

/-- `UPDATE runtime_schedules SET … WHERE runtime_schedule_id = ?`. -/
def Store.update (scheduleId : String) (set : RuntimeSchedule → RuntimeSchedule) : Store :=
  { store with
    schedules := store.schedules.map fun entry =>
      (entry.1, if entry.1 = scheduleId then set entry.2 else entry.2) }

/-- `str(value or … or "").strip()`. -/
def scheduleIdOf (values : List Json) : String :=
  text.strip (Json.text text.toPython (either (values ++ [.str ""])))

/-- `recurrence IS NULL OR TRIM(recurrence) = ''`. -/
def blank (recurrence : Option String) : Bool :=
  recurrence.all fun value => value.toList.all (· = ' ')

/-! ## Events -/

/-- The id in the payload of a `session.schedule_…` event. -/
def eventScheduleId (data : Json) : String :=
  scheduleIdOf text [field "id" data, field "scheduleId" data]

def recurringEvent (data : Json) : Bool :=
  (field "recurring" data).truthy || (field "cron" data).truthy || (field "interval" data).truthy ||
    (field "selfPaced" data).truthy

/-- The row of `session.schedule_created`. -/
def createdSchedule (data : Json) (old : Option RuntimeSchedule) : RuntimeSchedule where
  recurrence := Json.optionalText text.toPython
    (some (either [field "cron" data, field "interval" data, field "at" data, field "tz" data]))
  state :=
    match old with
    | some row => if row.state ∈ ["cancelled", "triggered"] then row.state else "active"
    | none => "active"
  recurring := recurringEvent data
  scheduleKind := if recurringEvent data then "every" else "after"

/-- `session.schedule_created`. -/
def Store.created (data : Json) : Store :=
  let scheduleId := eventScheduleId text data
  if scheduleId = "" then store
  else
    { store with
      schedules := Dict.set scheduleId
        (createdSchedule text data (Dict.get scheduleId store.schedules)) store.schedules }

/-- `session.schedule_cancelled`. -/
def Store.cancelled (data : Json) : Store :=
  let scheduleId := eventScheduleId text data
  if scheduleId = "" then store
  else store.update scheduleId fun row =>
    { row with state := if row.state = "triggered" then row.state else "cancelled" }

/-- `session.schedule_rearmed`. -/
def Store.rearmed (data : Json) : Store :=
  let scheduleId := eventScheduleId text data
  if scheduleId = "" then store
  else store.update scheduleId fun row =>
    { row with state := if row.state ∈ ["cancelled", "triggered"] then row.state else "active" }

/-! ## Messages -/

def runtimeScheduleId (data raw : Json) : Option String :=
  orElse (value text.toPython data "runtimeScheduleId")
    (value text.toPython raw "runtimeScheduleId")

/-- The update of `_apply_user_message`. -/
def fire (row : RuntimeSchedule) : RuntimeSchedule :=
  if row.state ∈ ["active", "unknown"] ∧ blank row.recurrence then { row with state := "triggered" }
  else row

/-- The update of `_create_runtime_observed_submission`. -/
def fireOnce (row : RuntimeSchedule) : RuntimeSchedule :=
  if row.state ∈ ["active", "unknown"] ∧ (row.recurring = false ∨ row.scheduleKind = "after") then
    { row with state := "triggered" }
  else row

/-- A `user.message` that carries the id of a schedule. -/
def Store.message (scheduleId : String) : Store :=
  let fired := store.update scheduleId fire
  let recorded :=
    if (Dict.get scheduleId fired.schedules).isSome ∨ scheduleId ∈ fired.triggers then fired
    else { fired with triggers := fired.triggers ++ [scheduleId] }
  recorded.update scheduleId fireOnce

/-! ## Snapshots -/

/-- The id of an item of a snapshot. -/
def itemScheduleId (item : Json) : String :=
  scheduleIdOf text [field "id" item, field "scheduleId" item]

def itemState (item : Json) : String :=
  text.lower (Json.text text.toPython
    (either [field "state" item, field "status" item, .str "active"]))

def itemRecurrence (item : Json) : Option (Option String) :=
  columnText (either [field "cron" item, field "intervalMs" item, field "at" item,
    field "recurrence" item])

/-- The row of an item. -/
def listedSchedule (item : Json) (recurrence : Option String) (old : Option RuntimeSchedule) :
    RuntimeSchedule where
  recurrence
  state :=
    match old with
    | some row =>
      if row.state ∈ ["cancelled", "triggered", "failed"] then row.state else itemState text item
    | none => itemState text item
  recurring := (field "recurring" item).truthy
  scheduleKind := if (field "recurring" item).truthy then "every" else "after"

/-- A trigger that came before the row. -/
def Store.consumeTrigger (scheduleId : String) : Store :=
  let fired :=
    if scheduleId ∈ store.triggers then
      store.update scheduleId fun row =>
        if blank row.recurrence then { row with state := "triggered" } else row
    else store
  { fired with triggers := fired.triggers.filter (· ≠ scheduleId) }

/-- An item of a snapshot, which raises when it cannot be bound. -/
def Store.list (item : Json) : Option Store :=
  let scheduleId := itemScheduleId text item
  if scheduleId = "" then some store
  else
    (itemRecurrence item).map fun recurrence =>
      Store.consumeTrigger
        { store with
          schedules := Dict.set scheduleId
            (listedSchedule text item recurrence (Dict.get scheduleId store.schedules))
            store.schedules }
        scheduleId

def Store.listAll : List Json → Store → Option Store
  | [], store => some store
  | item :: items, store => (store.list text item).bind (Store.listAll items)

/-- Active schedules that a current snapshot does not list. -/
def Store.markUnknown (seen : List String) : Store :=
  { store with
    schedules := store.schedules.map fun entry =>
      (entry.1,
        if entry.2.state = "active" ∧ entry.1 ∉ seen then { entry.2 with state := "unknown" }
        else entry.2) }

/-- The topic `schedules` of `_apply_snapshot_observed`; `negative` is `fresh and caught_up`. -/
def Store.snapshot (values : Json) (negative : Bool) : Option Store :=
  if (field "schedules" values).truthy || negative then
    (dictItems "schedules" values).bind fun items =>
      (store.listAll text items).map fun listed =>
        if negative then
          listed.markUnknown ((items.map (itemScheduleId text)).filter (· ≠ ""))
        else listed
  else some store

/-- The update of a new owner, of recovery, of a host that stops and of a forced teardown. -/
def Store.lost : Store :=
  { store with
    schedules := store.schedules.map fun entry =>
      (entry.1,
        if entry.2.state ∈ ["active", "unknown"] then { entry.2 with state := "unknown" }
        else entry.2) }

/-! ## The reducer -/

structure World where
  store : Store := {}
  /-- The topic `schedules` has a row in `reconciliation_state`. -/
  requested : Bool := false

inductive Label where
  | created (data : Json)
  | cancelled (data : Json)
  | rearmed (data : Json)
  | message (data raw : Json)
  | snapshotRequested
  /-- `copilotd.snapshot.observed` for `schedules`; `negative` is `fresh and caught_up`. -/
  | snapshot (values : Json) (negative : Bool)
  | lost

/-- One event; an event that makes the reducer raise is not enabled.  A snapshot that nobody
requested is only recorded as an incident. -/
def step (w : World) : Label → Option World
  | .created data => some { w with store := w.store.created text data }
  | .cancelled data => some { w with store := w.store.cancelled text data }
  | .rearmed data => some { w with store := w.store.rearmed text data }
  | .message data raw =>
    match runtimeScheduleId text data raw with
    | none => some w
    | some scheduleId => some { w with store := w.store.message scheduleId }
  | .snapshotRequested => some { w with requested := true }
  | .snapshot values negative =>
    if w.requested then (w.store.snapshot text values negative).map fun store => { w with store }
    else some w
  | .lost => some { w with store := w.store.lost }

/-! ## The row and the trigger of one schedule -/

/-- The row of the schedule and whether a trigger waits. -/
structure View where
  row : Option RuntimeSchedule
  waiting : Bool

def view (k : String) (store : Store) : View := ⟨Dict.get k store.schedules, k ∈ store.triggers⟩

/-- The items of the schedule; an item without an id is nobody's. -/
def mine (k : String) (items : List Json) : List Json :=
  items.filter fun item => itemScheduleId text item = k ∧ k ≠ ""

variable {text store} {k : String}

theorem get_update (k : String) (store : Store) (scheduleId : String)
    (set : RuntimeSchedule → RuntimeSchedule) :
    Dict.get k (store.update scheduleId set).schedules =
      (Dict.get k store.schedules).map fun row => if k = scheduleId then set row else row :=
  Dict.get_mapValues fun key row => if key = scheduleId then set row else row

theorem view_update (scheduleId : String) (set : RuntimeSchedule → RuntimeSchedule) :
    view k (store.update scheduleId set) =
      ⟨(Dict.get k store.schedules).map fun row => if k = scheduleId then set row else row,
        k ∈ store.triggers⟩ := by
  unfold view
  rw [get_update]
  rfl

variable {scheduleId : String}

theorem view_update_other (store : Store) (other : k ≠ scheduleId)
    (set : RuntimeSchedule → RuntimeSchedule) :
    view k (store.update scheduleId set) = view k store := by
  rw [view_update]
  simp [other, view]

theorem view_created (data : Json) :
    view k (store.created text data) =
      if eventScheduleId text data = k ∧ k ≠ "" then
        ⟨some (createdSchedule text data (view k store).row), (view k store).waiting⟩
      else view k store := by
  unfold Store.created
  by_cases empty : eventScheduleId text data = ""
  · have never : ¬ (eventScheduleId text data = k ∧ k ≠ "") := fun ⟨same, filled⟩ =>
      filled (same ▸ empty)
    simp [empty]
  · by_cases same : k = eventScheduleId text data
    · subst same
      simp [empty, view]
    · simp [empty, view, Dict.get_set, same, Ne.symm same]

theorem view_message_self (store : Store) :
    view k (store.message k) =
      match (view k store).row with
      | none => ⟨none, true⟩
      | some row => ⟨some (fireOnce (fire row)), (view k store).waiting⟩ := by
  unfold Store.message
  rw [view_update]
  have fired := get_update k store k fire
  have same : (store.update k fire).triggers = store.triggers := rfl
  generalize store.update k fire = after at fired same
  cases found : Dict.get k store.schedules with
  | none =>
    by_cases waiting : k ∈ store.triggers
    · simp [fired, same, view, found, waiting]
    · simp [fired, same, view, found, waiting]
  | some row =>
    simp [fired, same, view, found]

theorem view_message_other (other : k ≠ scheduleId) :
    view k (store.message scheduleId) = view k store := by
  unfold Store.message
  rw [view_update_other _ other]
  split
  · exact view_update_other store other fire
  · have fired := view_update_other store other fire
    simp only [view, View.mk.injEq] at fired ⊢
    refine ⟨fired.1, ?_⟩
    simp only [List.mem_append, List.mem_singleton, other, or_false]
    exact fired.2

theorem view_consume_self (store : Store) :
    view k (store.consumeTrigger k) =
      ⟨(view k store).row.map fun row =>
        if (view k store).waiting = true ∧ blank row.recurrence = true then
          { row with state := "triggered" }
        else row, false⟩ := by
  unfold Store.consumeTrigger
  by_cases waiting : k ∈ store.triggers
  · simp [view, waiting, get_update]
  · simp [view, waiting]

theorem view_consume_other (other : k ≠ scheduleId) :
    view k (store.consumeTrigger scheduleId) = view k store := by
  unfold Store.consumeTrigger
  by_cases waiting : scheduleId ∈ store.triggers
  · rw [if_pos waiting]
    have fired := view_update_other store other fun row =>
      if blank row.recurrence then { row with state := "triggered" } else row
    simp only [view, View.mk.injEq] at fired
    simp only [view, View.mk.injEq]
    refine ⟨fired.1, ?_⟩
    rw [← fired.2]
    simp [other]
  · rw [if_neg waiting]
    simp [view, other]

theorem mine_cons_self {item : Json} (items : List Json)
    (here : itemScheduleId text item = k ∧ k ≠ "") :
    mine text k (item :: items) = item :: mine text k items := by
  unfold mine
  rw [List.filter_cons_of_pos (by simpa using here)]

theorem mine_cons_other {item : Json} (items : List Json)
    (other : ¬ (itemScheduleId text item = k ∧ k ≠ "")) :
    mine text k (item :: items) = mine text k items := by
  unfold mine
  rw [List.filter_cons_of_neg (by simpa using other)]

theorem view_list (k : String) {item : Json} {after : Store}
    (listed : store.list text item = some after) :
    (¬ (itemScheduleId text item = k ∧ k ≠ "") ∧ view k after = view k store) ∨
      (itemScheduleId text item = k ∧ k ≠ "") ∧
      ∃ recurrence, itemRecurrence item = some recurrence ∧
        view k after = ⟨some (
          let row := listedSchedule text item recurrence (view k store).row
          if (view k store).waiting = true ∧ blank recurrence = true then
            { row with state := "triggered" }
          else row), false⟩ := by
  unfold Store.list at listed
  by_cases empty : itemScheduleId text item = ""
  · rw [if_pos empty] at listed
    cases listed
    exact .inl ⟨fun ⟨same, filled⟩ => filled (same ▸ empty), rfl⟩
  · rw [if_neg empty] at listed
    obtain ⟨recurrence, bound, rfl⟩ := Option.map_eq_some_iff.mp listed
    by_cases same : k = itemScheduleId text item
    · subst same
      refine .inr ⟨⟨rfl, empty⟩, recurrence, bound, ?_⟩
      rw [view_consume_self]
      simp [view, listedSchedule]
    · refine .inl ⟨fun ⟨here, _⟩ => same here.symm, ?_⟩
      rw [view_consume_other same]
      simp [view, Dict.get_set, same]

theorem view_markUnknown (seen : List String) :
    view k (store.markUnknown seen) =
      ⟨(view k store).row.map fun row =>
        if row.state = "active" ∧ k ∉ seen then { row with state := "unknown" } else row,
        (view k store).waiting⟩ := by
  unfold view
  congr 1
  exact Dict.get_mapValues fun key (row : RuntimeSchedule) =>
    if row.state = "active" ∧ key ∉ seen then { row with state := "unknown" } else row

theorem view_lost :
    view k store.lost =
      ⟨(view k store).row.map fun row =>
        if row.state ∈ ["active", "unknown"] then { row with state := "unknown" } else row,
        (view k store).waiting⟩ := by
  unfold view
  congr 1
  exact Dict.get_mapValues fun (_ : String) (row : RuntimeSchedule) =>
    if row.state ∈ ["active", "unknown"] then { row with state := "unknown" } else row

end Copilotd.Source.Core.RuntimeSchedules
