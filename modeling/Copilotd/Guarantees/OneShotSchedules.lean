import Copilotd.Base.Run
import Copilotd.Source.Core.RuntimeSchedules

/-!
# One-shot schedules that fired

A trigger that comes before its schedule waits in a side table.  A snapshot that lists the schedule
consumes it, but only marks the row when its recurrence is blank, and the item's `at` or
`intervalMs` counts as a recurrence; `session.schedule_created` does not look at the side table at
all.  The schedule is recorded as triggered when neither happens and the row that a message finds
can still fire.
-/
namespace Copilotd.Guarantees.OneShotSchedules

open Base Base.Payloads Base.Run Source.Core.RuntimeSchedules

variable (text : Text) (k : String)

/-- The items of a snapshot for the schedule. -/
def listings (values : Json) : List Json := mine text k ((dictItems "schedules" values).getD [])

/-- The item fires a trigger that waits. -/
def Fires (item : Json) : Prop :=
  ∀ recurrence ∈ itemRecurrence item,
    blank recurrence = true ∨ itemState text item = "triggered"

instance (item : Json) : Decidable (Fires text item) := by
  unfold Fires
  infer_instance

/-- The schedule does not recur and is not cancelled; other schedules may be. -/
def OneShot : Label → Prop
  | .created data => eventScheduleId text data = k → recurringEvent data = false
  | .cancelled data | .rearmed data => eventScheduleId text data ≠ k
  | .snapshot values _ =>
    ∀ item ∈ listings text k values, (field "recurring" item).truthy = false
  | .message .. | .snapshotRequested | .lost => True

/-- The reducer's world with what has been processed for the schedule. -/
structure Watched where
  world : World
  /-- A message that carries the schedule's id. -/
  messaged : Bool := false
  /-- Its creation, or a snapshot that lists it. -/
  seen : Bool := false

def messages (w : World) (label : Label) : Bool :=
  match w, label with
  | _, .message data raw => runtimeScheduleId text data raw = some k
  | _, _ => false

def shows (w : World) : Label → Bool
  | .created data => eventScheduleId text data = k ∧ k ≠ ""
  | .snapshot values _ => w.requested ∧ listings text k values ≠ []
  | _ => false

def watch (s : Watched) (label : Label) : Option Watched :=
  (step text s.world label).map fun world =>
    { world
      messaged := s.messaged || messages text k s.world label
      seen := s.seen || shows text k s.world label }

/-- What the order of the events has to respect: the creation does not come after the trigger, a
snapshot that follows the trigger lists the schedule without a recurrence (or as triggered), and a
message finds a row that can fire. -/
def Timely (s : Watched) : Label → Prop
  | .created data => eventScheduleId text data = k → k ∉ s.world.store.triggers
  | .snapshot values _ =>
    s.world.requested = true → k ∈ s.world.store.triggers →
      ∀ item ∈ (listings text k values).head?, Fires text item
  | .message data raw =>
    runtimeScheduleId text data raw = some k → ∀ row ∈ Dict.get k s.world.store.schedules,
      row.state = "active" ∨ row.state = "unknown" ∨ row.state = "triggered"
  | _ => True

instance (s : Watched) (label : Label) : Decidable (Timely text k s label) := by
  unfold Timely
  split <;> infer_instance

instance (label : Label) : Decidable (OneShot text k label) := by
  unfold OneShot
  split <;> infer_instance

variable {text k}

/-! ## What every step keeps -/

/-- A row is that of a one-shot schedule, a trigger only waits for want of a row, and a message has
left one of the two. -/
structure Sound (messaged : Bool) (v : View) : Prop where
  once : ∀ row ∈ v.row, row.scheduleKind = "after"
  early : v.waiting = true → v.row = none
  fired : messaged = true → ∀ row ∈ v.row, row.state = "triggered"
  kept : messaged = true → v.row = none → v.waiting = true

variable {messaged : Bool} {v : View}

theorem Sound.created {data : Json} (sound : Sound messaged v) (once : recurringEvent data = false)
    (timely : v.waiting = false) :
    Sound messaged ⟨some (createdSchedule text data v.row), v.waiting⟩ where
  once := by
    intro row same
    cases same
    simp [createdSchedule, once]
  early := fun waiting => absurd waiting (by simp [timely])
  fired := by
    intro sent row same
    cases same
    cases found : v.row with
    | none =>
      have waiting := sound.kept sent found
      rw [timely] at waiting
      cases waiting
    | some row =>
      have state := sound.fired sent row found
      simp [createdSchedule, state]
  kept := fun _ absent => nomatch absent

theorem Sound.mapRow {set : RuntimeSchedule → RuntimeSchedule} (sound : Sound messaged v)
    (kind : ∀ row, (set row).scheduleKind = row.scheduleKind)
    (final : ∀ row, row.state = "triggered" → (set row).state = "triggered") :
    Sound messaged ⟨v.row.map set, v.waiting⟩ where
  once := by
    intro row member
    obtain ⟨old, found, rfl⟩ := Option.map_eq_some_iff.mp member
    rw [kind]
    exact sound.once old found
  early := by
    intro waiting
    have absent := sound.early waiting
    simp [absent]
  fired := by
    intro sent row member
    obtain ⟨old, found, rfl⟩ := Option.map_eq_some_iff.mp member
    exact final old (sound.fired sent old found)
  kept := by
    intro sent absent
    exact sound.kept sent (Option.map_eq_none_iff.mp absent)

theorem fireOnce_fire {row : RuntimeSchedule} (once : row.scheduleKind = "after")
    (ready : row.state = "active" ∨ row.state = "unknown" ∨ row.state = "triggered") :
    (fireOnce (fire row)).scheduleKind = "after" ∧ (fireOnce (fire row)).state = "triggered" := by
  unfold fireOnce fire
  rcases ready with state | state | state
  · by_cases blank : blank row.recurrence = true
    · simp [state, blank, once]
    · simp [state, blank, once]
  · by_cases blank : blank row.recurrence = true
    · simp [state, blank, once]
    · simp [state, blank, once]
  · simp [state, once]

theorem Sound.message (sound : Sound messaged v)
    (ready : ∀ row ∈ v.row,
      row.state = "active" ∨ row.state = "unknown" ∨ row.state = "triggered") :
    Sound true (match v.row with
      | none => ⟨none, true⟩
      | some row => ⟨some (fireOnce (fire row)), v.waiting⟩) := by
  cases found : v.row with
  | none =>
    exact ⟨nofun, fun _ => rfl, fun _ => nofun, fun _ _ => rfl⟩
  | some row =>
    have after := fireOnce_fire (sound.once row found) (ready row found)
    have idle : v.waiting ≠ true := fun waiting => by
      have absent := sound.early waiting
      rw [found] at absent
      cases absent
    refine ⟨?_, fun waiting => absurd waiting idle, ?_, fun _ absent => nomatch absent⟩
    · intro fired same
      cases same
      exact after.1
    · intro _ fired same
      cases same
      exact after.2

theorem Sound.listed {item : Json} {recurrence : Option String} (sound : Sound messaged v)
    (once : (field "recurring" item).truthy = false) (bound : itemRecurrence item = some recurrence)
    (fires : v.waiting = true → Fires text item) :
    Sound messaged ⟨some (
      let row := listedSchedule text item recurrence v.row
      if v.waiting = true ∧ blank recurrence = true then { row with state := "triggered" }
      else row), false⟩ := by
  refine ⟨?_, nofun, ?_, fun _ absent => nomatch absent⟩
  · intro row same
    cases same
    split
    · simp [listedSchedule, once]
    · simp [listedSchedule, once]
  · intro sent row same
    cases same
    split
    · rfl
    · rename_i silent
      cases found : v.row with
      | none =>
        have waiting := sound.kept sent found
        rcases fires waiting recurrence bound with empty | state
        · exact absurd ⟨waiting, empty⟩ silent
        · simp [listedSchedule, state]
      | some old =>
        have state := sound.fired sent old found
        simp [listedSchedule, state]

theorem Sound.listAll {items : List Json} {store after : Store}
    (sound : Sound messaged (view k store))
    (once : ∀ item ∈ mine text k items, (field "recurring" item).truthy = false)
    (fires : (view k store).waiting = true → ∀ item ∈ (mine text k items).head?, Fires text item)
    (listed : store.listAll text items = some after) :
    Sound messaged (view k after) ∧
      ((view k store).row.isSome ∨ mine text k items ≠ [] → (view k after).row.isSome) := by
  induction items generalizing store with
  | nil =>
    cases listed
    exact ⟨sound, fun or => or.elim id fun listed => absurd rfl listed⟩
  | cons item items ih =>
    obtain ⟨next, first, rest⟩ := Option.bind_eq_some_iff.mp listed
    rcases view_list k first with ⟨other, same⟩ | ⟨here, recurrence, bound, row⟩
    · rw [mine_cons_other items other] at once fires ⊢
      rw [← same] at sound fires ⊢
      exact ih sound once fires rest
    · rw [mine_cons_self items here] at once fires
      have next_sound := sound.listed (once item (List.mem_cons_self ..)) bound
        fun waiting => fires waiting item rfl
      rw [← row] at next_sound
      have settled : (view k next).waiting = false := by
        rw [row]
      have later := ih next_sound (fun item member => once item (List.mem_cons_of_mem _ member))
        (fun waiting => absurd waiting (by simp [settled])) rest
      refine ⟨later.1, fun _ => later.2 (.inl ?_)⟩
      rw [row]
      rfl

theorem listings_of_falsy {values : Json} (falsy : (field "schedules" values).truthy = false) :
    listings text k values = [] := by
  have nothing : (dictItems "schedules" values).getD [] = [] := itemsWhere_of_falsy falsy
  unfold listings
  rw [nothing]
  rfl

theorem Sound.snapshot {values : Json} {negative : Bool} {store after : Store}
    (sound : Sound messaged (view k store))
    (once : ∀ item ∈ listings text k values, (field "recurring" item).truthy = false)
    (fires : (view k store).waiting = true →
      ∀ item ∈ (listings text k values).head?, Fires text item)
    (applied : store.snapshot text values negative = some after) :
    Sound messaged (view k after) ∧
      ((view k store).row.isSome ∨ listings text k values ≠ [] → (view k after).row.isSome) := by
  unfold Store.snapshot at applied
  split at applied
  · obtain ⟨items, read, rest⟩ := Option.bind_eq_some_iff.mp applied
    obtain ⟨next, listed, rfl⟩ := Option.map_eq_some_iff.mp rest
    unfold listings at once fires ⊢
    rw [read, Option.getD_some] at once fires ⊢
    obtain ⟨kept, shown⟩ := sound.listAll once fires listed
    split
    · rw [view_markUnknown]
      refine ⟨kept.mapRow ?_ ?_, ?_⟩
      · intro row
        split <;> rfl
      · intro row state
        simp [state]
      · intro before
        rw [Option.isSome_map]
        exact shown before
    · exact ⟨kept, shown⟩
  · rename_i unread
    cases applied
    have falsy : (field "schedules" values).truthy = false := by
      cases truth : (field "schedules" values).truthy with
      | false => rfl
      | true => simp [truth] at unread
    refine ⟨sound, fun or => or.elim id fun listed => absurd ?_ listed⟩
    exact listings_of_falsy falsy

structure Inv (text : Text) (k : String) (s : Watched) : Prop where
  sound : Sound s.messaged (view k s.world.store)
  shown : s.seen = true → (view k s.world.store).row.isSome

theorem Sound.step {w after : World} {label : Label} {seen : Bool}
    (sound : Sound messaged (view k w.store)) (once : OneShot text k label)
    (timely : Timely text k ⟨w, messaged, seen⟩ label) (taken : step text w label = some after) :
    Sound (messaged || messages text k w label) (view k after.store) ∧
      ((view k w.store).row.isSome ∨ shows text k w label = true →
        (view k after.store).row.isSome) := by
  cases label with
  | created data =>
    cases taken
    have still : (messaged || messages text k w (.created data)) = messaged := by
      simp [messages]
    rw [still]
    rw [view_created]
    by_cases here : eventScheduleId text data = k ∧ k ≠ ""
    · rw [if_pos here]
      refine ⟨sound.created (once here.1) ?_, fun _ => rfl⟩
      simpa [view] using timely here.1
    · rw [if_neg here]
      refine ⟨sound, fun or => or.elim id fun shown => absurd ?_ here⟩
      simpa [shows] using shown
  | cancelled data =>
    cases taken
    have same : view k (w.store.cancelled text data) = view k w.store := by
      unfold Store.cancelled
      dsimp only
      split
      · rfl
      · exact view_update_other _ (Ne.symm once) _
    rw [same]
    exact ⟨by simpa [messages] using sound, by simp [shows]⟩
  | rearmed data =>
    cases taken
    have same : view k (w.store.rearmed text data) = view k w.store := by
      unfold Store.rearmed
      dsimp only
      split
      · rfl
      · exact view_update_other _ (Ne.symm once) _
    rw [same]
    exact ⟨by simpa [messages] using sound, by simp [shows]⟩
  | message data raw =>
    unfold Copilotd.Source.Core.RuntimeSchedules.step at taken
    dsimp only at taken
    cases carried : runtimeScheduleId text data raw with
    | none =>
      rw [carried] at taken
      cases taken
      exact ⟨by simpa [messages, carried] using sound, by simp [shows]⟩
    | some scheduleId =>
      rw [carried] at taken
      cases taken
      by_cases here : k = scheduleId
      · subst here
        have sent : (messaged || messages text k w (.message data raw)) = true := by
          simp [messages, carried]
        rw [sent, view_message_self]
        refine ⟨sound.message fun row found => timely carried row found, ?_⟩
        intro or
        have before : (view k w.store).row.isSome := by simpa [shows] using or
        obtain ⟨row, found⟩ := Option.isSome_iff_exists.mp before
        rw [found]
        rfl
      · rw [view_message_other here]
        refine ⟨?_, by simp [shows]⟩
        simpa [messages, carried, Ne.symm here] using sound
  | snapshotRequested =>
    cases taken
    exact ⟨by simpa [messages] using sound, by simp [shows]⟩
  | snapshot values negative =>
    unfold Copilotd.Source.Core.RuntimeSchedules.step at taken
    dsimp only at taken
    have still : (messaged || messages text k w (.snapshot values negative)) = messaged := by
      simp [messages]
    rw [still]
    by_cases requested : w.requested = true
    · rw [if_pos requested] at taken
      obtain ⟨store, applied, rfl⟩ := Option.map_eq_some_iff.mp taken
      obtain ⟨kept, shown⟩ := sound.snapshot once
        (fun waiting => timely requested (by simpa [view] using waiting)) applied
      refine ⟨kept, fun or => shown (or.imp_right fun shows => ?_)⟩
      simp only [OneShotSchedules.shows, requested, true_and, decide_eq_true_eq] at shows
      exact shows
    · rw [if_neg requested] at taken
      cases taken
      exact ⟨sound, by simp [shows, requested]⟩
  | lost =>
    cases taken
    rw [view_lost]
    refine ⟨?_, by simp [shows]⟩
    have still : (messaged || messages text k w .lost) = messaged := by
      simp [messages]
    rw [still]
    refine sound.mapRow ?_ ?_
    · intro row
      split <;> rfl
    · intro row state
      simp [state]

theorem Inv.step {s after : Watched} {label : Label} (inv : Inv text k s)
    (once : OneShot text k label) (timely : Timely text k s label)
    (taken : watch text k s label = some after) : Inv text k after := by
  obtain ⟨world, stepped, rfl⟩ := Option.map_eq_some_iff.mp taken
  obtain ⟨sound, shown⟩ := inv.sound.step once timely stepped
  refine ⟨sound, fun seen => shown ?_⟩
  rcases Bool.or_eq_true .. |>.mp seen with before | now
  · exact .inl (inv.shown before)
  · exact .inr now

/-! ## Main results -/

/-- Once a one-shot schedule has been seen and a message of it processed, its row is triggered, in a
run in which nothing overtakes the trigger. -/
theorem fired_is_triggered (text : Text) (k : String) {start : World} {labels : List Label}
    {s : Watched} (absent : Dict.get k start.store.schedules = none)
    (once : Along (watch text k) (fun _ => OneShot text k) { world := start } labels)
    (timely : Along (watch text k) (Timely text k) { world := start } labels)
    (reached : run (watch text k) { world := start } labels = some s) (messaged : s.messaged = true)
    (seen : s.seen = true) :
    ∃ row, Dict.get k s.world.store.schedules = some row ∧ row.state = "triggered" := by
  have begins : Inv text k { world := start } :=
    ⟨⟨by simp [view, absent], fun _ => absent, nofun, nofun⟩, nofun⟩
  have inv := run_inv_along (fun _ _ _ inv ok taken => Inv.step inv ok.1 ok.2 taken)
    (along_and once timely) begins reached
  obtain ⟨row, found⟩ := Option.isSome_iff_exists.mp (inv.shown seen)
  exact ⟨row, found, inv.sound.fired messaged row found⟩

/-- `str.strip` and `str.lower` of text that is stripped and in lower case. -/
def plainText : Text := { str := fun _ => "", int := fun _ => none, strip := id, lower := id }

/-- A trigger, then a snapshot that lists the schedule, its creation and the message again. -/
def snapshotAfterTrigger : List Label :=
  [.snapshotRequested, .message (.dict [("runtimeScheduleId", .str "s1")]) .null,
    .snapshot (.dict [("schedules", .list [.dict [("id", .str "s1")]])]) true,
    .created (.dict [("id", .str "s1")]),
    .message (.dict [("runtimeScheduleId", .str "s1")]) .null]

theorem fired_is_triggered_after_snapshot :
    ∃ row, Dict.get "s1" ((run (watch plainText "s1") { world := {} } snapshotAfterTrigger).get
      (by decide)).world.store.schedules = some row ∧ row.state = "triggered" :=
  fired_is_triggered plainText "s1" rfl (by decide) (by decide) (Option.some_get _).symm
    (by decide) (by decide)

def createdAfterTrigger : List Label :=
  [.message (.dict [("runtimeScheduleId", .str "s1")]) .null,
    .created (.dict [("id", .str "s1"), ("recurring", .bool false)])]

theorem created_after_trigger_stays_active :
    Along (watch plainText "s1") (fun _ => OneShot plainText "s1") { world := {} }
        createdAfterTrigger ∧
      (run (watch plainText "s1") { world := {} } createdAfterTrigger).map (fun s =>
          (s.messaged, s.seen, (Dict.get "s1" s.world.store.schedules).map RuntimeSchedule.state)) =
        some (true, true, some "active") := by
  decide

end Copilotd.Guarantees.OneShotSchedules
