import Copilotd.Base.Run
import Copilotd.Source.Core.Snapshots

/-!
# Stale snapshots

A snapshot of an epoch that is no longer requested, or of a query that ends after what the reducer
has seen, never applies: no epoch is applied and nothing that a list omits is dropped.  Its positive
part is merged all the same, and three topics merge more than that: `activity` writes all three
flags when one of them is set, `queue` writes both counts when either list has something, and
`schedules` takes over whatever state an item names.
-/
namespace Copilotd.Guarantees.StaleSnapshots

open Base Base.Payloads Source.Core.Snapshots
open Source.Core.RuntimeSchedules (RuntimeSchedule Store View mine itemState itemRecurrence
  blank view view_list mine_cons_self mine_cons_other listedSchedule)

/-- The epoch is not the requested one, or the query ends after what the reducer has seen. -/
def Stale (w : World) (snapshot : Observed) : Prop :=
  ∀ row ∈ Dict.get snapshot.topic w.reconciliation,
    snapshot.epoch ≠ row.requestedEpoch ∨ w.watermark < snapshot.queryEnd

/-! ## Positive facts -/

/-- The flags of the topic `activity`. -/
inductive Flag where
  | processing | hasActiveWork | abortable

def Flag.key : Flag → String
  | .processing => "processing"
  | .hasActiveWork => "has_active_work"
  | .abortable => "abortable"

def Flag.of (binding : Binding) : Flag → Option Bool
  | .processing => binding.runtimeProcessing
  | .hasActiveWork => binding.runtimeHasActiveWork
  | .abortable => binding.runtimeAbortable

/-- The counts of the topic `queue`. -/
inductive Count where
  | queue | steering

def Count.of (binding : Binding) : Count → Nat
  | .queue => binding.nativeQueueCount.getD 0
  | .steering => binding.nativeSteeringCount.getD 0

def Count.listed (values : Json) : Count → List Json
  | .queue => (dictItems "items" values).getD []
  | .steering => (itemsWhere isStr "steering_messages" values).getD []

def flagOf (w : World) (flag : Flag) : Option Bool := w.binding.bind fun binding => flag.of binding

def countOf (w : World) (count : Count) : Nat :=
  (w.binding.map fun binding => count.of binding).getD 0

/-- No positive fact has become a negative one. -/
structure Kept (w after : World) : Prop where
  flags : ∀ flag, flagOf w flag = some true → flagOf after flag = some true
  counts : ∀ count, 0 < countOf w count → 0 < countOf after count
  items : ∀ itemId, Dict.get itemId w.queueItems = some .present →
    Dict.get itemId after.queueItems = some .present
  commands : ∀ name, Dict.get name w.commands = some .available →
    Dict.get name after.commands = some .available
  agents : ∀ name, Dict.get name w.agents = some .available →
    Dict.get name after.agents = some .available
  schedules : ∀ scheduleId, ∀ row ∈ Dict.get scheduleId w.schedules.schedules,
    row.state = "active" → ∃ row ∈ Dict.get scheduleId after.schedules.schedules,
      row.state ≠ "unknown"

def SameEpochs (w after : World) : Prop :=
  ∀ topic, (Dict.get topic after.reconciliation).map Reconciliation.appliedEpoch =
    (Dict.get topic w.reconciliation).map Reconciliation.appliedEpoch

/-! ## What a stale snapshot has to list -/

variable (text : Text) (fence : Fence)

/-- States of a schedule that a snapshot does not change. -/
def finalStates : List String := ["cancelled", "triggered", "failed"]

/-- The items make an active schedule unknown: the last one says so, none says that it has ended,
and no trigger waits that the first one would fire. -/
def EndsUnknown (waiting : Bool) (items : List Json) : Prop :=
  (∃ last ∈ items.getLast?, itemState text last = "unknown") ∧
    (∀ item ∈ items, itemState text item ∉ finalStates) ∧
    ¬ (waiting = true ∧ ∃ item ∈ items.head?, ∃ recurrence ∈ itemRecurrence item,
      blank recurrence = true)

def Repeats (w : World) (snapshot : Observed) : Prop :=
  match snapshot.topic with
  | .activity =>
    positiveEvidence text .activity snapshot.values = true →
      ∀ binding ∈ w.binding, fence.owns binding = true →
        ∀ flag : Flag, flag.of binding = some true → (field flag.key snapshot.values).truthy = true
  | .queue =>
    positiveEvidence text .queue snapshot.values = true →
      ∀ binding ∈ w.binding, fence.owns binding = true →
        ∀ count : Count, 0 < count.of binding → count.listed snapshot.values ≠ []
  | .schedules =>
    ∀ scheduleId, ∀ row ∈ Dict.get scheduleId w.schedules.schedules, row.state = "active" →
      ¬ EndsUnknown text (scheduleId ∈ w.schedules.triggers)
        (mine text scheduleId ((dictItems "schedules" snapshot.values).getD []))
  | _ => True

/-- A snapshot that nobody requested is not read. -/
def Spared (w : World) (snapshot : Observed) : Prop :=
  (Dict.get snapshot.topic w.reconciliation).isSome → Repeats text fence w snapshot

variable {text fence} {w merged after : World} {snapshot : Observed}

/-! ## A stale snapshot only merges -/

variable (text) in
theorem negative_of_stale {row : Reconciliation} (stale : Stale w snapshot)
    (found : Dict.get snapshot.topic w.reconciliation = some row) :
    (evidence text snapshot w row).negative = false := by
  rcases stale row found with epoch | behind
  · simp [Evidence.negative, evidence, epoch]
  · simp [Evidence.negative, evidence, not_le.mpr behind]

theorem applied_cases {row : Reconciliation} (stale : Stale w snapshot)
    (found : Dict.get snapshot.topic w.reconciliation = some row)
    (processed : w.applySnapshotObserved text fence snapshot = some after) :
    ∃ merged, w.merge text fence snapshot (evidence text snapshot w row) = some merged ∧
      after = merged.reconcile snapshot false := by
  have negative := negative_of_stale text stale found
  unfold World.applySnapshotObserved at processed
  rw [found] at processed
  obtain ⟨merged, merge, rfl⟩ := Option.map_eq_some_iff.mp processed
  refine ⟨merged, merge, ?_⟩
  simp [negative]

theorem stale_sameEpochs (stale : Stale w snapshot)
    (processed : w.applySnapshotObserved text fence snapshot = some after) :
    SameEpochs w after := by
  cases found : Dict.get snapshot.topic w.reconciliation with
  | none =>
    unfold World.applySnapshotObserved at processed
    rw [found] at processed
    cases processed
    exact fun _ => rfl
  | some row =>
    obtain ⟨merged, merge, rfl⟩ := applied_cases stale found processed
    intro topic
    rw [get_reconcile, (merge_cases merge).1, Option.map_map]
    congr 1
    funext old
    split <;> rfl

/-! ## Topics -/

theorem kept_refl (w : World) : Kept w w := by
  refine ⟨fun _ => id, fun _ => id, fun _ => id, fun _ => id, fun _ => id, ?_⟩
  intro scheduleId row found active
  exact ⟨row, found, by simp [active]⟩

theorem kept_updateBinding {set : Binding → Binding} (queueItems : List (String × Presence))
    (same : ∀ itemId, Dict.get itemId w.queueItems = some .present →
      Dict.get itemId queueItems = some .present) :
    Kept w { w.updateBinding fence set with queueItems } ↔
      ∀ binding ∈ w.binding, fence.owns binding = true →
        (∀ flag : Flag, flag.of binding = some true → flag.of (set binding) = some true) ∧
          ∀ count : Count, 0 < count.of binding → 0 < count.of (set binding) := by
  constructor
  · intro kept binding found owned
    have flags := kept.flags
    have counts := kept.counts
    simp only [flagOf, countOf, World.updateBinding, Option.mem_def.mp found, Option.bind_some,
      Option.map_some, Option.getD_some, owned, if_true] at flags counts
    exact ⟨flags, counts⟩
  · intro repeats
    refine ⟨?_, ?_, same, fun _ => id, fun _ => id, (kept_refl w).schedules⟩
    · intro flag
      cases found : w.binding with
      | none => simp [flagOf, found]
      | some binding =>
        by_cases owned : fence.owns binding = true
        · have kept := (repeats binding found owned).1 flag
          simpa [flagOf, World.updateBinding, found, owned] using kept
        · simp [flagOf, World.updateBinding, found, owned]
    · intro count
      cases found : w.binding with
      | none => simp [countOf, found]
      | some binding =>
        by_cases owned : fence.owns binding = true
        · have kept := (repeats binding found owned).2 count
          simpa [countOf, World.updateBinding, found, owned] using kept
        · simp [countOf, World.updateBinding, found, owned]

theorem kept_activity :
    Kept w (w.activity fence snapshot) ↔
      ∀ binding ∈ w.binding, fence.owns binding = true →
        ∀ flag : Flag, flag.of binding = some true →
          (field flag.key snapshot.values).truthy = true := by
  refine (kept_updateBinding w.queueItems fun _ => id).trans ?_
  refine forall_congr' fun binding => forall_congr' fun _ => forall_congr' fun _ => ?_
  constructor
  · intro repeats flag set
    have kept := repeats.1 flag set
    cases flag <;> exact Option.some.inj kept
  · intro repeats
    refine ⟨fun flag set => ?_, fun count positive => ?_⟩
    · have kept := repeats flag set
      cases flag <;> exact congrArg some kept
    · cases count <;> exact positive

theorem kept_queue (queue : w.queue text fence snapshot false = some merged) :
    Kept w merged ↔
      ∀ binding ∈ w.binding, fence.owns binding = true →
        ∀ count : Count, 0 < count.of binding → count.listed snapshot.values ≠ [] := by
  obtain ⟨items, steering, seen, read, also, _, rfl⟩ := queue_cases queue
  have still : ∀ itemId, Dict.get itemId w.queueItems = some .present →
      Dict.get itemId (seen.foldl (fun rows itemId => Dict.set itemId .present rows) w.queueItems) =
        some Presence.present := by
    intro itemId present
    rw [Dict.get_foldl_set_const]
    split
    · rfl
    · exact present
  refine (kept_updateBinding _ still).trans ?_
  refine forall_congr' fun binding => forall_congr' fun _ => forall_congr' fun _ => ?_
  constructor
  · intro repeats count positive
    have kept := repeats.2 count positive
    cases count
    · simpa [Count.of, Count.listed, read] using List.ne_nil_of_length_pos kept
    · simpa [Count.of, Count.listed, also] using List.ne_nil_of_length_pos kept
  · intro repeats
    refine ⟨fun flag set => ?_, fun count positive => ?_⟩
    · cases flag <;> exact set
    · have listed := repeats count positive
      cases count
      · simpa [Count.of, Count.listed, read] using List.length_pos_of_ne_nil listed
      · simpa [Count.of, Count.listed, also] using List.length_pos_of_ne_nil listed

theorem manifest_available {seen : List String} {rows : List (String × Availability)}
    {name : String}
    (available : Dict.get name rows = some .available) :
    Dict.get name (manifest seen false rows) = some .available := by
  unfold manifest
  rw [if_neg Bool.false_ne_true, Dict.get_foldl_set_const]
  split
  · rfl
  · exact available

theorem kept_commands (listed : w.listCommands text snapshot false = some merged) :
    Kept w merged := by
  obtain ⟨_, rfl⟩ := listCommands_cases listed
  have same := kept_refl w
  exact ⟨same.flags, same.counts, same.items, fun _ => manifest_available, same.agents,
    same.schedules⟩

theorem kept_agents (listed : w.listAgents text snapshot false = some merged) : Kept w merged := by
  obtain ⟨_, rfl⟩ := listAgents_cases listed
  have same := kept_refl w
  exact ⟨same.flags, same.counts, same.items, same.commands, fun _ => manifest_available,
    same.schedules⟩

/-! ### Schedules -/

theorem listed_state (item : Json) (recurrence : Option String) (row : RuntimeSchedule) :
    (listedSchedule text item recurrence (some row)).state =
      if row.state ∈ finalStates then row.state else itemState text item := rfl

theorem listAll_unknown (scheduleId : String) {items : List Json} {store listed : Store}
    {row : RuntimeSchedule} (found : (view scheduleId store).row = some row)
    (applied : store.listAll text items = some listed) :
    ∃ last, (view scheduleId listed).row = some last ∧
      (last.state = "unknown" ↔
        row.state ∉ finalStates ∧
          ¬ ((view scheduleId store).waiting = true ∧
            ∃ item ∈ (mine text scheduleId items).head?, ∃ recurrence ∈ itemRecurrence item,
              blank recurrence = true) ∧
          (∀ item ∈ mine text scheduleId items, itemState text item ∉ finalStates) ∧
          ((mine text scheduleId items).getLast?.map (itemState text)).getD row.state =
            "unknown") := by
  induction items generalizing store row with
  | nil =>
    cases applied
    refine ⟨row, found, ?_⟩
    simp only [mine, List.filter_nil, List.head?_nil, List.getLast?_nil, Option.map_none,
      Option.getD_none, List.not_mem_nil, false_implies, implies_true, true_and]
    constructor
    · intro unknown
      simp [unknown, finalStates]
    · exact fun ends => ends.2.2
  | cons item items ih =>
    obtain ⟨next, first, rest⟩ := Option.bind_eq_some_iff.mp applied
    rcases view_list scheduleId first with ⟨other, same⟩ | ⟨here, recurrence, bound, now⟩
    · rw [mine_cons_other items other]
      rw [← same] at found ⊢
      exact ih found rest
    · rw [mine_cons_self items here]
      obtain ⟨last, ends, unknown⟩ := ih (congrArg View.row now) rest
      have settled : (view scheduleId next).waiting = false := congrArg View.waiting now
      refine ⟨last, ends, unknown.trans ?_⟩
      simp only [settled, Bool.false_eq_true, false_and, not_false_eq_true, true_and, found,
        List.head?_cons, Option.mem_def, Option.some.injEq, exists_eq_left', bound,
        List.forall_mem_cons, List.getLast?_cons, Option.map_some, Option.getD_some]
      by_cases fires : (view scheduleId store).waiting = true ∧ blank recurrence = true
      · simp [fires, finalStates]
      · rw [if_neg fires]
        rw [listed_state]
        by_cases final : row.state ∈ finalStates
        · rw [if_pos final]
          simp only [final, not_true_eq_false, false_and]
        · rw [if_neg final]
          simp only [final, fires, not_false_eq_true, true_and, and_assoc]
          cases (mine text scheduleId items).getLast? <;> simp

theorem snapshot_unknown {scheduleId : String} {store listed : Store} {row : RuntimeSchedule}
    (found : Dict.get scheduleId store.schedules = some row) (active : row.state = "active")
    (applied : store.snapshot text snapshot.values false = some listed) :
    ∃ last, Dict.get scheduleId listed.schedules = some last ∧
      (last.state = "unknown" ↔
        EndsUnknown text (scheduleId ∈ store.triggers)
          (mine text scheduleId ((dictItems "schedules" snapshot.values).getD []))) := by
  unfold Store.snapshot at applied
  split at applied
  · obtain ⟨items, read, rest⟩ := Option.bind_eq_some_iff.mp applied
    obtain ⟨next, all, rfl⟩ := Option.map_eq_some_iff.mp rest
    obtain ⟨last, ends, unknown⟩ := listAll_unknown scheduleId found all
    refine ⟨last, ends, unknown.trans ?_⟩
    rw [read, Option.getD_some]
    rw [active]
    constructor
    · rintro ⟨_, silent, none, said⟩
      refine ⟨?_, none, silent⟩
      cases shown : (mine text scheduleId items).getLast? with
      | none => simp [shown] at said
      | some last => exact ⟨last, rfl, by simpa [shown] using said⟩
    · rintro ⟨⟨last, shown, said⟩, none, silent⟩
      refine ⟨by simp [finalStates], silent, none, ?_⟩
      simp [Option.mem_def.mp shown, said]
  · rename_i unread
    cases applied
    refine ⟨row, found, ?_⟩
    have falsy : (field "schedules" snapshot.values).truthy = false := by
      cases truth : (field "schedules" snapshot.values).truthy with
      | false => rfl
      | true => simp [truth] at unread
    rw [itemsWhere_of_falsy falsy]
    simp [EndsUnknown, mine, active]

theorem kept_schedules {listed : Store}
    (applied : w.schedules.snapshot text snapshot.values false = some listed) :
    Kept w { w with schedules := listed } ↔
      ∀ scheduleId, ∀ row ∈ Dict.get scheduleId w.schedules.schedules, row.state = "active" →
        ¬ EndsUnknown text (scheduleId ∈ w.schedules.triggers)
          (mine text scheduleId ((dictItems "schedules" snapshot.values).getD [])) := by
  constructor
  · intro kept scheduleId row found active ends
    obtain ⟨last, shown, unknown⟩ := snapshot_unknown found active applied
    obtain ⟨other, also, known⟩ := kept.schedules scheduleId row found active
    have same : other = last := Option.some.inj ((Option.mem_def.mp also).symm.trans shown)
    exact known (same ▸ unknown.mpr ends)
  · intro repeats
    have same := kept_refl w
    refine ⟨same.flags, same.counts, same.items, same.commands, same.agents, ?_⟩
    intro scheduleId row found active
    obtain ⟨last, shown, unknown⟩ := snapshot_unknown found active applied
    exact ⟨last, shown, fun gone => repeats scheduleId row found active (unknown.mp gone)⟩

theorem mayMerge_of_positive {shown : Evidence} (negative : shown.negative = false)
    (crossed : shown.crossedScalarEvent = true → snapshot.topic ∈ [.agents, .commands, .remote])
    (scalar : snapshot.topic ∉ [.agents, .commands, .remote]) :
    shown.mayMerge = shown.positive := by
  have uncrossed : shown.crossedScalarEvent = false := by
    cases truth : shown.crossedScalarEvent with
    | false => rfl
    | true => exact absurd (crossed truth) scalar
  unfold Evidence.mayMerge
  unfold Evidence.negative at negative
  rw [uncrossed, negative]
  simp

theorem kept_merge {shown : Evidence} (negative : shown.negative = false)
    (positive : shown.positive = positiveEvidence text snapshot.topic snapshot.values)
    (crossed : shown.crossedScalarEvent = true → snapshot.topic ∈ [.agents, .commands, .remote])
    (merge : w.merge text fence snapshot shown = some merged) :
    Kept w merged ↔ Repeats text fence w snapshot := by
  have merges := mayMerge_of_positive negative crossed
  unfold World.merge at merge
  rw [negative] at merge
  unfold Repeats
  cases topic : snapshot.topic with
  | activity =>
    rw [topic] at merge positive merges
    rw [merges (by decide)] at merge
    dsimp only at merge ⊢
    cases merge
    rw [← positive]
    by_cases shows : shown.positive = true
    · rw [if_pos shows]
      exact kept_activity.trans ⟨fun kept _ => kept, fun kept => kept shows⟩
    · rw [if_neg shows]
      exact iff_of_true (kept_refl w) fun here => absurd here shows
  | queue =>
    rw [topic] at merge positive merges
    rw [merges (by decide)] at merge
    dsimp only at merge ⊢
    rw [← positive]
    by_cases shows : shown.positive = true
    · rw [if_pos shows] at merge
      exact (kept_queue merge).trans ⟨fun kept _ => kept, fun kept => kept shows⟩
    · rw [if_neg shows] at merge
      cases merge
      exact iff_of_true (kept_refl w) fun here => absurd here shows
  | tasks =>
    rw [topic] at merge
    dsimp only at merge
    have same := kept_refl w
    split at merge
    · obtain ⟨_, _, rfl⟩ := Option.map_eq_some_iff.mp merge
      exact iff_of_true ⟨same.flags, same.counts, same.items, same.commands, same.agents,
        same.schedules⟩ trivial
    · cases merge
      exact iff_of_true same trivial
  | commands =>
    rw [topic] at merge
    dsimp only at merge
    split at merge
    · exact iff_of_true (kept_commands merge) trivial
    · cases merge
      exact iff_of_true (kept_refl w) trivial
  | agents =>
    rw [topic] at merge
    dsimp only at merge
    split at merge
    · exact iff_of_true (kept_agents merge) trivial
    · cases merge
      exact iff_of_true (kept_refl w) trivial
  | schedules =>
    rw [topic] at merge
    obtain ⟨listed, applied, rfl⟩ := Option.map_eq_some_iff.mp merge
    exact kept_schedules applied
  | remote | extensions | mcp | other =>
    rw [topic] at merge
    cases merge
    exact iff_of_true (kept_refl w) trivial

/-! ## Main results -/

/-- A stale snapshot keeps every positive fact and applies no epoch exactly when its payload repeats
what its topic overwrites. -/
theorem stale_keeps_iff_spared (stale : Stale w snapshot)
    (processed : w.applySnapshotObserved text fence snapshot = some after) :
    Kept w after ∧ SameEpochs w after ↔ Spared text fence w snapshot := by
  refine (and_iff_left (stale_sameEpochs stale processed)).trans ?_
  unfold Spared
  cases found : Dict.get snapshot.topic w.reconciliation with
  | none =>
    unfold World.applySnapshotObserved at processed
    rw [found] at processed
    cases processed
    exact iff_of_true (kept_refl w) nofun
  | some row =>
    obtain ⟨merged, merge, rfl⟩ := applied_cases stale found processed
    have kept := kept_merge (negative_of_stale text stale found) rfl
      (fun crossed => (of_decide_eq_true crossed).1) merge
    refine Iff.trans ?_ (kept.trans ⟨fun repeats _ => repeats, fun repeats => repeats rfl⟩)
    exact ⟨fun all => ⟨all.flags, all.counts, all.items, all.commands, all.agents, all.schedules⟩,
      fun all => ⟨all.flags, all.counts, all.items, all.commands, all.agents, all.schedules⟩⟩

/-- `str.strip` and `str.lower` of text that is stripped and in lower case. -/
def plainText : Text := { str := fun _ => "", int := fun _ => none, strip := id, lower := id }

def activitySnapshot (epoch : Int) (payload : List (String × Json)) : Observed where
  topic := .activity
  epoch
  snapshotId := "s"
  queryStart := 0
  queryEnd := 0
  observedAt := 0
  payload := .dict payload

/-- A binding with the flags of a first snapshot, and the row of a second request. -/
def worldWith (processing hasActiveWork : Bool) : World where
  reconciliation := [(.activity, ⟨2, 1, .requested, 1, 1, some 0⟩)]
  binding := some
    { runtimeGeneration := 1, ownerFenceToken := 1, runtimeProcessing := some processing
      runtimeHasActiveWork := some hasActiveWork, runtimeAbortable := some false }

theorem stale_keeps_iff_spared_repeated :
    Kept (worldWith false true) (worldWith true true) ∧
      SameEpochs (worldWith false true) (worldWith true true) := by
  have processed : (worldWith false true).applySnapshotObserved plainText ⟨1, 1⟩
      (activitySnapshot 1 [("processing", .bool true), ("has_active_work", .bool true)]) =
        some (worldWith true true) := by
    decide +kernel
  refine (stale_keeps_iff_spared ?_ processed).mpr ?_
  · intro row found
    cases found
    exact .inl (by decide)
  · intro _ _ binding found _ flag set
    cases found
    cases flag
    · rfl
    · rfl
    · cases set

/-- The first snapshot shows work, and a second one is requested.  Another result of the first
request says that something is processed and nothing else: the work is gone. -/
theorem stale_activity_clears_work :
    Run.run (step plainText) { binding := some { runtimeGeneration := 1, ownerFenceToken := 1 } }
        [.requested ⟨1, 1⟩ .activity,
          .observed ⟨1, 1⟩ (activitySnapshot 1 [("has_active_work", .bool true)]),
          .requested ⟨1, 1⟩ .activity] = some (worldWith false true) ∧
      Stale (worldWith false true) (activitySnapshot 1 [("processing", .bool true)]) ∧
      (worldWith false true).applySnapshotObserved plainText ⟨1, 1⟩
        (activitySnapshot 1 [("processing", .bool true)]) = some (worldWith true false) ∧
      ¬ (Kept (worldWith false true) (worldWith true false) ∧
        SameEpochs (worldWith false true) (worldWith true false)) := by
  refine ⟨by decide +kernel, ?_, by decide +kernel, ?_⟩
  · intro row found
    cases found
    exact .inl (by decide)
  · rintro ⟨kept, _⟩
    have lost := kept.flags .hasActiveWork rfl
    cases lost

end Copilotd.Guarantees.StaleSnapshots
