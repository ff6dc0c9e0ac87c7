import Copilotd.Source.Core.RuntimeSchedules
import Copilotd.Source.Core.TaskEvidence

/-!
# Snapshots

Source: `core/reducer.py` 2559–2607 (`copilotd.snapshot.requested`, `copilotd.snapshot.failed`),
5222–5891 (`_apply_snapshot_observed`) and 9190–9203 (`_snapshot_has_positive_evidence`);
`core/bindings.py` 476–483 for what a new generation does to `reconciliation_state`.

The rows of one session.  Left out: columns that none of these functions reads (ids, times and
hashes of the rows, the manifests' metadata, the columns of the topic `remote`,
`extension_runtime_projections`, `runtime_command_refreshes`, `snapshot_observations`), the prompts
that are stored, errors in the conversion of those columns, and `copilotd.readiness.observed` and
`failed`.
-/
namespace Copilotd.Source.Core.Snapshots

open Base Base.Payloads
open Source.Core.TaskEvidence (applySessionIdle applyTaskSnapshot settleLinkedLoopIdle)

/-! ## Rows -/

inductive Topic where
  | activity | queue | tasks | commands | agents | remote | schedules | extensions | mcp
  | other (name : String)
  deriving DecidableEq

inductive Status where
  | requested | idle | failed | stale
  deriving DecidableEq

/-- A row of `reconciliation_state`. -/
structure Reconciliation where
  requestedEpoch : Int
  appliedEpoch : Int
  status : Status
  runtimeGeneration : Int
  ownerFenceToken : Int
  observedAt : Option ℚ := none
  deriving DecidableEq

/-- The row of `session_bindings`. -/
structure Binding where
  runtimeGeneration : Int
  ownerFenceToken : Int
  runtimeProcessing : Option Bool := none
  runtimeHasActiveWork : Option Bool := none
  runtimeAbortable : Option Bool := none
  nativeQueueCount : Option Nat := none
  nativeSteeringCount : Option Nat := none
  lastSdkReceiveSeq : Option Int := none
  deriving DecidableEq

/-- `native_queue_items.state`. -/
inductive Presence where
  | present | absent
  deriving DecidableEq

/-- The state of a command or an agent in its manifest. -/
inductive Availability where
  | available | unavailable
  deriving DecidableEq

structure World where
  reconciliation : List (Topic × Reconciliation) := []
  binding : Option Binding := none
  queueItems : List (String × Presence) := []
  commands : List (String × Availability) := []
  agents : List (String × Availability) := []
  schedules : RuntimeSchedules.Store := {}
  tasks : TaskEvidence.Db := {}
  deriving DecidableEq

/-- The generation and the fence of an event. -/
structure Fence where
  generation : Int
  fenceToken : Int

/-- The data of `copilotd.snapshot.observed`. -/
structure Observed where
  topic : Topic
  epoch : Int
  snapshotId : String
  queryStart : Int
  queryEnd : Int
  observedAt : ℚ
  payload : Json

def Observed.values (snapshot : Observed) : Json := mapping snapshot.payload

variable (text : Text) (fence : Fence) (snapshot : Observed)

/-- `… WHERE runtime_generation = ? AND owner_fence_token = ?`. -/
def Fence.owns (binding : Binding) : Bool :=
  binding.runtimeGeneration = fence.generation ∧ binding.ownerFenceToken = fence.fenceToken

def World.updateBinding (set : Binding → Binding) (w : World) : World :=
  { w with
    binding := w.binding.map fun binding => if fence.owns binding then set binding else binding }

/-- `reducer_watermark`. -/
def World.watermark (w : World) : Int :=
  match w.binding with
  | none => 0
  | some binding => binding.lastSdkReceiveSeq.getD 0

/-! ## What a snapshot may do -/

/-- `_snapshot_has_positive_evidence`. -/
def positiveEvidence (topic : Topic) (values : Json) : Bool :=
  match topic with
  | .activity =>
    (field "processing" values).truthy || (field "has_active_work" values).truthy ||
      (field "abortable" values).truthy
  | .queue => (field "items" values).truthy || (field "steering_messages" values).truthy
  | .tasks => (field "tasks" values).truthy
  | .remote => TaskEvidence.textField text values "mode" "unknown" ≠ "off"
  | .schedules => (field "schedules" values).truthy
  | _ => values.truthy

/-- The conditions of `_apply_snapshot_observed`. -/
structure Evidence where
  caughtUp : Bool
  crossedScalarEvent : Bool
  fresh : Bool
  positive : Bool

def evidence (w : World) (row : Reconciliation) : Evidence :=
  let crossed := snapshot.topic ∈ [.agents, .commands, .remote] ∧
    (snapshot.queryStart < snapshot.queryEnd ∨ snapshot.queryEnd < w.watermark)
  { caughtUp := snapshot.queryEnd ≤ w.watermark
    crossedScalarEvent := crossed
    fresh := snapshot.epoch = row.requestedEpoch ∧ ¬ crossed
    positive := positiveEvidence text snapshot.topic snapshot.values }

/-- `fresh and caught_up`. -/
def Evidence.negative (evidence : Evidence) : Bool := evidence.fresh && evidence.caughtUp

def Evidence.mayMerge (evidence : Evidence) : Bool :=
  !evidence.crossedScalarEvent &&
    (evidence.positive || (evidence.fresh && evidence.caughtUp && !evidence.positive))

/-! ## Topics -/

def World.activity (w : World) : World :=
  w.updateBinding fence fun binding =>
    { binding with
      runtimeProcessing := some (field "processing" snapshot.values).truthy
      runtimeHasActiveWork := some (field "has_active_work" snapshot.values).truthy
      runtimeAbortable := some (field "abortable" snapshot.values).truthy }

def queueItemId (index : Nat) (item : Json) : String :=
  let itemId := text.strip
    (Json.text text.toPython (either [field "id" item, field "itemId" item, .str ""]))
  if itemId = "" then "opaque:" ++ snapshot.snapshotId ++ ":" ++ toString index else itemId

/-- The rows of the listed items; the mode of an item has to be bindable. -/
def presentItems (items : List Json) : Option (List String) :=
  items.zipIdx.mapM fun item =>
    (columnText (field "agentMode" item.1)).map fun _ => queueItemId text snapshot item.2 item.1

def World.queue (negative : Bool) (w : World) : Option World :=
  (dictItems "items" snapshot.values).bind fun items =>
    (itemsWhere isStr "steering_messages" snapshot.values).bind fun steering =>
      (presentItems text snapshot items).map fun seen =>
        let counted := w.updateBinding fence fun binding =>
          { binding with
            nativeQueueCount := some items.length
            nativeSteeringCount := some steering.length }
        let listed := seen.foldl (fun rows itemId => Dict.set itemId .present rows) w.queueItems
        { counted with
          queueItems :=
            if negative then
              listed.map fun entry => (entry.1, if entry.1 ∈ seen then entry.2 else .absent)
            else listed }

/-- The listed names become available, the others unavailable when the list is complete. -/
def manifest (seen : List String) (negative : Bool) (rows : List (String × Availability)) :
    List (String × Availability) :=
  let listed := seen.foldl (fun rows name => Dict.set name .available rows) rows
  if negative then
    listed.map fun entry => (entry.1, if entry.1 ∈ seen then entry.2 else .unavailable)
  else listed

/-- `int(values.get("manifest_generation", epoch))`. -/
def manifestGeneration : Option Int :=
  Json.toInt text.toPython
    ((snapshot.values.get? "manifest_generation").getD (.int snapshot.epoch))

def stripped (item : Json) (key : String) : String :=
  text.strip (TaskEvidence.textField text item key "")

def commandName (item : Json) : Option String :=
  if stripped text item "name" = "" ∨ stripped text item "kind" ≠ "builtin" then none
  else some (stripped text item "name")

def agentName (item : Json) : Option String :=
  if stripped text item "name" = "" ∨ stripped text item "id" = "" then none
  else some (stripped text item "name")

def World.listCommands (negative : Bool) (w : World) : Option World :=
  (dictItems "commands" snapshot.values).bind fun items =>
    (manifestGeneration text snapshot).map fun _ =>
      { w with commands := manifest (items.filterMap (commandName text)) negative w.commands }

def World.listAgents (negative : Bool) (w : World) : Option World :=
  (dictItems "agents" snapshot.values).bind fun items =>
    (manifestGeneration text snapshot).map fun _ =>
      { w with agents := manifest (items.filterMap (agentName text)) negative w.agents }

/-- The branches of `_apply_snapshot_observed`. -/
def World.merge (evidence : Evidence) (w : World) : Option World :=
  match snapshot.topic with
  | .activity => some (if evidence.mayMerge then w.activity fence snapshot else w)
  | .queue => if evidence.mayMerge then w.queue text fence snapshot evidence.negative else some w
  | .tasks =>
    if evidence.positive || evidence.negative then
      (dictItems "tasks" snapshot.values).map fun tasks =>
        { w with
          tasks := applyTaskSnapshot text fence.generation tasks snapshot.observedAt
            evidence.negative w.tasks }
    else some w
  | .commands =>
      if evidence.mayMerge then w.listCommands text snapshot evidence.negative else some w
  | .agents => if evidence.mayMerge then w.listAgents text snapshot evidence.negative else some w
  | .schedules =>
    (w.schedules.snapshot text snapshot.values evidence.negative).map fun schedules =>
      { w with schedules }
  | .remote | .extensions | .mcp | .other _ => some w

/-! ## Reconciliation -/

/-- The update of `reconciliation_state`. -/
def reconciled (applied : Bool) (row : Reconciliation) : Reconciliation :=
  { row with
    appliedEpoch := if applied then snapshot.epoch else row.appliedEpoch
    status := if applied then .idle else .requested
    observedAt := some snapshot.observedAt }

def World.reconcile (applied : Bool) (w : World) : World :=
  { w with
    reconciliation := w.reconciliation.map fun entry =>
      (entry.1, if entry.1 = snapshot.topic then reconciled snapshot applied entry.2 else entry.2) }

/-- The time of a snapshot that is applied and not older than the cutoff. -/
def Reconciliation.since (cutoff : ℚ) (row : Reconciliation) : Option ℚ :=
  if row.status = .idle ∧ row.requestedEpoch = row.appliedEpoch then
    row.observedAt.filter (cutoff ≤ ·)
  else none

def World.since (w : World) (topic : Topic) (cutoff : ℚ) : Option ℚ :=
  (Dict.get topic w.reconciliation).bind (Reconciliation.since cutoff)

/-- The binding shows no work. -/
def Binding.quiet (binding : Binding) : Bool :=
  ¬ (binding.runtimeProcessing.getD false = true ∨ binding.runtimeHasActiveWork.getD false = true ∨
    0 < binding.nativeQueueCount.getD 0 ∨ 0 < binding.nativeSteeringCount.getD 0)

/-- `settled_at`, when the snapshots are current and the binding is quiet. -/
def World.quietSince (w : World) (cutoff : ℚ) : Option ℚ :=
  match w.since .activity cutoff, w.since .queue cutoff, w.since .tasks cutoff with
  | some activity, some queue, some tasks =>
    if w.binding.any fun binding => fence.owns binding ∧ binding.quiet then
      some (max activity (max queue tasks))
    else none
  | _, _, _ => none

def World.settle (w : World) : World :=
  { w with tasks := settleLinkedLoopIdle (w.quietSince fence) w.tasks }

/-- `_apply_snapshot_observed`; without a request it only records an incident. -/
def World.applySnapshotObserved (w : World) : Option World :=
  match Dict.get snapshot.topic w.reconciliation with
  | none => some w
  | some row =>
    let shown := evidence text snapshot w row
    (w.merge text fence snapshot shown).map fun merged =>
      let reconciled := merged.reconcile snapshot shown.negative
      if shown.negative ∧ snapshot.topic ∈ [.activity, .queue, .tasks] then reconciled.settle fence
      else reconciled

/-! ## The reducer -/

def World.requested (topic : Topic) (w : World) : World :=
  let row : Reconciliation :=
    match Dict.get topic w.reconciliation with
    | none => ⟨1, 0, .requested, fence.generation, fence.fenceToken, none⟩
    | some row =>
      { row with
        requestedEpoch := row.requestedEpoch + 1
        status := .requested
        runtimeGeneration := fence.generation
        ownerFenceToken := fence.fenceToken }
  { w with reconciliation := Dict.set topic row w.reconciliation }

def World.failed (topic : Topic) (epoch : Int) (observedAt : ℚ) (w : World) : World :=
  { w with
    reconciliation := w.reconciliation.map fun entry =>
      (entry.1,
        if entry.1 = topic ∧ entry.2.requestedEpoch ≤ epoch then
          { entry.2 with status := .failed, observedAt := some observedAt }
        else entry.2) }

/-- A new generation: the rows of an older one are stale. -/
def World.replaceGeneration (generation : Int) (now : ℚ) (w : World) : World :=
  { w with
    reconciliation := w.reconciliation.map fun entry =>
      (entry.1,
        if entry.2.runtimeGeneration ≠ generation then
          { entry.2 with status := .stale, observedAt := some now }
        else entry.2) }

inductive Label where
  | requested (fence : Fence) (topic : Topic)
  | observed (fence : Fence) (snapshot : Observed)
  | failed (topic : Topic) (epoch : Int) (observedAt : ℚ)
  | sessionIdle (aborted : Bool) (receivedAt : ℚ)
  /-- `copilotd.tasks.snapshot`. -/
  | tasksSnapshot (fence : Fence) (tasks : List Json) (observedAt : ℚ)
  | generationReplaced (generation : Int) (now : ℚ)
  /-- Other events and other writers leave the binding and the rows of submissions and tasks in any
  state. -/
  | others (binding : Option Binding) (tasks : TaskEvidence.Db)

/-- One event. -/
def step (w : World) : Label → Option World
  | .requested fence topic => some (w.requested fence topic)
  | .observed fence snapshot => w.applySnapshotObserved text fence snapshot
  | .failed topic epoch observedAt => some (w.failed topic epoch observedAt)
  | .sessionIdle aborted receivedAt =>
    some { w with tasks := applySessionIdle aborted receivedAt w.tasks }
  | .tasksSnapshot fence tasks observedAt =>
    some { w with
      tasks :=
        applyTaskSnapshot text fence.generation (tasks.filter isDict) observedAt true w.tasks }
  | .generationReplaced generation now => some (w.replaceGeneration generation now)
  | .others binding tasks => some { w with binding, tasks }

/-! ## What a merge leaves -/

variable {text fence snapshot} {w merged : World}

theorem queue_cases {negative : Bool} (queue : w.queue text fence snapshot negative = some merged) :
    ∃ items steering seen, dictItems "items" snapshot.values = some items ∧
      itemsWhere isStr "steering_messages" snapshot.values = some steering ∧
      presentItems text snapshot items = some seen ∧
      merged = { w.updateBinding fence fun binding =>
          { binding with
            nativeQueueCount := some items.length
            nativeSteeringCount := some steering.length } with
        queueItems :=
          let listed := seen.foldl (fun rows itemId => Dict.set itemId .present rows) w.queueItems
          if negative then
            listed.map fun entry => (entry.1, if entry.1 ∈ seen then entry.2 else .absent)
          else listed } := by
  obtain ⟨items, read, queue⟩ := Option.bind_eq_some_iff.mp queue
  obtain ⟨steering, also, queue⟩ := Option.bind_eq_some_iff.mp queue
  obtain ⟨seen, present, rfl⟩ := Option.map_eq_some_iff.mp queue
  exact ⟨items, steering, seen, read, also, present, rfl⟩

theorem listCommands_cases {negative : Bool}
    (listed : w.listCommands text snapshot negative = some merged) :
    ∃ seen, merged = { w with commands := manifest seen negative w.commands } := by
  obtain ⟨items, _, rest⟩ := Option.bind_eq_some_iff.mp listed
  obtain ⟨_, _, rfl⟩ := Option.map_eq_some_iff.mp rest
  exact ⟨items.filterMap (commandName text), rfl⟩

theorem listAgents_cases {negative : Bool}
    (listed : w.listAgents text snapshot negative = some merged) :
    ∃ seen, merged = { w with agents := manifest seen negative w.agents } := by
  obtain ⟨items, _, rest⟩ := Option.bind_eq_some_iff.mp listed
  obtain ⟨_, _, rfl⟩ := Option.map_eq_some_iff.mp rest
  exact ⟨items.filterMap (agentName text), rfl⟩

/-- No topic touches the epochs, and the rows of tasks and submissions belong to the topic `tasks`.
-/
theorem merge_cases {shown : Evidence} (merge : w.merge text fence snapshot shown = some merged) :
    merged.reconciliation = w.reconciliation ∧
      (merged.tasks = w.tasks ∨
        ∃ tasks, merged.tasks = applyTaskSnapshot text fence.generation tasks snapshot.observedAt
          shown.negative w.tasks) := by
  unfold World.merge at merge
  cases topic : snapshot.topic with
  | activity =>
    rw [topic] at merge
    cases merge
    split
    · exact ⟨rfl, .inl rfl⟩
    · exact ⟨rfl, .inl rfl⟩
  | queue =>
    rw [topic] at merge
    dsimp only at merge
    split at merge
    · obtain ⟨_, _, _, _, _, _, rfl⟩ := queue_cases merge
      exact ⟨rfl, .inl rfl⟩
    · cases merge
      exact ⟨rfl, .inl rfl⟩
  | tasks =>
    rw [topic] at merge
    dsimp only at merge
    split at merge
    · obtain ⟨tasks, _, rfl⟩ := Option.map_eq_some_iff.mp merge
      exact ⟨rfl, .inr ⟨tasks, rfl⟩⟩
    · cases merge
      exact ⟨rfl, .inl rfl⟩
  | commands =>
    rw [topic] at merge
    dsimp only at merge
    split at merge
    · obtain ⟨_, rfl⟩ := listCommands_cases merge
      exact ⟨rfl, .inl rfl⟩
    · cases merge
      exact ⟨rfl, .inl rfl⟩
  | agents =>
    rw [topic] at merge
    dsimp only at merge
    split at merge
    · obtain ⟨_, rfl⟩ := listAgents_cases merge
      exact ⟨rfl, .inl rfl⟩
    · cases merge
      exact ⟨rfl, .inl rfl⟩
  | schedules =>
    rw [topic] at merge
    obtain ⟨_, _, rfl⟩ := Option.map_eq_some_iff.mp merge
    exact ⟨rfl, .inl rfl⟩
  | remote | extensions | mcp | other =>
    rw [topic] at merge
    cases merge
    exact ⟨rfl, .inl rfl⟩

theorem get_reconcile (applied : Bool) (topic : Topic) :
    Dict.get topic (w.reconcile snapshot applied).reconciliation =
      (Dict.get topic w.reconciliation).map fun row =>
        if topic = snapshot.topic then reconciled snapshot applied row else row :=
  Dict.get_mapValues fun key (row : Reconciliation) =>
    if key = snapshot.topic then reconciled snapshot applied row else row

theorem observed_cases {after : World}
    (processed : w.applySnapshotObserved text fence snapshot = some after) :
    (Dict.get snapshot.topic w.reconciliation = none ∧ after = w) ∨
      ∃ row merged, Dict.get snapshot.topic w.reconciliation = some row ∧
        w.merge text fence snapshot (evidence text snapshot w row) = some merged ∧
        (after = merged.reconcile snapshot (evidence text snapshot w row).negative ∨
          after =
            (merged.reconcile snapshot (evidence text snapshot w row).negative).settle fence) := by
  unfold World.applySnapshotObserved at processed
  cases found : Dict.get snapshot.topic w.reconciliation with
  | none =>
    rw [found] at processed
    cases processed
    exact .inl ⟨rfl, rfl⟩
  | some row =>
    rw [found] at processed
    obtain ⟨merged, merge, rfl⟩ := Option.map_eq_some_iff.mp processed
    refine .inr ⟨row, merged, rfl, merge, ?_⟩
    split
    · exact .inr rfl
    · exact .inl rfl

theorem get_requested (topic other : Topic) :
    Dict.get other (w.requested fence topic).reconciliation =
      if other = topic then
        some (match Dict.get topic w.reconciliation with
          | none => ⟨1, 0, .requested, fence.generation, fence.fenceToken, none⟩
          | some row =>
            { row with
              requestedEpoch := row.requestedEpoch + 1
              status := .requested
              runtimeGeneration := fence.generation
              ownerFenceToken := fence.fenceToken })
      else Dict.get other w.reconciliation :=
  Dict.get_set

theorem get_failed (topic other : Topic) (epoch : Int) (observedAt : ℚ) :
    Dict.get other (w.failed topic epoch observedAt).reconciliation =
      (Dict.get other w.reconciliation).map fun row =>
        if other = topic ∧ row.requestedEpoch ≤ epoch then
          { row with status := .failed, observedAt := some observedAt }
        else row :=
  Dict.get_mapValues fun key (row : Reconciliation) =>
    if key = topic ∧ row.requestedEpoch ≤ epoch then
      { row with status := .failed, observedAt := some observedAt }
    else row

theorem get_replaceGeneration (topic : Topic) (generation : Int) (now : ℚ) :
    Dict.get topic (w.replaceGeneration generation now).reconciliation =
      (Dict.get topic w.reconciliation).map fun row =>
        if row.runtimeGeneration ≠ generation then
          { row with status := .stale, observedAt := some now }
        else row :=
  Dict.get_mapValues fun (_ : Topic) (row : Reconciliation) =>
    if row.runtimeGeneration ≠ generation then
      { row with status := .stale, observedAt := some now }
    else row

end Copilotd.Source.Core.Snapshots
