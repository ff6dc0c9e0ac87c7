import Copilotd.Source.Core.ProjectRegistry

/-!
# Configuration versions

A version of a project identifies its configuration, over every interleaving.  The revisions and
the retired projects are another matter: a channel-based mutator advances the version without a
row of `project_config_revisions`, and writes to the project it resolved whatever has become of it
since.  One row for every version, and retired projects that stay as they are, is what a run has
exactly if no such mutator writes in it.
-/
namespace Copilotd.Guarantees.ConfigVersions

open Base Base.Run Source.Core.ProjectConfigs

variable (python : Json.Python)

/-! ## The law -/

/-- Since every moment of the run, a version has only grown, and one that has not has kept its
snapshot. -/
def VersionsIdentify (labels : List Label) (world : World) : Prop :=
  ∀ moment, Passes (step python) {} labels moment →
    ∀ projectId row, moment.db.project projectId = some row →
      ∃ now, world.db.project projectId = some now ∧ row.configVersion ≤ now.configVersion ∧
        (now.configVersion = row.configVersion →
          SameConfig moment.db world.db projectId ∧ now.timezone = row.timezone ∧
            configSnapshotFromConnection python now world.db =
              configSnapshotFromConnection python row moment.db)

def Had (labels : List Label) (projectId : String) (version : Nat) (moment : World)
    (row : Project) : Prop :=
  Passes (step python) {} labels moment ∧ moment.db.project projectId = some row ∧
    row.configVersion = version

/-- The row tells the configuration that a project had. -/
def Tells (revision : Revision) (moment : World) (row : Project) : Prop :=
  ∃ snapshot, configSnapshotFromConnection python row moment.db = some snapshot ∧
    ProjectConfigSnapshot.fromDict python revision.snapshotJson = some snapshot

def Revisions (world : World) (projectId : String) (version : Nat) : List Revision :=
  world.db.revisions.filter fun row =>
    row.projectId = projectId ∧ row.configVersion = version

/-- Exactly the versions that a project has had are recorded, each by one row that tells its
configuration. -/
def RevisionsExact (labels : List Label) (world : World) : Prop :=
  ∀ projectId version,
    (∀ moment row, Had python labels projectId version moment row →
      ∃ revision, Revisions world projectId version = [revision] ∧
        Tells python revision moment row) ∧
    ((∀ moment row, ¬ Had python labels projectId version moment row) →
      Revisions world projectId version = [])

/-- The configuration of a project that was retired is the same. -/
def RetiredUnchanged (labels : List Label) (world : World) : Prop :=
  ∀ moment, Passes (step python) {} labels moment →
    ∀ projectId row, moment.db.project projectId = some row → row.state = .retired →
      SameConfig moment.db world.db projectId

/-! ## Versions -/

variable {python}

theorem owned_empty : ({} : Db).Owned where
  unique := List.nodup_nil
  owned := by
    intro table row member
    cases member
  recorded := List.nodup_nil
  past := by
    intro row member
    cases member
  single := by
    intro channelId one other row also found
    cases found

variable {start world : World} {labels : List Label}

theorem run_owned (owned : start.db.Owned) (reached : run (step python) start labels = some world) :
    world.db.Owned := by
  have keep : ∀ (world : World) label next, world.db.Owned →
      step python world label = some next → next.db.Owned :=
    fun _ _ _ owned taken => (step_sound owned taken).owned
  exact run_inv keep owned reached

variable {moment : World}

theorem passed_owned (passes : Passes (step python) {} labels moment) : moment.db.Owned := by
  obtain ⟨earlier, _, reached⟩ := passes
  exact run_owned owned_empty reached

theorem run_evolves (owned : start.db.Owned)
    (reached : run (step python) start labels = some world) : Evolves start.db world.db := by
  have keep : ∀ (world : World) label next, Evolves start.db world.db ∧ world.db.Owned →
      step python world label = some next → Evolves start.db next.db ∧ next.db.Owned := by
    intro world label next held taken
    have sound := step_sound held.2 taken
    exact ⟨held.1.trans sound.evolves, sound.owned⟩
  exact (run_inv keep ⟨evolves_refl _, owned⟩ reached).1

variable {row now : Project} {next db : Db}

theorem configSnapshot_same (id : now.id = row.id) (follows : row.Follows now)
    (version : now.configVersion = row.configVersion) (same : SameConfig db next row.id) :
    configSnapshotFromConnection python now next = configSnapshotFromConnection python row db := by
  unfold configSnapshotFromConnection
  rw [id, follows.cwd, follows.timezone version, version, same, same, same, same, same]

variable {projectId : String}

theorem identifies (evolves : Evolves db next) (found : db.project projectId = some row)
    (after : next.project projectId = some now) (version : now.configVersion = row.configVersion) :
    SameConfig db next projectId ∧ now.timezone = row.timezone ∧
      ∀ python, configSnapshotFromConnection python now next =
        configSnapshotFromConnection python row db := by
  obtain ⟨other, also, follows, same⟩ := evolves.project projectId row found
  rw [after] at also
  cases also
  have rowId := project_id found
  have nowId := project_id after
  refine ⟨same version, follows.timezone version, ?_⟩
  intro python
  refine configSnapshot_same (nowId.trans rowId.symm) follows version ?_
  rw [rowId]
  exact same version

theorem versionsIdentify (reached : run (step python) {} labels = some world) :
    VersionsIdentify python labels world := by
  intro moment passes projectId row found
  obtain ⟨later, onwards⟩ := passes.onwards reached
  have evolves := run_evolves (passed_owned passes) onwards
  obtain ⟨now, after, follows, _⟩ := evolves.project projectId row found
  refine ⟨now, after, follows.version, ?_⟩
  intro version
  obtain ⟨same, timezone, snapshot⟩ := identifies evolves found after version
  exact ⟨same, timezone, snapshot python⟩

/-! ## Runs without channel-based writes -/

variable (python) in
/-- Every project's version is recorded. -/
structure Recorded (world : World) : Prop where
  owned : world.db.Owned
  present : ∀ projectId now, world.db.project projectId = some now →
    RecordedAt python world.db now

theorem recordedAt_kept (evolves : Evolves db next) (id : now.id = row.id)
    (same : configSnapshotFromConnection python now next =
      configSnapshotFromConnection python row db)
    (version : now.configVersion = row.configVersion) (recorded : RecordedAt python db row) :
    RecordedAt python next now := by
  obtain ⟨revision, member, mine, at_, snapshot, read, decodes⟩ := recorded
  exact ⟨revision, evolves.revisions.subset member, mine.trans id.symm, at_.trans version.symm,
    snapshot, same.trans read, decodes⟩

variable {label : Label}

theorem Recorded.step {next : World} (recorded : Recorded python world)
    (spares : Spares world label) (taken : step python world label = some next) :
    Recorded python next := by
  have recording := step_recording recorded.owned spares taken
  refine ⟨recording.owned, ?_⟩
  intro projectId now after
  rcases recording.complete projectId now after with ⟨old, found, version⟩ | new
  · have same := identifies recording.evolves found after version.symm
    exact recordedAt_kept recording.evolves ((project_id after).trans (project_id found).symm)
      (same.2.2 python) version.symm (recorded.present projectId old found)
  · exact new

theorem run_recorded (recorded : Recorded python start)
    (spared : Along (step python) Spares start labels)
    (reached : run (step python) start labels = some world) : Recorded python world :=
  run_inv_along
    (fun _ _ _ (held : Recorded python _) spares taken => held.step spares taken)
    spared recorded reached

theorem recorded_empty : Recorded python {} := by
  refine ⟨owned_empty, ?_⟩
  intro projectId now found
  cases found

variable {revision : Revision}

theorem revisions_singleton (owned : world.db.Owned) (member : revision ∈ world.db.revisions) :
    Revisions world revision.projectId revision.configVersion = [revision] := by
  have apart := List.pairwise_map.mp owned.recorded
  unfold Revisions
  generalize world.db.revisions = rows at member apart ⊢
  induction rows with
  | nil => cases member
  | cons head tail ih =>
    obtain ⟨fresh, rest⟩ := List.pairwise_cons.mp apart
    rcases List.mem_cons.mp member with rfl | inTail
    · have others : tail.filter (fun row => row.projectId = revision.projectId ∧
          row.configVersion = revision.configVersion) = [] := by
        rw [List.filter_eq_nil_iff]
        intro row there same
        obtain ⟨mine, version⟩ := of_decide_eq_true same
        exact fresh row there (by rw [mine, version])
      rw [List.filter_cons_of_pos (by simp), others]
    · have missed : ¬ decide (head.projectId = revision.projectId ∧
          head.configVersion = revision.configVersion) = true := by
        intro same
        obtain ⟨mine, version⟩ := of_decide_eq_true same
        exact fresh revision inTail (by rw [mine, version])
      rw [List.filter_cons, if_neg missed]
      exact ih inTail rest

theorem had_of_revision (reached : run (step python) {} labels = some world)
    (member : revision ∈ world.db.revisions) :
    ∃ moment row, Had python labels revision.projectId revision.configVersion moment row := by
  have keep : ∀ (world : World) label next, world.db.Owned →
      step python world label = some next → next.db.Owned :=
    fun _ _ _ owned taken => (step_sound owned taken).owned
  have one : ∀ (world : World) label next, world.db.Owned →
      step python world label = some next → revision ∈ next.db.revisions →
      revision ∈ world.db.revisions ∨ ∃ row, next.db.project revision.projectId = some row ∧
        row.configVersion = revision.configVersion := by
    intro world label next owned taken there
    exact ((step_sound owned taken).origin revision there).imp_right And.left
  have came := run_origin (Q := fun world : World => revision ∈ world.db.revisions) keep one
    owned_empty reached member
  rcases came with start | ⟨moment, passes, row, found, version⟩
  · cases start
  · exact ⟨moment, row, passes, found, version⟩

theorem revisionsExact (reached : run (step python) {} labels = some world)
    (spared : Along (step python) Spares {} labels) : RevisionsExact python labels world := by
  intro projectId version
  constructor
  · rintro moment row ⟨passes, found, rfl⟩
    obtain ⟨later, onwards⟩ := passes.onwards reached
    obtain ⟨earlier, ⟨rest, rfl⟩, before⟩ := passes
    have recorded := run_recorded recorded_empty (along_append before spared).1 before
    obtain ⟨revision, member, mine, at_, tells⟩ := recorded.present projectId row found
    have evolves := run_evolves recorded.owned onwards
    have single := revisions_singleton (run_owned recorded.owned onwards)
      (evolves.revisions.subset member)
    rw [mine, at_, project_id found] at single
    exact ⟨revision, single, tells⟩
  · intro never
    unfold Revisions
    rw [List.filter_eq_nil_iff]
    intro revision member same
    obtain ⟨mine, at_⟩ := of_decide_eq_true same
    obtain ⟨moment, row, had⟩ := had_of_revision reached member
    rw [mine, at_] at had
    exact never moment row had

theorem retired_version (owned : moment.db.Owned) (found : moment.db.project projectId = some row)
    (retired : row.state = .retired) (spared : Along (step python) Spares moment labels)
    (reached : run (step python) moment labels = some world) :
    ∃ now, world.db.project projectId = some now ∧ now.configVersion = row.configVersion := by
  let Stays (world : World) : Prop := world.db.Owned ∧
    ∃ now, world.db.project projectId = some now ∧ now.state = .retired ∧
      now.configVersion = row.configVersion
  have keep : ∀ world label next, Stays world → Spares world label →
      step python world label = some next → Stays next := by
    rintro world label next ⟨owned, now, there, gone, version⟩ spares taken
    have recording := step_recording owned spares taken
    obtain ⟨after, here, follows, _⟩ := recording.evolves.project projectId now there
    exact ⟨recording.owned, after, here, follows.retired gone,
      (recording.frozen projectId now there gone after here).trans version⟩
  have start : Stays moment := ⟨owned, row, found, retired, rfl⟩
  obtain ⟨_, now, there, _, version⟩ := run_inv_along keep spared start reached
  exact ⟨now, there, version⟩

theorem retiredUnchanged (reached : run (step python) {} labels = some world)
    (spared : Along (step python) Spares {} labels) : RetiredUnchanged python labels world := by
  intro moment passes projectId row found retired
  have owned := passed_owned passes
  obtain ⟨earlier, ⟨later, rfl⟩, before⟩ := passes
  rw [run_append, before, Option.bind_some] at reached
  obtain ⟨now, after, version⟩ :=
    retired_version owned found retired (along_append before spared).2 reached
  exact (identifies (run_evolves owned reached) found after version).1

/-! ## A channel-based write -/

/-- The project has come to a version that has no row. -/
structure Missing (projectId : String) (version : Nat) (world : World) : Prop where
  owned : world.db.Owned
  reached : ∃ row, world.db.project projectId = some row ∧ version ≤ row.configVersion
  absent : ∀ row ∈ world.db.revisions, row.projectId = projectId → row.configVersion ≠ version

theorem Missing.step {version : Nat} {next : World} (missing : Missing projectId version world)
    (taken : step python world label = some next) : Missing projectId version next := by
  have sound := step_sound missing.owned taken
  obtain ⟨row, found, past⟩ := missing.reached
  obtain ⟨now, after, follows, _⟩ := sound.evolves.project projectId row found
  refine ⟨sound.owned, ⟨now, after, le_trans past follows.version⟩, ?_⟩
  intro revision member mine
  rcases sound.origin revision member with old | ⟨_, newer⟩
  · exact missing.absent revision old mine
  · subst mine
    have later := newer row found
    omega

theorem missing_of_not_spares {next : World} (owned : world.db.Owned)
    (taken : step python world label = some next) (writes : ¬ Spares world label) :
    ∃ projectId row, next.db.project projectId = some row ∧
      Missing projectId row.configVersion next := by
  have sound := step_sound owned taken
  cases label with
  | transacts index =>
    obtain ⟨call, found, rfl⟩ := Option.map_eq_some_iff.mp taken
    have there := (Option.filter_eq_some_iff.mp found).1
    cases call with
    | resolved projectId change expectedVersion =>
      have applies : change.applies projectId expectedVersion world.db := by
        simpa [Spares, Label.channelWrites, there, Call.channelWrites] using writes
      have db : (Call.resolved projectId change expectedVersion).transact python world.db =
          advanced projectId change.edit world.db := by
        rw [Call.transact, channel_transaction, if_pos applies]
      obtain ⟨row, before, _⟩ := (Option.any_eq_true _ _).mp (of_decide_eq_true applies).1
      have after := advanced_project world.db projectId change.edit projectId
      rw [before, Option.map_some, if_pos rfl] at after
      refine ⟨projectId, advance row, by rw [db]; exact after, sound.owned,
        ⟨advance row, by rw [db]; exact after, le_refl _⟩, ?_⟩
      intro revision member mine
      rw [db] at member
      have old : revision ∈ world.db.revisions := by
        have same : (advanced projectId change.edit world.db).revisions = world.db.revisions :=
          edit_revisions change.edit
        rw [← same]
        exact member
      obtain ⟨project, at_, past⟩ := owned.past revision old
      rw [mine, before] at at_
      cases at_
      exact Nat.ne_of_lt (Nat.lt_succ_of_le past)
    | _ => exact absurd (by simp [Spares, Label.channelWrites, there, Call.channelWrites]) writes
  | _ => exact absurd rfl writes

theorem spared_of_revisionsExact (reached : run (step python) {} labels = some world)
    (exact_ : RevisionsExact python labels world) : Along (step python) Spares {} labels := by
  by_contra broken
  obtain ⟨moment, label, next, later, passes, taken, writes, also, onwards⟩ :=
    breach_of_not_along reached broken
  obtain ⟨projectId, row, found, missing⟩ :=
    missing_of_not_spares (passed_owned passes) taken writes
  obtain ⟨revision, alone, _⟩ :=
    (exact_ projectId row.configVersion).1 next row ⟨also, found, rfl⟩
  have last : Missing projectId row.configVersion world :=
    run_inv (fun _ _ _ (held : Missing projectId row.configVersion _) taken => held.step taken)
      missing onwards
  have member : revision ∈ Revisions world projectId row.configVersion := by
    rw [alone]
    exact List.mem_singleton_self _
  obtain ⟨there, same⟩ := List.mem_filter.mp member
  obtain ⟨mine, version⟩ := of_decide_eq_true same
  exact last.absent revision there mine version

/-- Over every interleaving a version identifies its configuration; the revisions are exact, and
retired projects keep their configuration, if and only if no channel-based mutator writes. -/
theorem versions_of_projects (python : Json.Python) {labels : List Label} {world : World}
    (reached : run (step python) {} labels = some world) :
    VersionsIdentify python labels world ∧
      (RevisionsExact python labels world ∧ RetiredUnchanged python labels world ↔
        Along (step python) Spares {} labels) := by
  refine ⟨versionsIdentify reached, ?_⟩
  constructor
  · intro both
    exact spared_of_revisionsExact reached both.1
  · intro spared
    exact ⟨revisionsExact reached spared, retiredUnchanged reached spared⟩

/-- Conversions of a Python in which the configurations hold strings alone. -/
def textual : Json.Python where
  str := fun _ => ""
  int := fun _ => none

/-- A bound project, and a variable that is set by the project's id. -/
def recordedLabels : List Label :=
  [.binds "channel" "/work" "project" "UTC" false,
   .callsProject "project" (.setVariable "TOKEN" "one") (some 1), .transacts 0]

theorem versions_of_projects_recorded :
    ∃ world, run (step textual) {} recordedLabels = some world ∧
      world.db.revisions.map (·.configVersion) = [1, 2] ∧
      VersionsIdentify textual recordedLabels world ∧
      RevisionsExact textual recordedLabels world ∧
      RetiredUnchanged textual recordedLabels world := by
  obtain ⟨world, reached, versions⟩ :
      ∃ world, run (step textual) {} recordedLabels = some world ∧
        world.db.revisions.map (·.configVersion) = [1, 2] := by
    refine ⟨_, rfl, ?_⟩
    decide +kernel
  have law := versions_of_projects textual reached
  exact ⟨world, reached, versions, law.1, law.2.mpr (by decide +kernel)⟩

/-- A variable that is set by the channel, after its project was retired. -/
def unrecordedLabels : List Label :=
  [.binds "channel" "/work" "project" "UTC" false,
   .calls "channel" (.setProjectEnv "TOKEN" "one") none, .reads 0, .unbinds "channel" false,
   .transacts 0]

theorem channel_write_to_retired_unrecorded :
    ∃ world, run (step textual) {} unrecordedLabels = some world ∧
      ¬ RevisionsExact textual unrecordedLabels world ∧
      ¬ RetiredUnchanged textual unrecordedLabels world := by
  obtain ⟨moment, before, was, gone⟩ :
      ∃ moment, run (step textual) {} (unrecordedLabels.take 4) = some moment ∧
        (moment.db.project "project").map (·.state) = some .retired ∧
        moment.db.entries .projectEnv "project" = [] := by
    exact ⟨_, rfl, by decide +kernel, rfl⟩
  obtain ⟨world, reached, version, unrecorded, variable_⟩ :
      ∃ world, run (step textual) {} unrecordedLabels = some world ∧
        (world.db.project "project").map (·.configVersion) = some 2 ∧
        Revisions world "project" 2 = [] ∧
        (world.db.entries .projectEnv "project").length = 1 := by
    exact ⟨_, rfl, by decide +kernel, rfl, rfl⟩
  refine ⟨world, reached, ?_, ?_⟩
  · intro exact_
    obtain ⟨row, found, same⟩ := Option.map_eq_some_iff.mp version
    obtain ⟨revision, alone, _⟩ :=
      (exact_ "project" 2).1 world row ⟨passes_end reached, found, same⟩
    rw [unrecorded] at alone
    cases alone
  · intro unchanged
    obtain ⟨row, found, retired⟩ := Option.map_eq_some_iff.mp was
    have same := unchanged moment ⟨_, List.take_prefix 4 _, before⟩ "project" row found retired
      .projectEnv
    rw [same, gone] at variable_
    cases variable_

end Copilotd.Guarantees.ConfigVersions
