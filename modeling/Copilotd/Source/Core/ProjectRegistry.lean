import Copilotd.Base.Run
import Copilotd.Source.Core.ProjectConfigs

/-!
# Calls of the project registry

Source: `core/projects.py` (`ProjectRegistry`, with the reads that come before a transaction).

A configuration mutator of a channel resolves the channel's project first and writes in a later
transaction; the four methods that both families share look at the project's state before that.
Other calls, and other tasks' projects, come in between.  The worktree manager is the environment
of `register_worktree_project`, `retire_project` and the state `closing`.
-/
namespace Copilotd.Source.Core.ProjectConfigs

open Base Base.Table

/-- The methods that take a project id, and fall back to the channel-based family. -/
inductive NamedChange where
  | toggleMcpServer (name : String) (enabled : Bool)
  | removeMcpServer (name : String)
  | toggleCustomAgent (name : String) (enabled : Bool)
  | removeCustomAgent (name : String)

def NamedChange.forProject : NamedChange → ProjectChange
  | .toggleMcpServer name enabled => .toggleMcpServer name enabled
  | .removeMcpServer name => .removeMcpServer name
  | .toggleCustomAgent name enabled => .toggleCustomAgent name enabled
  | .removeCustomAgent name => .removeCustomAgent name

def NamedChange.forChannel : NamedChange → ChannelChange
  | .toggleMcpServer name enabled => .toggleMcpServerForChannel name enabled
  | .removeMcpServer name => .removeMcpServerForChannel name
  | .toggleCustomAgent name enabled => .toggleCustomAgentForChannel name enabled
  | .removeCustomAgent name => .removeCustomAgentForChannel name

inductive Call where
  /-- Before `_require_explicit_project`. -/
  | channel (channelId : String) (change : ChannelChange) (expectedVersion : Option Nat)
  /-- Before `SELECT 1 FROM projects`. -/
  | named (projectId : String) (change : NamedChange) (expectedVersion : Option Nat)
  /-- Before the transaction of the channel-based family. -/
  | resolved (projectId : String) (change : ChannelChange) (expectedVersion : Option Nat)
  /-- Before `_mutate_config`. -/
  | project (projectId : String) (change : ProjectChange) (expectedVersion : Option Nat)

structure World where
  db : Db := {}
  calls : List Call := []

inductive Label where
  | calls (channelId : String) (change : ChannelChange) (expectedVersion : Option Nat)
  | callsNamed (projectId : String) (change : NamedChange) (expectedVersion : Option Nat)
  | callsProject (projectId : String) (change : ProjectChange) (expectedVersion : Option Nat)
  /-- The read before the transaction. -/
  | reads (index : Nat)
  | transacts (index : Nat)
  | binds (channelId path projectId timezone : String) (blocked : Bool)
  | unbinds (channelId : String) (blocked : Bool)
  | setsChannelTimezone (channelId timezone : String)
  /-- `set_layout` and `set_mention_required`. -/
  | setsChannel (channelId : String) (layout : Option String) (mentionRequired : Option Bool)
  | registersWorktree (parentProjectId projectId path : String)
  | retires (projectId : String)
  | closes (projectId : String)

def Call.read (db : Db) : Call → Option Call
  | .channel channelId change expectedVersion =>
    (db.activeProject channelId).map fun project => .resolved project.id change expectedVersion
  | .named projectId change expectedVersion =>
    some (if (db.project projectId).any (·.state ∈ mutableStates) then
        .project projectId change.forProject expectedVersion
      else .channel projectId change.forChannel expectedVersion)
  | call => some call

variable (python : Json.Python)

def Call.transact (db : Db) : Call → Db
  | .resolved projectId change expectedVersion =>
    (change.transaction projectId expectedVersion db).getD db
  | .project projectId change expectedVersion =>
    (change.mutateConfig python projectId expectedVersion db).getD db
  | _ => db

def Call.ready : Call → Bool
  | .resolved _ _ _ | .project _ _ _ => true
  | _ => false

def Label.transact (db : Db) : Label → Db
  | .binds channelId path projectId timezone blocked =>
    (bind channelId path projectId timezone blocked db).getD db
  | .unbinds channelId blocked => (unbind channelId blocked db).getD db
  | .setsChannelTimezone channelId timezone =>
    (setChannelTimezone python channelId timezone db).getD db
  | .setsChannel channelId layout mentionRequired =>
    upsertChannelSetting channelId layout mentionRequired db
  | .registersWorktree parentProjectId projectId path =>
    (registerWorktreeProject python parentProjectId projectId path db).getD db
  | .retires projectId => retireProject projectId db
  | .closes projectId => closeProject projectId db
  | _ => db

def step (world : World) : Label → Option World
  | .calls channelId change expectedVersion =>
    some { world with calls := world.calls ++ [.channel channelId change expectedVersion] }
  | .callsNamed projectId change expectedVersion =>
    some { world with calls := world.calls ++ [.named projectId change expectedVersion] }
  | .callsProject projectId change expectedVersion =>
    some { world with calls := world.calls ++ [.project projectId change expectedVersion] }
  | .reads index =>
    (world.calls[index]?).map fun call =>
      match call.read world.db with
      | none => { world with calls := world.calls.eraseIdx index }
      | some read => { world with calls := world.calls.set index read }
  | .transacts index =>
    ((world.calls[index]?).filter (·.ready)).map fun call =>
      { db := call.transact python world.db, calls := world.calls.eraseIdx index }
  | label => some { world with db := label.transact python world.db }

/-! ## What a transaction keeps -/

variable {python}

/-- The rows of the five tables belong to projects, and ids are unique. -/
structure Db.Owned (db : Db) : Prop where
  unique : (db.projects.map (·.id)).Nodup
  owned : ∀ table, ∀ row ∈ db.tables table, (db.project row.projectId).isSome
  recorded : (db.revisions.map fun row => (row.projectId, row.configVersion)).Nodup
  past : ∀ row ∈ db.revisions, ∃ project, db.project row.projectId = some project ∧
    row.configVersion ≤ project.configVersion
  /-- `projects_one_active_per_channel`. -/
  single : ∀ channelId one other row also, db.project one = some row →
    db.project other = some also → isActive channelId row → isActive channelId also → one = other

def SameConfig (db next : Db) (projectId : String) : Prop :=
  ∀ table, next.entries table projectId = db.entries table projectId

/-- What a transaction does to a row of `projects`. -/
structure Project.Follows (row now : Project) : Prop where
  cwd : now.cwd = row.cwd
  channelId : now.channelId = row.channelId
  version : row.configVersion ≤ now.configVersion
  timezone : now.configVersion = row.configVersion → now.timezone = row.timezone
  retired : row.state = .retired → now.state = .retired
  active : now.state = .active → row.state = .active

theorem Project.follows_refl (row : Project) : row.Follows row :=
  ⟨rfl, rfl, le_refl _, fun _ => rfl, fun retired => retired, fun active => active⟩

variable {row now : Project}

theorem Project.Follows.isActive (follows : row.Follows now) {channelId : String}
    (active : isActive channelId now) : isActive channelId row := by
  have both := of_decide_eq_true active
  refine decide_eq_true ⟨?_, follows.active both.2⟩
  rw [← follows.channelId]
  exact both.1

/-- A version keeps its configuration. -/
structure Evolves (db next : Db) : Prop where
  project : ∀ id row, db.project id = some row → ∃ now, next.project id = some now ∧
    row.Follows now ∧ (now.configVersion = row.configVersion → SameConfig db next id)
  revisions : db.revisions <+: next.revisions

theorem evolves_refl (db : Db) : Evolves db db :=
  ⟨fun _ row found => ⟨row, found, row.follows_refl, fun _ _ => rfl⟩, List.prefix_rfl⟩

variable {next : Db}

theorem Evolves.trans {db last : Db} (first : Evolves db next) (second : Evolves next last) :
    Evolves db last := by
  refine ⟨?_, first.revisions.trans second.revisions⟩
  intro id row found
  obtain ⟨middle, there, follows, kept⟩ := first.project id row found
  obtain ⟨now, last_, also, still⟩ := second.project id middle there
  refine ⟨now, last_, ⟨also.cwd.trans follows.cwd, also.channelId.trans follows.channelId,
    le_trans follows.version also.version, ?_,
      fun retired => also.retired (follows.retired retired),
    fun active => follows.active (also.active active)⟩, ?_⟩
  · intro same
    have low := follows.version
    have high := also.version
    rw [also.timezone (by omega), follows.timezone (by omega)]
  · intro same table
    have low := follows.version
    have high := also.version
    rw [still (by omega) table, kept (by omega) table]

/-! ## Rows of one project -/

variable {db : Db} {table : ConfigTable} {projectId other key : String}

theorem filter_updateWhere {α : Type} {hit keep : α → Bool} {set : α → α} {rows : List α}
    (same : ∀ row, keep (set row) = keep row) (apart : ∀ row, keep row → hit row = false) :
    (updateWhere hit set rows).filter keep = rows.filter keep := by
  induction rows with
  | nil => rfl
  | cons head tail ih =>
    unfold updateWhere at ih ⊢
    rw [List.map_cons]
    by_cases kept : keep head
    · rw [apart head kept, if_neg Bool.false_ne_true, List.filter_cons_of_pos kept,
        List.filter_cons_of_pos kept, ih]
    · have lost : ¬ keep (if hit head then set head else head) := by
        split
        · rw [same]
          exact kept
        · exact kept
      rw [List.filter_cons_of_neg lost, List.filter_cons_of_neg kept, ih]

theorem write_tables_self (rows : List (Entry table.Value)) :
    (db.write table rows).tables table = rows := Function.update_self ..

variable {asked : ConfigTable}

theorem write_tables_other (different : asked ≠ table) (rows : List (Entry table.Value)) :
    (db.write table rows).tables asked = db.tables asked :=
  Function.update_of_ne different ..

variable {rows : List (Entry table.Value)}

theorem entries_write (same : rows.filter (fun row => row.projectId = other) =
      (db.tables table).filter fun row => row.projectId = other) :
    SameConfig db (db.write table rows) other := by
  intro asked
  unfold Db.entries
  by_cases equal : asked = table
  · subst equal
    rw [write_tables_self, same]
  · rw [write_tables_other equal]

theorem modify_same {set : table.Value → table.Value} (different : other ≠ projectId) :
    SameConfig db (modify table projectId key set db) other := by
  refine entries_write (filter_updateWhere (fun _ => rfl) ?_)
  intro row mine
  simp only [decide_eq_true_eq] at mine
  simp [mine, different]

theorem upsert_same {set : Option table.Value → table.Value} (different : other ≠ projectId) :
    SameConfig db (upsert table projectId key set db) other := by
  unfold upsert
  split
  · exact modify_same different
  · refine entries_write ?_
    simp [List.filter_append, Ne.symm different]

theorem delete_same (different : other ≠ projectId) :
    SameConfig db (delete table projectId key db) other := by
  refine entries_write ?_
  rw [List.filter_filter]
  refine List.filter_congr ?_
  intro row _
  by_cases mine : row.projectId = other
  · simp [mine, different]
  · simp [mine]

theorem edit_same (edit : Edit) (different : other ≠ projectId) :
    SameConfig db (edit.write projectId db) other := by
  cases edit with
  | set table key value => exact upsert_same different
  | toggle table key enabled => exact modify_same different
  | remove table key => exact delete_same different

theorem edit_projects (edit : Edit) : (edit.write projectId db).projects = db.projects := by
  cases edit with
  | set table key value =>
    simp only [Edit.write, upsert]
    split <;> rfl
  | _ => rfl

theorem edit_revisions (edit : Edit) : (edit.write projectId db).revisions = db.revisions := by
  cases edit with
  | set table key value =>
    simp only [Edit.write, upsert]
    split <;> rfl
  | _ => rfl

theorem edit_project (edit : Edit) (id : String) :
    (edit.write projectId db).project id = db.project id := by
  rw [Db.project, edit_projects, Db.project]

theorem mem_write {row : Entry asked.Value} (member : row ∈ (db.write table rows).tables asked)
    (from_ : ∀ new ∈ rows, new.projectId = projectId ∨
      ∃ old ∈ db.tables table, old.projectId = new.projectId) :
    row.projectId = projectId ∨ ∃ old ∈ db.tables asked, old.projectId = row.projectId := by
  by_cases equal : asked = table
  · subst equal
    rw [write_tables_self] at member
    exact from_ row member
  · rw [write_tables_other equal] at member
    exact .inr ⟨row, member, rfl⟩

theorem mem_edit (edit : Edit) {row : Entry asked.Value}
    (member : row ∈ (edit.write projectId db).tables asked) :
    row.projectId = projectId ∨ ∃ old ∈ db.tables asked, old.projectId = row.projectId := by
  have modified : ∀ {table : ConfigTable} {key : String} {set : table.Value → table.Value},
      row ∈ (modify table projectId key set db).tables asked →
      row.projectId = projectId ∨ ∃ old ∈ db.tables asked, old.projectId = row.projectId := by
    intro table key set member
    refine mem_write member ?_
    intro new there
    obtain ⟨old, was, rfl⟩ := mem_updateWhere.mp there
    refine .inr ⟨old, was, ?_⟩
    split <;> rfl
  cases edit with
  | set table key value =>
    simp only [Edit.write, upsert] at member
    split at member
    · exact modified member
    · refine mem_write member ?_
      intro new there
      rcases List.mem_append.mp there with old | last
      · exact .inr ⟨new, old, rfl⟩
      · rw [List.mem_singleton.mp last]
        exact .inl rfl
  | toggle table key enabled => exact modified member
  | remove table key =>
    refine mem_write member ?_
    intro new there
    exact .inr ⟨new, (List.mem_filter.mp there).1, rfl⟩

theorem edit_update_comm (edit : Edit) (hit : Project → Bool) (set : Project → Project) :
    edit.write projectId (db.updateProjects hit set) =
      (edit.write projectId db).updateProjects hit set := by
  cases edit with
  | set table key value =>
    simp only [Edit.write, upsert]
    split
    next here => rw [if_pos (show present table projectId key db from here)]; rfl
    next gone => rw [if_neg (show ¬ present table projectId key db from gone)]; rfl
  | _ => rfl

/-! ## Rows of `projects` -/

variable {set : Project → Project} {hit : Project → Bool}

theorem project_updateProjects (same : ∀ row, (set row).id = row.id) (id : String) :
    (db.updateProjects hit set).project id =
      (db.project id).map fun row => if hit row then set row else row :=
  lookup_updateWhere same id db.projects

variable {id : String}

theorem project_id (found : db.project id = some row) : row.id = id :=
  lookup_some_key found

theorem project_updateProject (same : ∀ row, (set row).id = row.id) (id : String) :
    (db.updateProject projectId set).project id =
      (db.project id).map fun row => if id = projectId then set row else row := by
  unfold Db.updateProject
  rw [project_updateProjects same]
  cases found : db.project id with
  | none => rfl
  | some row => simp [project_id found]

theorem advance_id (row : Project) : (advance row).id = row.id := rfl

/-! ## Transactions -/

variable (python) in
/-- The row of a version holds its configuration. -/
def RecordedAt (db : Db) (project : Project) : Prop :=
  ∃ row ∈ db.revisions, row.projectId = project.id ∧ row.configVersion = project.configVersion ∧
    ∃ snapshot, configSnapshotFromConnection python project db = some snapshot ∧
      ProjectConfigSnapshot.fromDict python row.snapshotJson = some snapshot

/-- What every transaction does. -/
structure Sound (db next : Db) : Prop where
  evolves : Evolves db next
  owned : next.Owned
  /-- A new row is for a new version. -/
  origin : ∀ row ∈ next.revisions, row ∈ db.revisions ∨
    (∃ now, next.project row.projectId = some now ∧ now.configVersion = row.configVersion) ∧
      ∀ old, db.project row.projectId = some old → old.configVersion < row.configVersion

variable (python) in
/-- What the transactions outside the channel-based family do. -/
structure Recording (db next : Db) : Prop extends Sound db next where
  complete : ∀ id now, next.project id = some now →
    (∃ old, db.project id = some old ∧ old.configVersion = now.configVersion) ∨
      RecordedAt python next now
  frozen : ∀ id row, db.project id = some row → row.state = .retired →
    ∀ now, next.project id = some now → now.configVersion = row.configVersion

theorem sound_refl (owned : db.Owned) : Sound db db :=
  ⟨evolves_refl db, owned, fun _ member => .inl member⟩

theorem recording_refl (owned : db.Owned) : Recording python db db :=
  { toSound := sound_refl owned
    complete := fun _ now found => .inl ⟨now, found, rfl⟩
    frozen := fun _ row found _ now also => by rw [found] at also; cases also; rfl }

theorem recording_update (owned : db.Owned) (same : ∀ row, (set row).id = row.id)
    (kept : ∀ row, hit row → row.Follows (set row) ∧
      (set row).configVersion = row.configVersion) :
    Recording python db (db.updateProjects hit set) := by
  have found : ∀ id row, db.project id = some row → ∃ now,
      (db.updateProjects hit set).project id = some now ∧ row.Follows now ∧
        now.configVersion = row.configVersion := by
    intro id row there
    rw [project_updateProjects same, there, Option.map_some]
    refine ⟨_, rfl, ?_⟩
    split
    next hits => exact kept row hits
    next => exact ⟨row.follows_refl, rfl⟩
  have back : ∀ id now, (db.updateProjects hit set).project id = some now →
      ∃ row, db.project id = some row ∧ row.Follows now ∧
        row.configVersion = now.configVersion := by
    intro id now there
    rw [project_updateProjects same] at there
    obtain ⟨row, was, rfl⟩ := Option.map_eq_some_iff.mp there
    refine ⟨row, was, ?_⟩
    split
    next hits => exact ⟨(kept row hits).1, ((kept row hits).2).symm⟩
    next => exact ⟨row.follows_refl, rfl⟩
  refine { evolves := ⟨?_, List.prefix_rfl⟩, owned := ⟨?_, ?_, owned.recorded, ?_, ?_⟩
           origin := fun _ member => .inl member, complete := ?_, frozen := ?_ }
  · intro id row there
    obtain ⟨now, after, follows, _⟩ := found id row there
    exact ⟨now, after, follows, fun _ _ => rfl⟩
  · rw [Db.updateProjects, map_updateWhere same]
    exact owned.unique
  · intro table row member
    obtain ⟨project, there⟩ := Option.isSome_iff_exists.mp (owned.owned table row member)
    obtain ⟨now, after, _⟩ := found _ _ there
    rw [after]
    rfl
  · intro row member
    obtain ⟨project, there, le⟩ := owned.past row member
    obtain ⟨now, after, _, version⟩ := found _ _ there
    exact ⟨now, after, by omega⟩
  · intro channelId one other row also first second mine too
    obtain ⟨oldRow, was, follows, _⟩ := back one row first
    obtain ⟨oldAlso, before, also_, _⟩ := back other also second
    exact owned.single channelId one other oldRow oldAlso was before (follows.isActive mine)
      (also_.isActive too)
  · intro id now there
    obtain ⟨old, was, _, version⟩ := back id now there
    exact .inl ⟨old, was, version⟩
  · intro id row there _ now after
    obtain ⟨again, also, _, version⟩ := back id now after
    rw [there] at also
    cases also
    exact version.symm

/-- A mutator has written its edit and advanced the version. -/
def advanced (projectId : String) (edit : Edit) (db : Db) : Db :=
  (edit.write projectId db).updateProject projectId advance

theorem advanced_project (db : Db) (projectId : String) (edit : Edit) (id : String) :
    (advanced projectId edit db).project id =
      (db.project id).map fun row => if id = projectId then advance row else row := by
  rw [advanced, project_updateProject advance_id, edit_project]

/-- A step to the next version. -/
structure Project.Bumps (row now : Project) : Prop where
  id : now.id = row.id
  cwd : now.cwd = row.cwd
  channelId : now.channelId = row.channelId
  state : now.state = row.state
  version : now.configVersion = row.configVersion + 1

theorem Project.Bumps.follows (bumps : row.Bumps now) : row.Follows now := by
  have version := bumps.version
  exact ⟨bumps.cwd, bumps.channelId, by omega, by omega, fun retired => bumps.state.trans retired,
    fun active => bumps.state.symm.trans active⟩

variable {middle : Db}

theorem bumped_sound (owned : db.Owned)
    (projects : middle.projects = (db.updateProjects hit set).projects)
    (revisions : middle.revisions = db.revisions) (bumps : ∀ row : Project, row.Bumps (set row))
    (same : ∀ id row, db.project id = some row → hit row = false → SameConfig db middle id)
    (rows : ∀ table, ∀ row ∈ middle.tables table, (db.project row.projectId).isSome ∨
      ∃ old ∈ db.tables table, old.projectId = row.projectId) : Sound db middle := by
  have looked : ∀ id, middle.project id =
      (db.project id).map fun row => if hit row then set row else row := by
    intro id
    rw [Db.project, projects]
    exact project_updateProjects (fun row => (bumps row).id) id
  have found : ∀ id row, db.project id = some row →
      middle.project id = some (if hit row then set row else row) := by
    intro id row there
    rw [looked, there, Option.map_some]
  refine ⟨⟨?_, revisions ▸ List.prefix_rfl⟩,
    ⟨?_, ?_, by rw [revisions]; exact owned.recorded, ?_, ?_⟩, ?_⟩
  · intro id row there
    refine ⟨_, found id row there, ?_⟩
    by_cases hits : hit row
    · rw [if_pos hits]
      refine ⟨(bumps row).follows, ?_⟩
      intro equal
      have version := (bumps row).version
      omega
    · rw [if_neg hits]
      exact ⟨row.follows_refl, fun _ => same id row there (by simpa using hits)⟩
  · rw [projects, Db.updateProjects, map_updateWhere fun row => (bumps row).id]
    exact owned.unique
  · intro table row member
    have there : (db.project row.projectId).isSome := by
      rcases rows table row member with there | ⟨old, was, equal⟩
      · exact there
      · rw [← equal]
        exact owned.owned table old was
    obtain ⟨project, present⟩ := Option.isSome_iff_exists.mp there
    rw [found _ _ present]
    rfl
  · intro row member
    rw [revisions] at member
    obtain ⟨project, there, le⟩ := owned.past row member
    refine ⟨_, found _ _ there, ?_⟩
    split
    · have version := (bumps project).version
      omega
    · exact le
  · intro channelId one other row also first second mine too
    have back : ∀ id now, middle.project id = some now → isActive channelId now →
        ∃ old, db.project id = some old ∧ isActive channelId old := by
      intro id now there active
      rw [looked] at there
      obtain ⟨old, was, rfl⟩ := Option.map_eq_some_iff.mp there
      refine ⟨old, was, ?_⟩
      split at active
      · exact (bumps old).follows.isActive active
      · exact active
    obtain ⟨oldRow, was, active⟩ := back one row first mine
    obtain ⟨oldAlso, before, also_⟩ := back other also second too
    exact owned.single channelId one other oldRow oldAlso was before active also_
  · intro row member
    rw [revisions] at member
    exact .inl member

theorem advanced_sound (owned : db.Owned) (edit : Edit)
    (exists_ : (db.project projectId).isSome) : Sound db (advanced projectId edit db) := by
  have projects : (advanced projectId edit db).projects =
      (db.updateProjects (·.id = projectId) advance).projects := by
    rw [advanced, Db.updateProject, Db.updateProjects, edit_projects]
    rfl
  refine bumped_sound owned projects (edit_revisions edit)
    (fun row : Project => (⟨rfl, rfl, rfl, rfl, rfl⟩ : row.Bumps (advance row))) ?_ ?_
  · intro id row there missed
    refine edit_same edit ?_
    rintro rfl
    simp [project_id there] at missed
  · intro table row member
    rcases mem_edit edit member with mine | old
    · rw [mine]
      exact .inl exists_
    · exact .inr old

theorem recording_record (sound : Sound db middle) (revisions : middle.revisions = db.revisions)
    (newer : ∀ now, middle.project projectId = some now →
      (∀ row ∈ db.revisions, row.projectId = projectId → row.configVersion < now.configVersion) ∧
        ∀ row, db.project projectId = some row → row.state ≠ .retired ∧
          row.configVersion < now.configVersion)
    (others : ∀ id now, id ≠ projectId → middle.project id = some now →
      ∃ old, db.project id = some old ∧ old.configVersion = now.configVersion)
    (done : recordRevision python projectId middle = some next) : Recording python db next := by
  obtain ⟨now, found, done⟩ := Option.bind_eq_some_iff.mp done
  obtain ⟨snapshot, read, done⟩ := Option.bind_eq_some_iff.mp done
  obtain ⟨fresh, notRetired⟩ := newer now found
  have absent : middle.revisions.any (fun row =>
      row.projectId = projectId ∧ row.configVersion = now.configVersion) = false := by
    rw [revisions, List.any_eq_false]
    intro row member same
    obtain ⟨mine, version⟩ := of_decide_eq_true same
    have low := fresh row member mine
    omega
  have result : next = { middle with revisions := middle.revisions ++
      [{ projectId, configVersion := now.configVersion, snapshotJson := snapshot.toDict }] } := by
    have inserted := Option.some.inj done
    rw [insertConfigRevision, absent, if_neg Bool.false_ne_true] at inserted
    exact inserted.symm
  subst result
  refine { evolves := ⟨sound.evolves.project, ?_⟩
           owned := ⟨sound.owned.unique, sound.owned.owned, ?_, ?_, sound.owned.single⟩
           origin := ?_, complete := ?_, frozen := ?_ }
  · rw [← revisions]
    exact List.prefix_append _ _
  · rw [List.map_append, List.map_singleton, List.nodup_append]
    refine ⟨sound.owned.recorded, by simp, ?_⟩
    intro pair old new member same
    obtain ⟨row, there, rfl⟩ := List.mem_map.mp old
    rw [List.mem_singleton.mp member] at same
    obtain ⟨mine, version⟩ := Prod.mk.inj same
    have low := fresh row (by rw [← revisions]; exact there) mine
    dsimp only at version
    omega
  · intro row member
    rcases List.mem_append.mp member with old | new
    · exact sound.owned.past row old
    · rw [List.mem_singleton.mp new]
      exact ⟨now, found, le_refl _⟩
  · intro row member
    rcases List.mem_append.mp member with old | new
    · rw [revisions] at old
      exact .inl old
    · rw [List.mem_singleton.mp new]
      exact .inr ⟨⟨now, found, rfl⟩, fun old was => (notRetired old was).2⟩
  · intro id row there
    by_cases mine : id = projectId
    · subst mine
      change middle.project id = some row at there
      rw [found] at there
      cases there
      refine .inr ⟨_, List.mem_concat_self, ?_, rfl, snapshot,
        read, fromDict_configSnapshot read⟩
      exact (project_id found).symm
    · exact .inl (others id row mine there)
  · intro id row there retired after later
    have mine : id ≠ projectId := by
      rintro rfl
      exact (notRetired row there).1 retired
    obtain ⟨old, was, version⟩ := others id after mine later
    rw [there] at was
    cases was
    exact version.symm

/-! ## The transactions of the registry -/

/-- A channel-based mutator reaches its write. -/
def ChannelChange.applies (change : ChannelChange) (projectId : String)
    (expectedVersion : Option Nat) (db : Db) : Bool :=
  (db.project projectId).any (expects expectedVersion) ∧ change.edit.finds projectId db

theorem finds_updateProject (edit : Edit) (set : Project → Project) :
    edit.finds projectId (db.updateProject projectId set) = edit.finds projectId db := by
  cases edit <;> rfl

variable {expectedVersion : Option Nat}

theorem advanceProjectConfigVersion_some
    (expected : (db.project projectId).any (expects expectedVersion)) :
    advanceProjectConfigVersion projectId expectedVersion db =
      some (db.updateProject projectId advance) := if_pos expected

theorem advanceProjectConfigVersion_none
    (unexpected : ¬ (db.project projectId).any (expects expectedVersion)) :
    advanceProjectConfigVersion projectId expectedVersion db = none := if_neg unexpected

theorem channel_transaction (change : ChannelChange) (expectedVersion : Option Nat) :
    (change.transaction projectId expectedVersion db).getD db =
      if change.applies projectId expectedVersion db then advanced projectId change.edit db
      else db := by
  have before : (change.edit.write projectId db).project projectId = db.project projectId :=
    edit_project change.edit projectId
  unfold ChannelChange.transaction
  by_cases expected : (db.project projectId).any (expects expectedVersion)
  · have advances := advanceProjectConfigVersion_some expected
    cases edit : change.edit with
    | set table key value =>
      have applies : change.applies projectId expectedVersion db :=
        decide_eq_true ⟨expected, by rw [edit]; rfl⟩
      rw [if_pos applies]
      simp only [advances, Option.map_some, Option.getD_some]
      exact edit_update_comm _ _ _
    | toggle table key enabled =>
      simp only [advances, Option.bind_eq_bind, Option.bind_some]
      rw [finds_updateProject]
      by_cases found : Edit.finds projectId db (.toggle table key enabled)
      · have applies : change.applies projectId expectedVersion db :=
          decide_eq_true ⟨expected, by rw [edit]; exact found⟩
        rw [if_pos found, if_pos applies, Option.getD_some]
        exact edit_update_comm _ _ _
      · have refused : ¬ change.applies projectId expectedVersion db := by
          intro both
          rw [ChannelChange.applies, edit] at both
          exact found (of_decide_eq_true both).2
        rw [if_neg found, if_neg refused, Option.getD_none]
    | remove table key =>
      rw [edit] at before
      have also : advanceProjectConfigVersion projectId expectedVersion
          (Edit.write projectId db (.remove table key)) =
          some (advanced projectId (.remove table key) db) :=
        advanceProjectConfigVersion_some (by rw [before]; exact expected)
      by_cases found : Edit.finds projectId db (.remove table key)
      · have applies : change.applies projectId expectedVersion db :=
          decide_eq_true ⟨expected, by rw [edit]; exact found⟩
        rw [if_pos applies]
        simp only [found, Bool.not_true, Bool.false_eq_true, if_false, also, Option.getD_some]
      · have refused : ¬ change.applies projectId expectedVersion db := by
          intro both
          rw [ChannelChange.applies, edit] at both
          exact found (of_decide_eq_true both).2
        rw [if_neg refused]
        simp only [found, Bool.not_false, if_true, Option.getD_some]
  · have refuses := advanceProjectConfigVersion_none expected
    have refused : ¬ change.applies projectId expectedVersion db :=
      fun both => expected (of_decide_eq_true both).1
    rw [if_neg refused]
    cases edit : change.edit with
    | set table key value => simp only [refuses, Option.map_none, Option.getD_none]
    | toggle table key enabled =>
      simp only [refuses, Option.bind_eq_bind, Option.bind_none, Option.getD_none]
    | remove table key =>
      rw [edit] at before
      have also : advanceProjectConfigVersion projectId expectedVersion
          (Edit.write projectId db (.remove table key)) = none :=
        advanceProjectConfigVersion_none (by rw [before]; exact expected)
      simp only [also]
      split <;> rfl

theorem channel_sound (owned : db.Owned) (change : ChannelChange)
    (expectedVersion : Option Nat) :
    Sound db ((change.transaction projectId expectedVersion db).getD db) := by
  rw [channel_transaction]
  split
  next applies =>
    refine advanced_sound owned change.edit ?_
    have found := (of_decide_eq_true applies).1
    obtain ⟨row, there, _⟩ := (Option.any_eq_true _ _).mp found
    rw [there]
    rfl
  next => exact sound_refl owned

theorem project_recording (owned : db.Owned) (change : ProjectChange)
    (expectedVersion : Option Nat) :
    Recording python db ((change.mutateConfig python projectId expectedVersion db).getD db) := by
  cases done : change.mutateConfig python projectId expectedVersion db with
  | none => exact recording_refl owned
  | some next =>
    unfold ProjectChange.mutateConfig at done
    split at done
    next admitted =>
      obtain ⟨row, there, mutable_⟩ := (Option.any_eq_true _ _).mp admitted.1
      have sound := advanced_sound owned change.edit (by rw [there]; rfl)
      refine recording_record sound (edit_revisions change.edit) ?_ ?_ done
      · intro now found
        have mine := advanced_project db projectId change.edit projectId
        rw [there, Option.map_some, if_pos rfl] at mine
        have same : now = advance row := by
          rw [mine] at found
          exact (Option.some.inj found).symm
        refine ⟨?_, ?_⟩
        · intro revision member own
          obtain ⟨project, at_, le⟩ := owned.past revision member
          rw [own, there] at at_
          cases at_
          rw [same]
          exact Nat.lt_succ_of_le le
        · intro old was
          rw [there] at was
          cases was
          refine ⟨?_, by rw [same]; exact Nat.lt_succ_self _⟩
          intro retired
          simp [retired, mutableStates] at mutable_
      · intro id now different found
        have others := advanced_project db projectId change.edit id
        rw [others] at found
        obtain ⟨old, was, rfl⟩ := Option.map_eq_some_iff.mp found
        exact ⟨old, was, by rw [if_neg different]⟩
    · cases done

theorem Sound.trans (first : Sound db middle) (second : Sound middle next)
    (kept : middle.revisions = db.revisions) : Sound db next := by
  refine ⟨first.evolves.trans second.evolves, second.owned, ?_⟩
  intro row member
  rcases second.origin row member with before | ⟨now, newer⟩
  · rw [kept] at before
    exact .inl before
  · refine .inr ⟨now, ?_⟩
    intro old was
    obtain ⟨between, there, follows, _⟩ := first.evolves.project _ old was
    exact lt_of_le_of_lt follows.version (newer between there)

variable {project : Project}

theorem insert_sound (owned : db.Owned) (fresh : db.project project.id = none)
    (projects : middle.projects = db.projects ++ [project])
    (revisions : middle.revisions = db.revisions)
    (same : ∀ id, id ≠ project.id → SameConfig db middle id)
    (rows : ∀ table, ∀ row ∈ middle.tables table, row.projectId = project.id ∨
      ∃ old ∈ db.tables table, old.projectId = row.projectId)
    (alone : ∀ channelId, isActive channelId project → ∀ id row, db.project id = some row →
      ¬ isActive channelId row) :
    Sound db middle := by
  have looked : ∀ id, middle.project id = (db.project id).or
      (if project.id = id then some project else none) := by
    intro id
    rw [Db.project, projects, lookup_append]
    congr 1
    by_cases mine : project.id = id <;> simp [lookup, mine]
  have old : ∀ id row, db.project id = some row → middle.project id = some row := by
    intro id row there
    rw [looked, there, Option.some_or]
  have cases_ : ∀ id row, middle.project id = some row →
      db.project id = some row ∨ id = project.id ∧ row = project := by
    intro id row there
    rw [looked] at there
    rcases Option.or_eq_some_iff.mp there with before | ⟨_, new⟩
    · exact .inl before
    · split at new
      next mine => exact .inr ⟨mine.symm, (Option.some.inj new).symm⟩
      next => cases new
  refine ⟨⟨?_, revisions ▸ List.prefix_rfl⟩,
    ⟨?_, ?_, by rw [revisions]; exact owned.recorded, ?_, ?_⟩, ?_⟩
  · intro id row there
    refine ⟨row, old id row there, row.follows_refl, fun _ => same id ?_⟩
    rintro rfl
    rw [fresh] at there
    cases there
  · rw [projects]
    exact nodup_insert owned.unique fun other member => lookup_eq_none.mp fresh other member
  · intro table row member
    rcases rows table row member with mine | ⟨before, was, equal⟩
    · rw [looked, mine, if_pos rfl]
      cases db.project project.id <;> rfl
    · obtain ⟨found, there⟩ := Option.isSome_iff_exists.mp (owned.owned table before was)
      rw [equal] at there
      rw [old _ _ there]
      rfl
  · intro row member
    rw [revisions] at member
    obtain ⟨found, there, le⟩ := owned.past row member
    exact ⟨found, old _ _ there, le⟩
  · intro channelId one other row also first second mine too
    rcases cases_ one row first with before | ⟨atOne, rfl⟩
    · rcases cases_ other also second with was | ⟨_, rfl⟩
      · exact owned.single channelId one other row also before was mine too
      · exact absurd mine (alone channelId too one row before)
    · rcases cases_ other also second with was | ⟨atOther, _⟩
      · exact absurd too (alone channelId mine other also was)
      · rw [atOne, atOther]
  · intro row member
    rw [revisions] at member
    exact .inl member

theorem retireActive_recording (owned : db.Owned) (channelId : String) :
    Recording python db (retireActive channelId db) := by
  refine recording_update owned (fun _ => rfl) ?_
  intro row _
  exact ⟨⟨rfl, rfl, le_refl _, fun _ => rfl, fun _ => rfl, by simp⟩, rfl⟩

theorem inserted_record (sound : Sound db middle)
    (revisions : middle.revisions = db.revisions) (owned : db.Owned)
    (fresh : db.project project.id = none)
    (others : ∀ id now, id ≠ project.id → middle.project id = some now →
      ∃ old, db.project id = some old ∧ old.configVersion = now.configVersion)
    (done : recordRevision python project.id middle = some next) : Recording python db next := by
  refine recording_record sound revisions ?_ others done
  intro now _
  refine ⟨?_, ?_⟩
  · intro row member mine
    obtain ⟨found, there, _⟩ := owned.past row member
    rw [mine, fresh] at there
    cases there
  · intro row there
    rw [fresh] at there
    cases there

theorem entries_nil (none_ : ∀ table, ∀ row ∈ db.tables table, row.projectId ≠ id)
    (table : ConfigTable) : db.entries table id = [] := by
  have empty : (db.tables table).filter (fun row => row.projectId = id) = [] := by
    rw [List.filter_eq_nil_iff]
    intro row member
    simpa using none_ table row member
  rw [Db.entries, empty]
  rfl

theorem update_versions (same : ∀ row, (set row).id = row.id)
    (kept : ∀ row, hit row → (set row).configVersion = row.configVersion)
    (found : (db.updateProjects hit set).project id = some now) :
    ∃ old, db.project id = some old ∧ old.configVersion = now.configVersion := by
  rw [project_updateProjects same] at found
  obtain ⟨row, was, rfl⟩ := Option.map_eq_some_iff.mp found
  refine ⟨row, was, ?_⟩
  split
  next hits => exact (kept row hits).symm
  next => rfl

theorem Recording.after (first : Sound db middle) (revisions : middle.revisions = db.revisions)
    (versions : ∀ id now, middle.project id = some now →
      ∃ old, db.project id = some old ∧ old.configVersion = now.configVersion)
    (second : Recording python middle next) : Recording python db next := by
  refine { toSound := first.trans second.toSound revisions, complete := ?_, frozen := ?_ }
  · intro id now there
    rcases second.complete id now there with ⟨old, was, version⟩ | recorded
    · obtain ⟨older, before, also⟩ := versions id old was
      exact .inl ⟨older, before, also.trans version⟩
    · exact .inr recorded
  · intro id row there retired now after
    obtain ⟨middle_, was, follows, _⟩ := first.evolves.project id row there
    obtain ⟨old, before, version⟩ := versions id middle_ was
    rw [there] at before
    cases before
    rw [second.frozen id middle_ was (follows.retired retired) now after, version]

theorem retireActive_active (channelId : String)
    (found : (retireActive channelId db).project id = some row) : ¬ isActive channelId row := by
  rw [retireActive, project_updateProjects (by intro row; rfl)] at found
  obtain ⟨old, _, rfl⟩ := Option.map_eq_some_iff.mp found
  split
  next => simp [isActive]
  next inactive => exact inactive

theorem inserted_project (fresh : db.project project.id = none)
    (projects : middle.projects = db.projects ++ [project]) :
    middle.project project.id = some project := by
  change lookup Project.id project.id db.projects = none at fresh
  rw [Db.project, projects, lookup_append, fresh, Option.none_or]
  simp [lookup]

theorem inserted_other (different : id ≠ project.id)
    (projects : middle.projects = db.projects ++ [project]) (found : middle.project id = some now) :
    db.project id = some now := by
  rw [Db.project, projects, lookup_append] at found
  rcases Option.or_eq_some_iff.mp found with before | ⟨_, new⟩
  · exact before
  · rw [lookup, List.find?_singleton] at new
    split at new
    next mine => exact absurd (of_decide_eq_true mine).symm different
    next => cases new

theorem bind_recording (owned : db.Owned) (channelId path projectId timezone : String)
    (blocked : Bool) :
    Recording python db ((bind channelId path projectId timezone blocked db).getD db) := by
  cases done : bind channelId path projectId timezone blocked db with
  | none => exact recording_refl owned
  | some next =>
    have retired : Recording python db (retireActive channelId db) :=
      retireActive_recording owned channelId
    cases blocked with
    | true => cases done
    | false =>
      obtain ⟨middle, inserted, done⟩ := Option.bind_eq_some_iff.mp done
      generalize bound : boundProject channelId path projectId timezone
        (maxConfigVersion channelId db + 1) = project at inserted
      have mine : project.id = projectId := by
        rw [← bound]
        rfl
      unfold insertProject at inserted
      split at inserted
      · cases inserted
      next free =>
        have fresh : (retireActive channelId db).project project.id = none := by
          simpa using free
        have result := (Option.some.inj inserted).symm
        refine Recording.after retired.toSound rfl ?_ ?_
        · intro id now found
          exact update_versions (by intro row; rfl) (by intro row _; rfl) found
        have sound : Sound (retireActive channelId db) middle := by
          refine insert_sound retired.owned fresh (by rw [result]) (by rw [result]) ?_ ?_ ?_
          · intro id _ table
            rw [result]
            rfl
          · intro table row member
            rw [result] at member
            exact .inr ⟨row, member, rfl⟩
          · intro channel active id row found
            have same : channelId = channel := by
              rw [← bound] at active
              exact (of_decide_eq_true active).1
            rw [← same]
            exact retireActive_active channelId found
        have none_ : ∀ table, ∀ row ∈ middle.tables table, row.projectId ≠ project.id := by
          intro table row member same
          rw [result] at member
          have there := retired.owned.owned table row member
          rw [same, fresh] at there
          cases there
        have found : middle.project project.id = some project :=
          inserted_project fresh (by rw [result])
        have recorded : recordRevision python project.id middle = some next := by
          rw [recordRevision, found]
          subst bound
          simp only [Option.bind_eq_bind, Option.bind_some, configSnapshotFromConnection,
            entries_nil none_, List.mapM_nil, Option.pure_def, List.map_nil]
          exact done
        refine inserted_record sound (by rw [result]) retired.owned fresh ?_ recorded
        intro id now different there
        exact ⟨now, inserted_other different (by rw [result]) there, rfl⟩

theorem copyConfig_same {parentProjectId : String} {projects : List Project}
    (different : id ≠ projectId) :
    SameConfig db (copyConfig parentProjectId projectId { db with projects }) id := by
  intro table
  have copied : (((db.tables table).filter fun row => row.projectId = parentProjectId).map
      fun row => ({ row with projectId } : Entry table.Value)).filter
        (fun row => row.projectId = id) = [] := by
    rw [List.filter_eq_nil_iff]
    intro row member
    obtain ⟨source, _, rfl⟩ := List.mem_map.mp member
    simpa using Ne.symm different
  unfold Db.entries copyConfig
  rw [List.filter_append, copied, List.append_nil]

theorem registerWorktree_recording (owned : db.Owned) (parentProjectId projectId path : String) :
    Recording python db
      ((registerWorktreeProject python parentProjectId projectId path db).getD db) := by
  cases done : registerWorktreeProject python parentProjectId projectId path db with
  | none => exact recording_refl owned
  | some next =>
    unfold registerWorktreeProject at done
    split at done
    · split at done
      · cases done
      · cases done
        exact recording_refl owned
    next fresh =>
      obtain ⟨parent, _, done⟩ := Option.bind_eq_some_iff.mp done
      split at done
      · cases done
      · obtain ⟨inserted, insert, done⟩ := Option.bind_eq_some_iff.mp done
        unfold insertProject at insert
        split at insert
        · cases insert
        · have result := (Option.some.inj insert).symm
          generalize created : worktreeProject parent parentProjectId projectId path = project
            at result
          have mine : project.id = projectId := by
            rw [← created]
            rfl
          rw [← mine] at fresh done
          have sound : Sound db (copyConfig parentProjectId project.id inserted) := by
            refine insert_sound owned fresh (by rw [result]; rfl) (by rw [result]; rfl) ?_ ?_ ?_
            · intro id different
              rw [result]
              exact copyConfig_same different
            · intro table row member
              rw [result] at member
              rcases List.mem_append.mp member with old | copied
              · exact .inr ⟨row, old, rfl⟩
              · obtain ⟨source, _, rfl⟩ := List.mem_map.mp copied
                exact .inl rfl
            · intro channel active
              rw [← created] at active
              simp [isActive, worktreeProject] at active
          refine inserted_record sound (by rw [result]; rfl) owned fresh ?_ done
          intro id now different there
          exact ⟨now, inserted_other different (by rw [result]; rfl) there, rfl⟩

theorem settings_recording (owned : db.Owned) (channelSettings : List ChannelSettings) :
    Recording python db { db with channelSettings } :=
  { evolves := ⟨(evolves_refl db).project, List.prefix_rfl⟩
    owned := ⟨owned.unique, owned.owned, owned.recorded, owned.past, owned.single⟩
    origin := fun _ member => .inl member
    complete := fun _ now found => .inl ⟨now, found, rfl⟩
    frozen := by
      intro id row found _ now also
      change db.project id = some now at also
      rw [found] at also
      cases also
      rfl }

theorem timezoneProject_recording (owned : db.Owned) (channelId timezone : String) :
    Recording python db ((timezoneProject python channelId timezone db).getD db) := by
  cases done : timezoneProject python channelId timezone db with
  | none => exact recording_refl owned
  | some next =>
    unfold timezoneProject at done
    split at done
    · cases done
      exact recording_refl owned
    next project found =>
      have active : isActive channelId project := List.find?_some found
      have present : db.project project.id = some project :=
        lookup_of_mem owned.unique (List.mem_of_find?_eq_some found)
      have only : ∀ id row, db.project id = some row → isActive channelId row →
          id = project.id := fun id row there mine =>
        owned.single channelId id project.id row project there present mine active
      have bumps : ∀ row : Project, row.Bumps { advance row with timezone } :=
        fun row => ⟨rfl, rfl, rfl, rfl, rfl⟩
      have sound : Sound db (db.updateProjects (isActive channelId)
          ({ advance · with timezone })) :=
        bumped_sound owned rfl rfl bumps (fun _ _ _ _ _ => rfl)
          (fun _ row member => .inr ⟨row, member, rfl⟩)
      have looked : ∀ id, (db.updateProjects (isActive channelId)
          ({ advance · with timezone })).project id = (db.project id).map fun row =>
            if isActive channelId row then { advance row with timezone } else row :=
        project_updateProjects fun row => (bumps row).id
      refine recording_record sound rfl ?_ ?_ done
      · intro now there
        rw [looked, present, Option.map_some, if_pos active] at there
        obtain rfl := Option.some.inj there
        refine ⟨?_, ?_⟩
        · intro row member mine
          obtain ⟨other, at_, le⟩ := owned.past row member
          rw [mine, present] at at_
          cases at_
          exact Nat.lt_succ_of_le le
        · intro row at_
          rw [present] at at_
          cases at_
          refine ⟨?_, Nat.lt_succ_self _⟩
          intro retired
          have both := (of_decide_eq_true active).2
          rw [retired] at both
          cases both
      · intro id now different there
        rw [looked] at there
        obtain ⟨old, was, rfl⟩ := Option.map_eq_some_iff.mp there
        refine ⟨old, was, ?_⟩
        rw [if_neg]
        intro mine
        exact different (only id old was mine)

theorem setChannelTimezone_recording (owned : db.Owned) (channelId timezone : String) :
    Recording python db ((setChannelTimezone python channelId timezone db).getD db) := by
  have settled : Recording python db (upsertChannelTimezone channelId timezone db) :=
    settings_recording owned _
  have zoned : Recording python _ _ := timezoneProject_recording settled.owned channelId timezone
  unfold setChannelTimezone
  cases done : timezoneProject python channelId timezone
      (upsertChannelTimezone channelId timezone db) with
  | none => exact recording_refl owned
  | some next =>
    rw [done] at zoned
    exact Recording.after settled.toSound rfl (fun _ now found => ⟨now, found, rfl⟩) zoned

theorem label_recording (owned : db.Owned) (label : Label) :
    Recording python db (label.transact python db) := by
  cases label with
  | binds channelId path projectId timezone blocked => exact bind_recording owned _ _ _ _ _
  | unbinds channelId blocked =>
    cases blocked with
    | true => exact recording_refl owned
    | false => exact retireActive_recording owned channelId
  | setsChannelTimezone channelId timezone => exact setChannelTimezone_recording owned _ _
  | setsChannel channelId layout mentionRequired => exact settings_recording owned _
  | registersWorktree parentProjectId projectId path =>
    exact registerWorktree_recording owned _ _ _
  | retires projectId =>
    refine recording_update owned (fun _ => rfl) ?_
    intro row _
    exact ⟨⟨rfl, rfl, le_refl _, fun _ => rfl, fun _ => rfl, by simp⟩, rfl⟩
  | closes projectId =>
    refine recording_update owned ?_ ?_
    · intro row
      split <;> rfl
    · intro row _
      split
      next worktree =>
        exact ⟨⟨rfl, rfl, le_refl _, fun _ => rfl, by simp [worktree], by simp⟩, rfl⟩
      next => exact ⟨row.follows_refl, rfl⟩
  | _ => exact recording_refl owned

/-! ## Steps -/

def Call.channelWrites (db : Db) : Call → Bool
  | .resolved projectId change expectedVersion => change.applies projectId expectedVersion db
  | _ => false

def Label.channelWrites (world : World) : Label → Bool
  | .transacts index => (world.calls[index]?).any (·.channelWrites world.db)
  | _ => false

/-- No channel-based mutator writes in this step. -/
def Spares (world : World) (label : Label) : Prop := label.channelWrites world = false

instance (world : World) (label : Label) : Decidable (Spares world label) :=
  inferInstanceAs (Decidable (label.channelWrites world = false))

variable {world next : World}

theorem call_sound (owned : db.Owned) (call : Call) : Sound db (call.transact python db) := by
  cases call with
  | resolved projectId change expectedVersion => exact channel_sound owned change expectedVersion
  | project projectId change expectedVersion =>
    exact (project_recording owned change expectedVersion).toSound
  | _ => exact sound_refl owned

variable {label : Label}

theorem step_db (taken : step python world label = some next) :
    next.db = label.transact python world.db ∨
      ∃ index call, label = .transacts index ∧ world.calls[index]? = some call ∧
        next.db = call.transact python world.db := by
  cases label with
  | transacts index =>
    obtain ⟨call, found, rfl⟩ := Option.map_eq_some_iff.mp taken
    exact .inr ⟨index, call, rfl, (Option.filter_eq_some_iff.mp found).1, rfl⟩
  | reads index =>
    obtain ⟨call, _, rfl⟩ := Option.map_eq_some_iff.mp taken
    left
    cases call.read world.db <;> rfl
  | _ =>
    cases taken
    exact .inl rfl

theorem step_sound (owned : world.db.Owned) (taken : step python world label = some next) :
    Sound world.db next.db := by
  rcases step_db taken with outside | ⟨index, call, _, _, mutated⟩
  · rw [outside]
    exact (label_recording owned label).toSound
  · rw [mutated]
    exact call_sound owned call

theorem step_recording (owned : world.db.Owned) (spares : Spares world label)
    (taken : step python world label = some next) : Recording python world.db next.db := by
  rcases step_db taken with outside | ⟨index, call, rfl, found, mutated⟩
  · rw [outside]
    exact label_recording owned label
  · rw [mutated]
    cases call with
    | resolved projectId change expectedVersion =>
      have refused : ¬ change.applies projectId expectedVersion world.db := by
        simpa [Spares, Label.channelWrites, found, Call.channelWrites] using spares
      have same : (Call.resolved projectId change expectedVersion).transact python world.db =
          world.db := by
        rw [Call.transact, channel_transaction, if_neg refused]
      rw [same]
      exact recording_refl owned
    | project projectId change expectedVersion =>
      exact project_recording owned change expectedVersion
    | _ => exact recording_refl owned

end Copilotd.Source.Core.ProjectConfigs
