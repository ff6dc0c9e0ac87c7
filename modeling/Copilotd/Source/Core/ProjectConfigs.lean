import Mathlib.Data.List.Sort
import Mathlib.Data.Prod.Lex
import Mathlib.Data.String.Basic
import Copilotd.Base.Json
import Copilotd.Base.Table

/-!
# Project configurations

Source: `core/projects.py` (the snapshots, `ProjectRegistry` with both families of configuration
mutators, `_config_snapshot_from_connection`, `_insert_config_revision`), with the tables of
`migrations/0001_initial.sql` and `0021_project_lifecycle.sql`.

A transaction is a function from the tables to the tables, and `none` if it raises.  Arguments
are the ones that the validations of names, texts and directories return; paths are their
`str`.  `snapshot_json` keeps the value that `json.dumps` wrote.  Columns with times are left
out.
-/
namespace Copilotd.Source.Core.ProjectConfigs

open Base Base.Table

/-! ## Snapshots -/

inductive ProjectSource where
  | implicitHome | explicit

def ProjectSource.value : ProjectSource → String
  | .implicitHome => "implicit-home"
  | .explicit => "explicit"

def ProjectSource.ofValue (value : String) : Option ProjectSource :=
  [ProjectSource.implicitHome, .explicit].find? (·.value = value)

structure ProjectSnapshot where
  projectId : Option String
  channelId : String
  source : ProjectSource
  rootPath : String
  cwd : String
  configVersion : Nat
  timezone : String := "UTC"

structure McpServerSnapshot where
  name : String
  transport : String
  command : Option String
  url : Option String
  args : List String
  headers : List (String × String)
  envRefs : List String
  enabled : Bool
  version : Int

structure DirectorySnapshot where
  path : String
  enabled : Bool

structure CustomAgentSnapshot where
  name : String
  description : String
  prompt : String
  tools : List String
  enabled : Bool

structure ProjectConfigSnapshot where
  projectId : Option String
  source : ProjectSource
  cwd : String
  timezone : String
  configVersion : Int
  projectVariables : List (String × String) := []
  mcpServers : List McpServerSnapshot := []
  skillDirs : List DirectorySnapshot := []
  pluginDirs : List DirectorySnapshot := []
  customAgents : List CustomAgentSnapshot := []

def sortedPairs (pairs : List (String × String)) : List (String × String) :=
  pairs.insertionSort fun one other => toLex one ≤ toLex other

section Decoding

variable (python : Json.Python)

def strings (value : Json) : Option (List String) :=
  value.iterate.map (·.map (Json.text python))

/-- `payload.get(key, [])`, iterated. -/
def listAt (key : String) (payload : Json) : Option (List Json) :=
  ((payload.get? key).getD (.list [])).iterate

def mcpServerOfDict (item : Json) : Option McpServerSnapshot := do
  let name ← item.get? "name"
  let transport ← item.get? "transport"
  let args ← listAt "args" item
  let headers ← ((item.get? "headers").getD (.dict [])).entries
  let envRefs ← listAt "env_refs" item
  let version ← ((item.get? "version").getD (.int 1)).toInt python
  some {
    name := name.text python, transport := transport.text python
    command := Json.optionalText python (item.get? "command")
    url := Json.optionalText python (item.get? "url")
    args := args.map (Json.text python)
    headers := sortedPairs (headers.map fun (name, value) => (name, value.text python))
    envRefs := envRefs.map (Json.text python)
    enabled := ((item.get? "enabled").getD (.bool true)).truthy
    version }

def directoryOfDict (item : Json) : Option DirectorySnapshot := do
  let path ← item.get? "path"
  some {
    path := path.text python
    enabled := ((item.get? "enabled").getD (.bool true)).truthy }

def customAgentOfDict (item : Json) : Option CustomAgentSnapshot := do
  let name ← item.get? "name"
  let description ← item.get? "description"
  let prompt ← item.get? "prompt"
  let tools ← listAt "tools" item
  some {
    name := name.text python, description := description.text python
    prompt := prompt.text python, tools := tools.map (Json.text python)
    enabled := ((item.get? "enabled").getD (.bool true)).truthy }

def variableOfDict (item : Json) : Option (String × String) := do
  let name ← item.get? "name"
  let value ← item.get? "value"
  some (name.text python, value.text python)

def ProjectConfigSnapshot.fromDict (payload : Json) : Option ProjectConfigSnapshot := do
  let source ← ProjectSource.ofValue ((← payload.get? "source").text python)
  let cwd ← payload.get? "cwd"
  let configVersion ← ((payload.get? "config_version").getD (.int 1)).toInt python
  let projectVariables ← (← listAt "variables" payload).mapM (variableOfDict python)
  let mcpServers ← (← listAt "mcp_servers" payload).mapM (mcpServerOfDict python)
  let skillDirs ← (← listAt "skill_dirs" payload).mapM (directoryOfDict python)
  let pluginDirs ← (← listAt "plugin_dirs" payload).mapM (directoryOfDict python)
  let customAgents ← (← listAt "custom_agents" payload).mapM (customAgentOfDict python)
  some {
    projectId := Json.optionalText python (payload.get? "project_id")
    source, cwd := cwd.text python
    timezone := ((payload.get? "timezone").getD (.str "UTC")).text python
    configVersion, projectVariables, mcpServers, skillDirs, pluginDirs, customAgents }

end Decoding

def stringList (values : List String) : Json := .list (values.map .str)

def McpServerSnapshot.toDict (item : McpServerSnapshot) : Json :=
  .dict [
    ("name", .str item.name), ("transport", .str item.transport),
    ("command", .ofOption item.command), ("url", .ofOption item.url),
    ("args", stringList item.args),
    ("headers", .dict (Dict.update [] (item.headers.map fun (name, value) => (name, .str value)))),
    ("env_refs", stringList item.envRefs), ("enabled", .bool item.enabled),
    ("version", .int item.version)]

def DirectorySnapshot.toDict (item : DirectorySnapshot) : Json :=
  .dict [("path", .str item.path), ("enabled", .bool item.enabled)]

def CustomAgentSnapshot.toDict (item : CustomAgentSnapshot) : Json :=
  .dict [
    ("name", .str item.name), ("description", .str item.description),
    ("prompt", .str item.prompt), ("tools", stringList item.tools),
    ("enabled", .bool item.enabled)]

def ProjectConfigSnapshot.toDict (snapshot : ProjectConfigSnapshot) : Json :=
  .dict [
    ("project_id", .ofOption snapshot.projectId), ("source", .str snapshot.source.value),
    ("cwd", .str snapshot.cwd), ("timezone", .str snapshot.timezone),
    ("config_version", .int snapshot.configVersion),
    ("variables", .list (snapshot.projectVariables.map fun (name, value) =>
      .dict [("name", .str name), ("value", .str value)])),
    ("mcp_servers", .list (snapshot.mcpServers.map (·.toDict))),
    ("skill_dirs", .list (snapshot.skillDirs.map (·.toDict))),
    ("plugin_dirs", .list (snapshot.pluginDirs.map (·.toDict))),
    ("custom_agents", .list (snapshot.customAgents.map (·.toDict)))]

/-! ## Tables -/

inductive ProjectState where
  | active | worktree | closing | retired
  deriving DecidableEq

inductive ProjectKind where
  | binding | worktree
  deriving DecidableEq

structure Project where
  id : String
  channelId : String
  rootPath : String
  cwd : String
  configVersion : Nat
  state : ProjectState
  parentProjectId : Option String := none
  projectKind : ProjectKind := .binding
  timezone : String

/-- A `config_json`; the keys of its headers are unique, as those of any dictionary. -/
structure McpConfig where
  json : Json
  unique : ∀ headers, json.get? "headers" = some (.dict headers) → Dict.UniqueKeys headers

structure McpServer where
  transport : String
  config : McpConfig
  enabled : Bool
  version : Nat

structure CustomAgent where
  description : String
  prompt : String
  tools : List String
  enabled : Bool

inductive ConfigTable where
  | projectEnv | mcpServers | skillDirs | pluginDirs | customAgents
  deriving DecidableEq

/-- The columns of a row besides its primary key. -/
abbrev ConfigTable.Value : ConfigTable → Type
  | .projectEnv => String
  | .mcpServers => McpServer
  | .skillDirs | .pluginDirs => Bool
  | .customAgents => CustomAgent

structure Entry (α : Type) where
  projectId : String
  key : String
  value : α

structure Revision where
  projectId : String
  configVersion : Nat
  snapshotJson : Json

structure ChannelSettings where
  channelId : String
  layout : String := "text"
  mentionRequired : Bool := false
  configVersion : Nat := 1
  timezone : Option String := none

structure Db where
  projects : List Project := []
  tables : (table : ConfigTable) → List (Entry table.Value) := fun _ => []
  /-- `project_config_revisions`. -/
  revisions : List Revision := []
  channelSettings : List ChannelSettings := []

def Db.project (db : Db) (projectId : String) : Option Project :=
  lookup Project.id projectId db.projects

def isActive (channelId : String) (project : Project) : Bool :=
  project.channelId = channelId ∧ project.state = .active

/-- `SELECT * FROM projects WHERE channel_id = ? AND state = 'active'`. -/
def Db.activeProject (db : Db) (channelId : String) : Option Project :=
  db.projects.find? (isActive channelId)

def Db.updateProjects (hit : Project → Bool) (set : Project → Project) (db : Db) : Db :=
  { db with projects := updateWhere hit set db.projects }

/-- `UPDATE projects SET … WHERE id = ?`. -/
def Db.updateProject (projectId : String) (set : Project → Project) (db : Db) : Db :=
  db.updateProjects (·.id = projectId) set

def Db.write (table : ConfigTable) (rows : List (Entry table.Value)) (db : Db) : Db :=
  { db with tables := Function.update db.tables table rows }

/-- The rows of a project, `ORDER BY` their key. -/
def Db.entries (db : Db) (table : ConfigTable) (projectId : String) :
    List (Entry table.Value) :=
  ((db.tables table).filter fun row => row.projectId = projectId).insertionSort
    fun one other => one.key ≤ other.key

def Db.entry (db : Db) (table : ConfigTable) (projectId key : String) :
    Option (Entry table.Value) :=
  (db.tables table).find? fun row => row.projectId = projectId ∧ row.key = key

/-! ## Revisions -/

section Registry

variable (python : Json.Python)

def mcpServerSnapshot (row : Entry McpServer) : Option McpServerSnapshot := do
  let config := row.value.config.json
  let args ← listAt "args" config
  let envRefs ← listAt "env_refs" config
  some {
    name := row.key, transport := row.value.transport
    command := Json.optionalText python (config.get? "command")
    url := Json.optionalText python (config.get? "url")
    args := args.map (Json.text python)
    headers := match config.get? "headers" with
      | some (.dict headers) =>
        sortedPairs (headers.map fun (name, value) => (name, value.text python))
      | _ => []
    envRefs := envRefs.map (Json.text python)
    enabled := row.value.enabled, version := row.value.version }

/-- `_config_snapshot_from_connection`, which raises on a `config_json` it cannot read. -/
def configSnapshotFromConnection (project : Project) (db : Db) : Option ProjectConfigSnapshot := do
  let mcpServers ← (db.entries .mcpServers project.id).mapM (mcpServerSnapshot python)
  some {
    projectId := some project.id, source := .explicit, cwd := project.cwd
    timezone := project.timezone, configVersion := project.configVersion
    projectVariables := (db.entries .projectEnv project.id).map fun row => (row.key, row.value)
    mcpServers
    skillDirs := (db.entries .skillDirs project.id).map fun row =>
      { path := row.key, enabled := row.value }
    pluginDirs := (db.entries .pluginDirs project.id).map fun row =>
      { path := row.key, enabled := row.value }
    customAgents := (db.entries .customAgents project.id).map fun row => {
      name := row.key, description := row.value.description, prompt := row.value.prompt
      tools := row.value.tools, enabled := row.value.enabled } }

/-- `_insert_config_revision` of the snapshot of a project. -/
def insertConfigRevision (projectId : String) (configVersion : Nat)
    (snapshot : ProjectConfigSnapshot) (db : Db) : Db :=
  if db.revisions.any fun row => row.projectId = projectId ∧ row.configVersion = configVersion
  then db
  else { db with
    revisions := db.revisions ++ [{ projectId, configVersion, snapshotJson := snapshot.toDict }] }

/-- The snapshot of a project's present row is taken and recorded. -/
def recordRevision (projectId : String) (db : Db) : Option Db := do
  let project ← db.project projectId
  let snapshot ← configSnapshotFromConnection python project db
  some (insertConfigRevision projectId project.configVersion snapshot db)

/-! ## Rows of the five tables -/

section Rows

variable (table : ConfigTable) (projectId key : String)

def present (db : Db) : Bool := (db.entry table projectId key).isSome

/-- `UPDATE … WHERE project_id = ? AND key = ?`. -/
def modify (set : table.Value → table.Value) (db : Db) : Db :=
  db.write table (updateWhere (fun row => row.projectId = projectId ∧ row.key = key)
    (fun row => { row with value := set row.value }) (db.tables table))

/-- `INSERT … ON CONFLICT(project_id, key) DO UPDATE`. -/
def upsert (set : Option table.Value → table.Value) (db : Db) : Db :=
  if present table projectId key db then modify table projectId key (fun old => set (some old)) db
  else db.write table (db.tables table ++ [{ projectId, key, value := set none }])

/-- `DELETE … WHERE project_id = ? AND key = ?`. -/
def delete (db : Db) : Db :=
  db.write table ((db.tables table).filter fun row =>
    ¬ (row.projectId = projectId ∧ row.key = key))

end Rows

/-- The column `enabled`, and the `version` of a server. -/
def enable (enabled : Bool) : (table : ConfigTable) → table.Value → table.Value
  | .projectEnv, value => value
  | .mcpServers, server => { server with enabled, version := server.version + 1 }
  | .skillDirs, _ | .pluginDirs, _ => enabled
  | .customAgents, agent => { agent with enabled }

/-- What a mutator writes. -/
inductive Edit where
  | set (table : ConfigTable) (key : String) (value : Option table.Value → table.Value)
  | toggle (table : ConfigTable) (key : String) (enabled : Bool)
  | remove (table : ConfigTable) (key : String)

def Edit.finds (projectId : String) (db : Db) : Edit → Bool
  | .set _ _ _ => true
  | .toggle table key _ | .remove table key => present table projectId key db

def Edit.write (projectId : String) (db : Db) : Edit → Db
  | .set table key value => upsert table projectId key value db
  | .toggle table key enabled => modify table projectId key (enable enabled table) db
  | .remove table key => delete table projectId key db

/-! ## The channel-based family -/

inductive DirectoryKind where
  | skill | plugin

def DirectoryKind.set (path : String) (enabled : Bool) : DirectoryKind → Edit
  | .skill => .set .skillDirs path fun _ => enabled
  | .plugin => .set .pluginDirs path fun _ => enabled

def DirectoryKind.table : DirectoryKind → ConfigTable
  | .skill => .skillDirs
  | .plugin => .pluginDirs

def newServer (transport : String) (config : McpConfig) (enabled : Bool)
    (old : Option McpServer) : McpServer :=
  { transport, config, enabled, version := (old.map (·.version)).getD 0 + 1 }

inductive ChannelChange where
  | setProjectEnv (name value : String)
  | removeProjectEnv (name : String)
  | setMcpServer (name transport : String) (config : McpConfig) (enabled : Bool)
  | toggleMcpServerForChannel (name : String) (enabled : Bool)
  | removeMcpServerForChannel (name : String)
  /-- `set_skill_dir` and `set_plugin_dir`. -/
  | setDirectoryConfig (kind : DirectoryKind) (path : String) (enabled : Bool)
  | toggleDirectoryConfig (kind : DirectoryKind) (path : String) (enabled : Bool)
  | removeDirectoryConfig (kind : DirectoryKind) (path : String)
  | setCustomAgent (name : String) (agent : CustomAgent)
  | toggleCustomAgentForChannel (name : String) (enabled : Bool)
  | removeCustomAgentForChannel (name : String)

def ChannelChange.edit : ChannelChange → Edit
  | .setProjectEnv name value => .set .projectEnv name fun _ => value
  | .removeProjectEnv name => .remove .projectEnv name
  | .setMcpServer name transport config enabled =>
    .set .mcpServers name (newServer transport config enabled)
  | .toggleMcpServerForChannel name enabled => .toggle .mcpServers name enabled
  | .removeMcpServerForChannel name => .remove .mcpServers name
  | .setDirectoryConfig kind path enabled => kind.set path enabled
  | .toggleDirectoryConfig kind path enabled => .toggle kind.table path enabled
  | .removeDirectoryConfig kind path => .remove kind.table path
  | .setCustomAgent name agent => .set .customAgents name fun _ => agent
  | .toggleCustomAgentForChannel name enabled => .toggle .customAgents name enabled
  | .removeCustomAgentForChannel name => .remove .customAgents name

def expects (expectedVersion : Option Nat) (project : Project) : Bool :=
  expectedVersion.all (· = project.configVersion)

/-- `SET config_version = config_version + 1`. -/
def advance (project : Project) : Project :=
  { project with configVersion := project.configVersion + 1 }

def advanceProjectConfigVersion (projectId : String) (expectedVersion : Option Nat) (db : Db) :
    Option Db :=
  if (db.project projectId).any (expects expectedVersion) then
    some (db.updateProject projectId advance)
  else none

/-- The transaction of a channel-based mutator, once `_require_explicit_project` has returned a
project.  A removal deletes first, and returns `False` if there is nothing to delete. -/
def ChannelChange.transaction (change : ChannelChange) (projectId : String)
    (expectedVersion : Option Nat) (db : Db) : Option Db :=
  match change.edit with
  | .set _ _ _ =>
    (advanceProjectConfigVersion projectId expectedVersion db).map fun db =>
      change.edit.write projectId db
  | .toggle _ _ _ => do
    let db ← advanceProjectConfigVersion projectId expectedVersion db
    if change.edit.finds projectId db then some (change.edit.write projectId db) else none
  | .remove _ _ =>
    if !change.edit.finds projectId db then some db
    else advanceProjectConfigVersion projectId expectedVersion (change.edit.write projectId db)

/-! ## The project-based family -/

inductive ProjectChange where
  | setVariable (name value : String)
  | removeVariable (name : String)
  | addMcpServer (name transport : String) (command url : Option String) (args : List String)
    (headers : List (String × String)) (envRefs : List String)
  | toggleMcpServer (name : String) (enabled : Bool)
  | removeMcpServer (name : String)
  | addDirectory (kind : DirectoryKind) (path : String)
  | toggleDirectory (kind : DirectoryKind) (path : String) (enabled : Bool)
  | removeDirectory (kind : DirectoryKind) (path : String)
  | addCustomAgent (name description prompt : String) (tools : List String)
  | toggleCustomAgent (name : String) (enabled : Bool)
  | removeCustomAgent (name : String)

/-- The `config` of `add_mcp_server`. -/
def mcpConfig (command url : Option String) (args : List String)
    (headers : List (String × String)) (envRefs : List String) : McpConfig where
  json := .dict [
    ("command", .ofOption command), ("url", .ofOption url), ("args", stringList args),
    ("headers", .dict (Dict.update []
      ((sortedPairs headers).map fun (name, value) => (name, .str value)))),
    ("env_refs", stringList envRefs)]
  unique := by
    intro found there
    have same : found = Dict.update []
        ((sortedPairs headers).map fun (name, value) => (name, Json.str value)) := by
      simpa [Dict.get_cons] using there.symm
    rw [same]
    exact Dict.uniqueKeys_update List.nodup_nil

def ProjectChange.edit : ProjectChange → Edit
  | .setVariable name value => .set .projectEnv name fun _ => value
  | .removeVariable name => .remove .projectEnv name
  | .addMcpServer name transport command url args headers envRefs =>
    .set .mcpServers name (newServer transport (mcpConfig command url args headers envRefs) true)
  | .toggleMcpServer name enabled => .toggle .mcpServers name enabled
  | .removeMcpServer name => .remove .mcpServers name
  | .addDirectory kind path => kind.set path true
  | .toggleDirectory kind path enabled => .toggle kind.table path enabled
  | .removeDirectory kind path => .remove kind.table path
  | .addCustomAgent name description prompt tools =>
    .set .customAgents name fun _ => { description, prompt, tools, enabled := true }
  | .toggleCustomAgent name enabled => .toggle .customAgents name enabled
  | .removeCustomAgent name => .remove .customAgents name

/-- `config.get("env_refs", []) + config.get("project_env_refs", [])`. -/
def variableReferences (config : Json) : Option (List Json) :=
  match (config.get? "env_refs").getD (.list []),
    (config.get? "project_env_refs").getD (.list []) with
  | .list envRefs, .list projectEnvRefs => some (envRefs ++ projectEnvRefs)
  | _, _ => none

def isText (text : String) : Json → Bool
  | .str other => other = text
  | _ => false

/-- The checks of a mutation before it writes. -/
def ProjectChange.admitted (projectId : String) (db : Db) : ProjectChange → Bool
  | .removeVariable name => (db.entries .mcpServers projectId).all fun row =>
    match variableReferences row.value.config.json with
    | some references => !references.any (isText name)
    | none => false
  | .addMcpServer _ _ _ _ _ _ envRefs =>
    envRefs.all fun name => present .projectEnv projectId name db
  | _ => true

/-- The states in which `_mutate_config` finds a project. -/
def mutableStates : List ProjectState := [.active, .worktree]

/-- `_mutate_config` with the mutation of a project-based mutator. -/
def ProjectChange.mutateConfig (change : ProjectChange) (projectId : String)
    (expectedVersion : Option Nat) (db : Db) : Option Db :=
  if (db.project projectId).any (fun project =>
      project.state ∈ mutableStates ∧ expects expectedVersion project) ∧
    change.admitted projectId db ∧ change.edit.finds projectId db
  then
    recordRevision python projectId
      ((change.edit.write projectId db).updateProject projectId advance)
  else none

/-! ## Projects -/

def maxConfigVersion (channelId : String) (db : Db) : Nat :=
  ((db.projects.filter (·.channelId = channelId)).map (·.configVersion)).foldl max 0

def retireActive (channelId : String) (db : Db) : Db :=
  db.updateProjects (isActive channelId) ({ · with state := .retired })

/-- `PRIMARY KEY (id)`. -/
def insertProject (project : Project) (db : Db) : Option Db :=
  if (db.project project.id).isSome then none
  else some { db with projects := db.projects ++ [project] }

def boundProject (channelId path projectId timezone : String) (configVersion : Nat) : Project :=
  { id := projectId, channelId, rootPath := path, cwd := path, configVersion
    state := .active, timezone }

/-- `bind`; `projectId` is `uuid.uuid4()`, `timezone` was read before, and `blocked` says that
the channel's project has a nonterminal worktree intent. -/
def bind (channelId path projectId timezone : String) (blocked : Bool) (db : Db) : Option Db := do
  if blocked then none
  let configVersion := maxConfigVersion channelId db + 1
  let db ← insertProject (boundProject channelId path projectId timezone configVersion)
    (retireActive channelId db)
  some (insertConfigRevision projectId configVersion
    { projectId := some projectId, source := .explicit, cwd := path, timezone, configVersion } db)

def unbind (channelId : String) (blocked : Bool) (db : Db) : Option Db :=
  if blocked then none else some (retireActive channelId db)

/-- `INSERT INTO channel_settings … ON CONFLICT(channel_id) DO UPDATE`. -/
def Db.setChannel (channelId : String) (row : ChannelSettings)
    (set : ChannelSettings → ChannelSettings) (db : Db) : Db :=
  let rows := db.channelSettings
  { db with
    channelSettings :=
      if rows.any (·.channelId = channelId) then updateWhere (·.channelId = channelId) set rows
      else rows ++ [row] }

/-- The `UPSERT` of `set_channel_timezone`; the default row has version 1. -/
def upsertChannelTimezone (channelId timezone : String) (db : Db) : Db :=
  db.setChannel channelId { channelId, timezone }
    fun row => { row with timezone, configVersion := row.configVersion + 1 }

/-- The rest of `set_channel_timezone`. -/
def timezoneProject (channelId timezone : String) (db : Db) : Option Db :=
  match db.activeProject channelId with
  | none => some db
  | some project =>
    recordRevision python project.id
      (db.updateProjects (isActive channelId) ({ advance · with timezone }))

def setChannelTimezone (channelId timezone : String) (db : Db) : Option Db :=
  timezoneProject python channelId timezone (upsertChannelTimezone channelId timezone db)

def upsertChannelSetting (channelId : String) (layout : Option String)
    (mentionRequired : Option Bool) (db : Db) : Db :=
  let set (row : ChannelSettings) : ChannelSettings := { row with
    layout := layout.getD row.layout, mentionRequired := mentionRequired.getD row.mentionRequired
    configVersion := row.configVersion + 1 }
  db.setChannel channelId (set { channelId }) set

/-- `INSERT INTO table(…) SELECT …`, for each of the five tables. -/
def copyConfig (parentProjectId projectId : String) (db : Db) : Db :=
  let copies (table : ConfigTable) : List (Entry table.Value) :=
    ((db.tables table).filter fun row => row.projectId = parentProjectId).map
      ({ · with projectId })
  { db with tables := fun table => db.tables table ++ copies table }

def worktreeProject (parent : Project) (parentProjectId projectId path : String) : Project :=
  { id := projectId, channelId := parent.channelId, rootPath := path, cwd := path
    configVersion := 1, state := .worktree, parentProjectId, projectKind := .worktree
    timezone := parent.timezone }

def registerWorktreeProject (parentProjectId projectId path : String) (db : Db) : Option Db :=
  match db.project projectId with
  | some existing =>
    if existing.parentProjectId ≠ some parentProjectId ∨ existing.cwd ≠ path then none else some db
  | none => do
    let parent ← db.project parentProjectId
    if parent.state ∉ mutableStates then none
    let db ← insertProject (worktreeProject parent parentProjectId projectId path) db
    recordRevision python projectId (copyConfig parentProjectId projectId db)

def retireProject (projectId : String) (db : Db) : Db :=
  db.updateProject projectId ({ · with state := .retired })

/-- `UPDATE projects SET state = 'closing' WHERE id = ? AND state = 'worktree'`, of the
worktrees. -/
def closeProject (projectId : String) (db : Db) : Db :=
  db.updateProject projectId fun row =>
    if row.state = .worktree then { row with state := .closing } else row

end Registry

/-! ## Round trip of a snapshot -/

section RoundTrip

variable {python : Json.Python}

theorem sortedPairs_pairwise (pairs : List (String × String)) :
    (sortedPairs pairs).Pairwise fun one other => toLex one ≤ toLex other := by
  have : Std.Total fun one other : String × String => toLex one ≤ toLex other :=
    ⟨fun one other => le_total (toLex one) (toLex other)⟩
  have : IsTrans (String × String) fun one other => toLex one ≤ toLex other :=
    ⟨fun _ _ _ first second => le_trans first second⟩
  exact List.pairwise_insertionSort _ pairs

theorem sortedPairs_sortedPairs (pairs : List (String × String)) :
    sortedPairs (sortedPairs pairs) = sortedPairs pairs :=
  (sortedPairs_pairwise pairs).insertionSort_eq

theorem uniqueKeys_sortedPairs {pairs : List (String × String)} (unique : Dict.UniqueKeys pairs) :
    Dict.UniqueKeys (sortedPairs pairs) :=
  ((List.perm_insertionSort _ pairs).map Prod.fst).nodup_iff.mpr unique

theorem mapM_map_some {α β : Type} {f : α → β} {g : β → Option α} (items : List α)
    (back : ∀ item ∈ items, g (f item) = some item) : (items.map f).mapM g = some items := by
  induction items with
  | nil => rfl
  | cons item rest ih =>
    rw [List.map_cons, List.mapM_cons, back item (List.mem_cons_self ..),
      ih fun other member => back other (List.mem_cons_of_mem _ member)]
    rfl

theorem directoryOfDict_toDict (item : DirectorySnapshot) :
    directoryOfDict python item.toDict = some item := by
  simp [directoryOfDict, DirectorySnapshot.toDict, Dict.get_cons, Json.truthy]

theorem customAgentOfDict_toDict (item : CustomAgentSnapshot) :
    customAgentOfDict python item.toDict = some item := by
  simp [customAgentOfDict, CustomAgentSnapshot.toDict, Dict.get_cons, Json.truthy, listAt,
    stringList]

def McpServerSnapshot.FromDict (item : McpServerSnapshot) : Prop :=
  sortedPairs item.headers = item.headers ∧ Dict.UniqueKeys item.headers

theorem mcpServerOfDict_toDict {item : McpServerSnapshot} (read : item.FromDict) :
    mcpServerOfDict python item.toDict = some item := by
  have fresh : Dict.update [] (item.headers.map fun (name, value) => (name, Json.str value)) =
      item.headers.map fun (name, value) => (name, Json.str value) := by
    refine Dict.update_of_fresh ?_
    have keys : (item.headers.map fun (name, value) => (name, Json.str value)).map Prod.fst =
        item.headers.map Prod.fst := by
      rw [List.map_map]
      rfl
    unfold Dict.UniqueKeys
    rw [List.nil_append, keys]
    exact read.2
  have back : item.headers.map ((fun (name, value) => (name, value.text python)) ∘
      fun (name, value) => (name, Json.str value)) = item.headers := List.map_id _
  simp [mcpServerOfDict, McpServerSnapshot.toDict, Dict.get_cons, Json.truthy, listAt,
    stringList, fresh, Json.entries, back, read.1, Json.toInt]

theorem variableOfDict_toDict (item : String × String) :
    variableOfDict python (.dict [("name", .str item.1), ("value", .str item.2)]) = some item := by
  simp [variableOfDict, Dict.get_cons]

theorem fromDict_toDict {snapshot : ProjectConfigSnapshot}
    (read : ∀ item ∈ snapshot.mcpServers, item.FromDict) :
    ProjectConfigSnapshot.fromDict python snapshot.toDict = some snapshot := by
  have source : ProjectSource.ofValue snapshot.source.value = some snapshot.source := by
    cases snapshot.source <;> rfl
  have projectVariables := mapM_map_some snapshot.projectVariables
    fun item _ => (variableOfDict_toDict item : variableOfDict python _ = _)
  have mcpServers := mapM_map_some snapshot.mcpServers
    fun item member => (mcpServerOfDict_toDict (read item member) : mcpServerOfDict python _ = _)
  have skillDirs := mapM_map_some snapshot.skillDirs
    fun item _ => (directoryOfDict_toDict item : directoryOfDict python _ = _)
  have pluginDirs := mapM_map_some snapshot.pluginDirs
    fun item _ => (directoryOfDict_toDict item : directoryOfDict python _ = _)
  have customAgents := mapM_map_some snapshot.customAgents
    fun item _ => (customAgentOfDict_toDict item : customAgentOfDict python _ = _)
  simp [ProjectConfigSnapshot.fromDict, ProjectConfigSnapshot.toDict, Dict.get_cons, listAt,
    source, Json.toInt, projectVariables, mcpServers, skillDirs, pluginDirs, customAgents]

theorem mem_of_mapM {α β : Type} {g : α → Option β} {items : List α} {results : List β}
    (read : items.mapM g = some results) {result : β} (member : result ∈ results) :
    ∃ item ∈ items, g item = some result := by
  induction items generalizing results with
  | nil =>
    cases read
    cases member
  | cons item rest ih =>
    rw [List.mapM_cons] at read
    obtain ⟨first, one, read⟩ := Option.bind_eq_some_iff.mp read
    obtain ⟨tail, others, read⟩ := Option.bind_eq_some_iff.mp read
    cases read
    rcases List.mem_cons.mp member with rfl | inTail
    · exact ⟨item, List.mem_cons_self .., one⟩
    · obtain ⟨found, there, same⟩ := ih others inTail
      exact ⟨found, List.mem_cons_of_mem _ there, same⟩

theorem mcpServerSnapshot_fromDict {row : Entry McpServer} {item : McpServerSnapshot}
    (read : mcpServerSnapshot python row = some item) : item.FromDict := by
  obtain ⟨args, _, read⟩ := Option.bind_eq_some_iff.mp read
  obtain ⟨envRefs, _, read⟩ := Option.bind_eq_some_iff.mp read
  cases read
  split
  next headers found =>
    refine ⟨sortedPairs_sortedPairs _, uniqueKeys_sortedPairs ?_⟩
    unfold Dict.UniqueKeys
    rw [List.map_map]
    exact row.value.config.unique headers found
  next => exact ⟨rfl, List.nodup_nil⟩

theorem fromDict_configSnapshot {project : Project} {db : Db} {snapshot : ProjectConfigSnapshot}
    (read : configSnapshotFromConnection python project db = some snapshot) :
    ProjectConfigSnapshot.fromDict python snapshot.toDict = some snapshot := by
  obtain ⟨servers, found, read⟩ := Option.bind_eq_some_iff.mp read
  cases read
  refine fromDict_toDict ?_
  intro item member
  obtain ⟨row, _, same⟩ := mem_of_mapM found member
  exact mcpServerSnapshot_fromDict same

end RoundTrip

end Copilotd.Source.Core.ProjectConfigs
