import Mathlib.Data.List.Chain
import Copilotd.Base.Reads
import Copilotd.Source.Core.ProjectRegistry

/-!
# The configuration of a new session

Source: `core/projects.py` (`resolve`, `session_config_snapshot` with the lists it reads,
`config_snapshot`, `_sdk_mcp_server_config`), `core/sessions.py` (`create_from_source` up to the
reservation, `CreationIntentRepository.reserve`).

A function that reads the database is a `Reads` program: the moments are those of its reads, and
other tasks come in between.  `validateDirectory` is the file system's part of
`_validate_directory`.  Left out of an intent are its token, its state, the extension
configuration and the times.
-/
namespace Copilotd.Source.Core.SessionConfigs

open Base Base.Table Source.Core.ProjectConfigs

/-! ## Session options -/

structure ProjectSessionConfigSnapshot where
  projectId : Option String
  source : ProjectSource
  rootPath : String
  cwd : String
  projectConfigVersion : Nat
  channelConfigVersion : Nat
  layout : String
  mentionRequired : Bool
  sessionOptions : List (String × Json)

def ProjectSessionConfigSnapshot.projectPayload (config : ProjectSessionConfigSnapshot) : Json :=
  .dict [
    ("project_id", .ofOption config.projectId),
    ("project_config_version", .int config.projectConfigVersion),
    ("session_options", .dict config.sessionOptions)]

def ProjectSessionConfigSnapshot.channelPayload (config : ProjectSessionConfigSnapshot) : Json :=
  .dict [
    ("channel_config_version", .int config.channelConfigVersion),
    ("layout", .str config.layout), ("mention_required", .bool config.mentionRequired)]

def validateStringList : Json → Option (List String)
  | .list items => items.mapM fun
    | .str text => some text
    | _ => none
  | _ => none

def copied (key : String) (convert : Json → Option Json) (config : Json) :
    Option (List (String × Json)) :=
  match config.get? key with
  | none => some []
  | some value => (convert value).map fun value => [(key, value)]

def positiveInt : Json → Option Json
  | .int value => if value ≤ 0 then none else some (.int value)
  | _ => none

def commonFields : List String := ["tools", "timeout"]

def allowedFields (transport : String) : List String :=
  commonFields ++
    if transport = "stdio" then ["command", "args", "env", "project_env_refs", "cwd"]
    else ["url", "headers"]

section Options

variable (python : Json.Python) (validateDirectory : String → Option String)

/-- `environment[name] = project_env[name]`. -/
def referTo (projectEnv : List (String × String)) (environment : List (String × Json)) :
    Json → Option (List (String × Json))
  | .str name => (Dict.get name projectEnv).map fun value => Dict.set name (.str value) environment
  | _ => none

def joinPath (root path : String) : String :=
  if path.startsWith "/" then path
  else if root.endsWith "/" then root ++ path
  else root ++ "/" ++ path

/-- The fields of a server at its standard input, and the variables it refers to. -/
def stdioFields (projectEnv : List (String × String)) (projectRoot : String) (config : Json) :
    Option (List (String × Json) × List String) := do
  let command ← config.get? "command"
  let args ← copied "args" (fun args => (validateStringList args).map stringList) config
  let own ← ((config.get? "env").getD (.dict [])).entries
  let references ← ((config.get? "project_env_refs").getD (.list [])).iterate
  let environment ← references.foldlM (referTo projectEnv) own
  let directory ← match config.get? "cwd" with
    | none => some []
    | some cwd => (validateDirectory (joinPath projectRoot (cwd.text python))).map fun path =>
      [("working_directory", Json.str path)]
  some ([("command", .str (command.text python))] ++ args ++
    (if environment.isEmpty then [] else [("env", .dict environment)]) ++ directory,
    references.map (Json.text python))

def httpFields (config : Json) : Option (List (String × Json)) := do
  let url ← config.get? "url"
  let headers ← copied "headers" (fun headers => headers.entries.map .dict) config
  some ([("url", .str (url.text python))] ++ headers)

def sdkMcpServerConfig (entry : Entry McpServer) (projectEnv : List (String × String))
    (projectRoot : String) : Option (Json × List String) := do
  let config := entry.value.config.json
  let fields ← config.entries
  if fields.any fun field => field.1 ∉ allowedFields entry.value.transport then none
  let (specific, references) ←
    if entry.value.transport = "stdio" then
      stdioFields python validateDirectory projectEnv projectRoot config
    else (httpFields python config).map fun fields => (fields, [])
  let tools ← copied "tools" (fun tools => (validateStringList tools).map stringList) config
  let timeout ← copied "timeout" positiveInt config
  some (.dict ([("type", .str entry.value.transport)] ++ specific ++ tools ++ timeout), references)

def enabledDirectories (entries : List (Entry Bool)) : Option (List String) :=
  (entries.filter (·.value)).mapM fun entry => validateDirectory entry.key

def agentOptions (entry : Entry CustomAgent) : Json :=
  .dict [
    ("name", .str entry.key), ("display_name", .str entry.key),
    ("description", .str entry.value.description), ("prompt", .str entry.value.prompt),
    ("tools", stringList entry.value.tools)]

/-- The lists that `session_config_snapshot` has read. -/
structure Lists where
  envEntries : List (Entry String)
  mcpEntries : List (Entry McpServer)
  skillEntries : List (Entry Bool)
  pluginEntries : List (Entry Bool)
  agentEntries : List (Entry CustomAgent)

/-- The lists of a project at one moment. -/
def listsOf (projectId : String) (db : Db) : Lists where
  envEntries := db.entries .projectEnv projectId
  mcpEntries := db.entries .mcpServers projectId
  skillEntries := db.entries .skillDirs projectId
  pluginEntries := db.entries .pluginDirs projectId
  agentEntries := db.entries .customAgents projectId

/-- The `session_options` of a project. -/
def sessionOptions (lists : Lists) (rootPath : String) : Option (List (String × Json)) := do
  let projectEnv := lists.envEntries.map fun entry => (entry.key, entry.value)
  let servers ← (lists.mcpEntries.filter (·.value.enabled)).mapM fun entry =>
    (sdkMcpServerConfig python validateDirectory entry projectEnv rootPath).map fun server =>
      (entry.key, server)
  let referencedEnv := servers.flatMap fun server => server.2.2
  if projectEnv.any fun item => item.1 ∉ referencedEnv then none
  let skillDirectories ← enabledDirectories validateDirectory lists.skillEntries
  let pluginDirectories ← enabledDirectories validateDirectory lists.pluginEntries
  let customAgents := (lists.agentEntries.filter (·.value.enabled)).map agentOptions
  some (
    (if servers.isEmpty then []
      else [("mcp_servers", .dict (servers.map fun server => (server.1, server.2.1)))]) ++
    (if skillDirectories.isEmpty then []
      else [("enable_skills", .bool true),
        ("skill_directories", stringList skillDirectories)]) ++
    (if pluginDirectories.isEmpty then []
      else [("plugin_directories", stringList pluginDirectories)]) ++
    if customAgents.isEmpty then [] else [("custom_agents", .list customAgents)])

end Options

/-! ## Reads of the registry -/

structure CreationIntent where
  sourceKind : String
  sourceId : String
  projectSource : String
  projectId : Option String
  cwdSnapshot : String
  sdkSessionId : String
  projectConfigSnapshot : Json
  channelConfigSnapshot : Json
  layout : String
  projectConfigVersion : Nat
  channelConfigVersion : Nat
  projectSnapshotJson : Json
  sessionConfigSnapshotJson : Json
  worktreeIntentId : Option String

/-- The database as a creation reads it. -/
structure Moment where
  registry : World := {}
  /-- `default_timezone`, the key of its zone. -/
  defaultTimezone : Option String := none
  /-- `restart_draining`. -/
  draining : Bool := false
  intents : List CreationIntent := []

abbrev Moment.db (moment : Moment) : Db := moment.registry.db

def Db.channel (channelId : String) (db : Db) : Option ChannelSettings :=
  lookup ChannelSettings.channelId channelId db.channelSettings

section Reading

open Reads

variable (home : String)

def channelTimezone (channelId : String) : Reads Moment String := do
  match ← read fun moment => (Db.channel channelId moment.db).bind (·.timezone) with
  | some timezone => pure timezone
  | none => return (← read (·.defaultTimezone)).getD "UTC"

/-- The snapshot of a row of `projects`. -/
def Project.snapshot (channelId : String) (row : Project) : ProjectSnapshot :=
  { projectId := row.id, channelId, source := .explicit, rootPath := row.rootPath, cwd := row.cwd
    configVersion := row.configVersion, timezone := row.timezone }

def resolve (channelId : String) : Reads Moment ProjectSnapshot := do
  match ← read (·.db.activeProject channelId) with
  | some row => return Project.snapshot channelId row
  | none =>
    let timezone ← channelTimezone channelId
    return { projectId := none, channelId, source := .implicitHome, rootPath := home, cwd := home
             configVersion := 1, timezone }

def channelSettings (channelId : String) : Reads Moment (String × Bool × Nat) :=
  read fun moment => match Db.channel channelId moment.db with
    | none => ("text", false, 1)
    | some row => (row.layout, row.mentionRequired, row.configVersion)

/-- `_require_explicit_project`, and the project's id. -/
def requireExplicitProject (channelId : String) : Reads Moment String := do
  let project ← resolve home channelId
  ofOption project.projectId

/-- `list_project_env`, `list_mcp_servers`, `list_skill_dirs`, `list_plugin_dirs` and
`list_custom_agents`. -/
def listEntries (table : ConfigTable) (channelId : String) :
    Reads Moment (List (Entry table.Value)) := do
  let projectId ← requireExplicitProject home channelId
  read fun moment => moment.db.entries table projectId

/-- The five lists, one after the other. -/
def projectLists (channelId : String) : Reads Moment Lists := do
  let envEntries ← listEntries home .projectEnv channelId
  let mcpEntries ← listEntries home .mcpServers channelId
  let skillEntries ← listEntries home .skillDirs channelId
  let pluginEntries ← listEntries home .pluginDirs channelId
  let agentEntries ← listEntries home .customAgents channelId
  return { envEntries, mcpEntries, skillEntries, pluginEntries, agentEntries }

variable (python : Json.Python) (validateDirectory : String → Option String)

def sessionSnapshot (project : ProjectSnapshot) (settings : String × Bool × Nat)
    (sessionOptions : List (String × Json)) : ProjectSessionConfigSnapshot :=
  { projectId := project.projectId, source := project.source, rootPath := project.rootPath
    cwd := project.cwd, projectConfigVersion := project.configVersion
    channelConfigVersion := settings.2.2, layout := settings.1, mentionRequired := settings.2.1
    sessionOptions }

def sessionConfigSnapshot (channelId : String) : Reads Moment ProjectSessionConfigSnapshot := do
  let project ← resolve home channelId
  let settings ← channelSettings channelId
  if project.projectId = none then return sessionSnapshot project settings []
  else
    let lists ← projectLists home channelId
    let latestProject ← resolve home channelId
    let latestSettings ← channelSettings channelId
    if latestProject.projectId ≠ project.projectId ∨
        latestProject.configVersion ≠ project.configVersion ∨ latestSettings ≠ settings then raise
    else
      let options ← ofOption
        (sessionOptions python validateDirectory lists project.rootPath)
      return sessionSnapshot project settings options

def configSnapshot (project : ProjectSnapshot) (db : Db) : Option ProjectConfigSnapshot :=
  match project.projectId with
  | none => some { projectId := none, source := .implicitHome, cwd := project.cwd
                   timezone := project.timezone, configVersion := project.configVersion }
  | some projectId => do
    let row ← db.project projectId
    configSnapshotFromConnection python row db

end Reading

/-! ## The reservation -/

/-- The arguments of `create_from_source`. -/
structure Request where
  channelId : String
  sourceKind : String
  sourceId : String
  projectSnapshot : Option ProjectSnapshot := none
  configSnapshot : Option ProjectConfigSnapshot := none
  preallocatedSessionId : Option String := none
  worktreeIntentId : Option String := none

def Moment.bySource (request : Request) (moment : Moment) : Option CreationIntent :=
  moment.intents.find? fun intent =>
    intent.sourceKind = request.sourceKind ∧ intent.sourceId = request.sourceId

def projectSnapshotJson (project : ProjectSnapshot) : Json :=
  .dict [
    ("project_id", .ofOption project.projectId), ("channel_id", .str project.channelId),
    ("source", .str project.source.value), ("root_path", .str project.rootPath),
    ("cwd", .str project.cwd), ("config_version", .int project.configVersion),
    ("timezone", .str project.timezone)]

/-- The project of a session may still be used. -/
def usable (project : Project) : Bool :=
  ¬ (project.state = .closing ∨ project.projectKind = .worktree ∧ project.state = .retired)

/-- `reserve`, of an intent or of the one that is there; `uuid` is `str(uuid.uuid4())`. -/
def reserve (request : Request) (uuid : String) (project : ProjectSnapshot)
    (config : ProjectSessionConfigSnapshot) (frozenConfig : ProjectConfigSnapshot)
    (moment : Moment) : Option (CreationIntent × Bool) :=
  if moment.draining then none
  else if project.projectId.any fun projectId => ¬ (moment.db.project projectId).any usable then
    none
  else match moment.bySource request with
  | some intent =>
    if intent.projectSource ≠ project.source.value ∨ intent.projectId ≠ project.projectId ∨
        intent.cwdSnapshot ≠ project.cwd then none
    else if request.preallocatedSessionId.any (· ≠ intent.sdkSessionId) then none
    else some (intent, false)
  | none =>
    some ({
      sourceKind := request.sourceKind, sourceId := request.sourceId
      projectSource := project.source.value, projectId := project.projectId
      cwdSnapshot := project.cwd, sdkSessionId := request.preallocatedSessionId.getD uuid
      projectConfigSnapshot := config.projectPayload
      channelConfigSnapshot := config.channelPayload, layout := config.layout
      projectConfigVersion := config.projectConfigVersion
      channelConfigVersion := config.channelConfigVersion
      projectSnapshotJson := projectSnapshotJson project
      sessionConfigSnapshotJson := frozenConfig.toDict
      worktreeIntentId := request.worktreeIntentId }, true)

section Creating

variable (python : Json.Python) (validateDirectory : String → Option String) (home : String)

/-- The project of a session whose caller passes none. -/
def channelProject (channelId : String) (config : ProjectSessionConfigSnapshot) :
    ProjectSnapshot :=
  { projectId := config.projectId, channelId, source := config.source
    rootPath := config.rootPath, cwd := config.cwd, configVersion := config.projectConfigVersion }

def frozenConfig (request : Request) (project : ProjectSnapshot) (db : Db) :
    Option ProjectConfigSnapshot :=
  match request.configSnapshot with
  | none => configSnapshot python project db
  | some snapshot => some snapshot

/-- `create_from_source` up to the reservation, and whether the intent is new.  The moments are
those of the check for draining, of `by_source`, of `session_config_snapshot`, of
`config_snapshot`, if it reads, and of `reserve`. -/
def createFromSource (request : Request) (uuid : String) (drains looks : Moment)
    (session : List Moment) (freezes reserves : Moment) : Option (CreationIntent × Bool) :=
  if drains.draining then none
  else match looks.bySource request with
  | some intent => some (intent, false)
  | none =>
    match sessionConfigSnapshot home python validateDirectory request.channelId session with
    | some (config, []) => do
      let project := request.projectSnapshot.getD (channelProject request.channelId config)
      let frozen ← frozenConfig python request project freezes.db
      reserve request uuid project config frozen reserves
    | _ => none

end Creating

end Copilotd.Source.Core.SessionConfigs
