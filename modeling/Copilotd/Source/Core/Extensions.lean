import Copilotd.Base.Checked
import Copilotd.Base.CanonicalJson

/-!
# Extension configurations

Source: `core/extensions.py` (lines 18-301, the records and `ProjectExtensionConfig`; lines
1204-1414, the conversions of servers and agents and the checks).  A record is `Checked` by its
`__post_init__`.  The payload of `from_dict` is the items of the mapping; paths are their `str`.
What is passed to the SDK (`sdk_session_options`, `dynamic_headers`) and the file source are left
out.
-/
namespace Copilotd.Source.Core.Extensions

open Base

/-- The functions of Python whose results are left open. -/
structure Python extends Json.Python where
  /-- `repr(text)`. -/
  repr : String → String
  /-- `text.lower()`. -/
  lower : String → String
  /-- Whether `urlsplit` lets the brackets and the normal form of a `netloc` pass. -/
  netlocAccepted : String → Bool
  /-- `hashlib.sha256(text.encode()).hexdigest()`. -/
  sha256 : String → String

/-- An `ExtensionConfigError` with its text, or an exception of Python. -/
inductive Raised where
  | config (message : String)
  | python

/-! ## Checks -/

/-- `[A-Za-z_][A-Za-z0-9_.-]{0,127}`. -/
def configName (value : String) : Bool :=
  match value.toList with
  | [] => false
  | first :: rest =>
    (first.isAlpha || first == '_') && decide (rest.length ≤ 127) &&
      rest.all fun char => char.isAlphanum || char == '_' || char == '.' || char == '-'

def joinNames (names : List String) : String := String.intercalate ", " names

/-- `sorted(set(names))`. -/
def sortedNames (names : List String) : List String :=
  names.dedup.insertionSort fun one other => one ≤ other

/-- The values that have been seen before. -/
def duplicates (seen : List String) : List String → List String
  | [] => []
  | value :: values =>
    if value ∈ seen then value :: duplicates seen values else duplicates (value :: seen) values

section Records

variable (python : Python)

def validateName (value kind : String) : Except Raised Unit :=
  if configName value then .ok ()
  else .error (.config ("invalid " ++ kind ++ " name: " ++ python.repr value))

def requireUnique (values : List String) (kind : String) : Except Raised Unit :=
  match sortedNames (duplicates [] values) with
  | [] => .ok ()
  | names => .error (.config ("duplicate " ++ kind ++ " values: " ++ joinNames names))

def require (condition : Bool) (message : String) : Except Raised Unit :=
  if condition then .ok () else .error (.config message)

def contains (value : String) (char : Char) : Bool := value.toList.contains char

/-! ## URLs -/

structure ParseResult where
  scheme : String
  netloc : String

/-- The scheme before the first colon, and the rest. -/
def splitScheme (url : List Char) : String × List Char :=
  let scheme := url.takeWhile (· ≠ ':')
  let valid := scheme.length < url.length ∧ (scheme.head?.any Char.isAlpha) ∧
    scheme.all fun char => char.isAlphanum || char == '+' || char == '-' || char == '.'
  if valid then (String.ofList (scheme.map Char.toLower), url.drop (scheme.length + 1))
  else ("", url)

/-- `urlparse(url)`, up to the `netloc`. -/
def urlparse (url : String) : Except Raised ParseResult :=
  let stripped := url.toList.dropWhile fun char => decide (char.toNat ≤ 32)
  let (scheme, rest) := splitScheme (stripped.filter fun char =>
    char ≠ '\t' && char ≠ '\r' && char ≠ '\n')
  let netloc := match rest with
    | '/' :: '/' :: rest => rest.takeWhile fun char => char ≠ '/' && char ≠ '?' && char ≠ '#'
    | _ => []
  if python.netlocAccepted (String.ofList netloc) then .ok ⟨scheme, String.ofList netloc⟩
  else .error .python

/-- Whether the user name or the password is not `None`. -/
def ParseResult.hasCredentials (parsed : ParseResult) : Bool := contains parsed.netloc '@'

/-! ## Environment references and bindings -/

structure EnvironmentReference.Fields where
  name : String
  sourceEnv : String

def EnvironmentReference.postInit (item : EnvironmentReference.Fields) : Except Raised Unit := do
  validateName python item.name "environment reference"
  require (item.sourceEnv ≠ "" && !contains item.sourceEnv '=' && !contains item.sourceEnv '\x00')
    ("invalid source environment name: " ++ python.repr item.sourceEnv)

abbrev EnvironmentReference := Checked (EnvironmentReference.postInit python)

/-- The name of an environment variable or of a header, and the environment reference it takes. -/
structure Binding where
  name : String
  reference : String

def EnvironmentBinding.postInit (item : Binding) : Except Raised Unit := do
  require (item.name ≠ "" && !contains item.name '=' && !contains item.name '\x00')
    ("invalid environment binding name: " ++ python.repr item.name)
  validateName python item.reference "environment reference"

abbrev EnvironmentBinding := Checked (EnvironmentBinding.postInit python)

def HeaderBinding.postInit (item : Binding) : Except Raised Unit := do
  require (item.name ≠ "" && !contains item.name ':' && !contains item.name '\r' &&
      !contains item.name '\n' && !contains item.name '\x00')
    ("invalid HTTP header name: " ++ python.repr item.name)
  validateName python item.reference "environment reference"

abbrev HeaderBinding := Checked (HeaderBinding.postInit python)

/-! ## MCP servers -/

structure McpStdioServer.Fields where
  name : String
  command : String
  args : List String := []
  environment : List (EnvironmentBinding python) := []
  workingDirectory : Option String := none
  tools : List String := ["*"]
  timeoutMs : Option Int := none

def positiveTimeout (timeoutMs : Option Int) : Except Raised Unit :=
  require (timeoutMs.all fun timeout => 0 < timeout) "MCP timeout must be positive"

def McpStdioServer.postInit (server : McpStdioServer.Fields python) : Except Raised Unit := do
  validateName python server.name "MCP server"
  require (server.command ≠ "" && !contains server.command '\x00')
    "stdio MCP command must be non-empty"
  positiveTimeout server.timeoutMs
  requireUnique (server.environment.map (·.val.name)) "MCP environment binding"
  requireUnique server.tools "MCP tool"

abbrev McpStdioServer := Checked (McpStdioServer.postInit python)

structure McpHttpServer.Fields where
  name : String
  url : String
  headers : List (HeaderBinding python) := []
  tools : List String := ["*"]
  timeoutMs : Option Int := none

def McpHttpServer.postInit (server : McpHttpServer.Fields python) : Except Raised Unit := do
  validateName python server.name "MCP server"
  let parsed ← urlparse python server.url
  require ((parsed.scheme == "http" || parsed.scheme == "https") && parsed.netloc ≠ "")
    ("invalid HTTP MCP URL: " ++ python.repr server.url)
  require (!parsed.hasCredentials) "MCP URLs must not embed credentials"
  positiveTimeout server.timeoutMs
  requireUnique (server.headers.map fun header => python.lower header.val.name) "MCP header"
  requireUnique server.tools "MCP tool"

abbrev McpHttpServer := Checked (McpHttpServer.postInit python)

inductive McpServer where
  | stdio (server : McpStdioServer python)
  | http (server : McpHttpServer python)

variable {python} in
def McpServer.name : McpServer python → String
  | .stdio server => server.val.name
  | .http server => server.val.name

variable {python} in
def McpServer.references : McpServer python → List String
  | .stdio server => server.val.environment.map (·.val.reference)
  | .http server => server.val.headers.map (·.val.reference)

/-! ## Custom agents -/

def reasoningEfforts : List String := ["low", "medium", "high", "xhigh", "max"]

/-- The characters that `str.strip()` removes. -/
def isSpace (char : Char) : Bool :=
  let code := char.toNat
  (9 ≤ code && code ≤ 13) || (28 ≤ code && code ≤ 32) || code == 0x85 || code == 0xa0 ||
    code == 0x1680 || (0x2000 ≤ code && code ≤ 0x200a) || code == 0x2028 || code == 0x2029 ||
    code == 0x202f || code == 0x205f || code == 0x3000

structure CustomAgent.Fields where
  name : String
  prompt : String
  description : String := ""
  displayName : Option String := none
  tools : Option (List String) := none
  skills : List String := []
  mcpServerNames : List String := []
  infer : Option Bool := none
  model : Option String := none
  reasoningEffort : Option String := none

def CustomAgent.postInit (agent : CustomAgent.Fields) : Except Raised Unit := do
  validateName python agent.name "custom agent"
  require (!agent.prompt.toList.all isSpace) "custom agent prompt must be non-empty"
  require (agent.reasoningEffort.all reasoningEfforts.contains)
    ("unsupported custom-agent reasoning effort: " ++ agent.reasoningEffort.getD "None")
  match agent.tools with
  | some tools => requireUnique tools "custom-agent tool"
  | none => pure ()
  requireUnique agent.skills "custom-agent skill"
  requireUnique agent.mcpServerNames "custom-agent MCP server"

abbrev CustomAgent := Checked (CustomAgent.postInit python)

/-! ## Configurations -/

structure ProjectExtensionConfig.Fields where
  environmentReferences : List (EnvironmentReference python) := []
  mcpServers : List (McpServer python) := []
  skillDirectories : List String := []
  disabledSkills : List String := []
  pluginDirectories : List String := []
  customAgents : List (CustomAgent python) := []

def ProjectExtensionConfig.postInit (config : ProjectExtensionConfig.Fields python) :
    Except Raised Unit := do
  requireUnique (config.environmentReferences.map (·.val.name)) "environment reference"
  requireUnique (config.mcpServers.map McpServer.name) "MCP server"
  requireUnique config.skillDirectories "skill directory"
  requireUnique config.disabledSkills "disabled skill"
  requireUnique config.pluginDirectories "plugin directory"
  requireUnique (config.customAgents.map (·.val.name)) "custom agent"
  let references := config.environmentReferences.map (·.val.name)
  let serverNames := config.mcpServers.map McpServer.name
  config.mcpServers.forM fun server =>
    match (server.references.filter fun name => !references.contains name).insertionSort
        fun one other => one ≤ other with
    | [] => .ok ()
    | missing => .error (.config ("MCP server " ++ server.name ++
        " references unknown environment values: " ++ joinNames missing))
  config.customAgents.forM fun agent =>
    match sortedNames (agent.val.mcpServerNames.filter fun name => !serverNames.contains name) with
    | [] => .ok ()
    | missing => .error (.config ("custom agent " ++ agent.val.name ++
        " references unknown MCP servers: " ++ joinNames missing))

abbrev ProjectExtensionConfig := Checked (ProjectExtensionConfig.postInit python)

end Records

/-! ## Dictionaries -/

section Encoding

variable {python : Python}

def stringList (values : List String) : Json := .list (values.map .str)

def optionalInt : Option Int → Json
  | none => .null
  | some value => .int value

def optionalBool : Option Bool → Json
  | none => .null
  | some value => .bool value

def EnvironmentReference.toItems (item : EnvironmentReference python) : List (String × Json) :=
  [("name", .str item.val.name), ("source_env", .str item.val.sourceEnv)]

def Binding.toItems (item : Binding) : List (String × Json) :=
  [("name", .str item.name), ("reference", .str item.reference)]

def mappings (items : List (List (String × Json))) : Json := .list (items.map .dict)

def mcpToDict : McpServer python → List (String × Json)
  | .stdio server => [
      ("name", .str server.val.name),
      ("transport", .str "stdio"),
      ("command", .str server.val.command),
      ("args", stringList server.val.args),
      ("environment", mappings (server.val.environment.map fun item => item.val.toItems)),
      ("working_directory", .ofOption server.val.workingDirectory),
      ("tools", stringList server.val.tools),
      ("timeout_ms", optionalInt server.val.timeoutMs)]
  | .http server => [
      ("name", .str server.val.name),
      ("transport", .str "http"),
      ("url", .str server.val.url),
      ("headers", mappings (server.val.headers.map fun item => item.val.toItems)),
      ("tools", stringList server.val.tools),
      ("timeout_ms", optionalInt server.val.timeoutMs)]

def agentToDict (agent : CustomAgent python) : List (String × Json) := [
  ("name", .str agent.val.name),
  ("display_name", .ofOption agent.val.displayName),
  ("description", .str agent.val.description),
  ("prompt", .str agent.val.prompt),
  ("tools", (agent.val.tools.map stringList).getD .null),
  ("skills", stringList agent.val.skills),
  ("mcp_server_names", stringList agent.val.mcpServerNames),
  ("infer", optionalBool agent.val.infer),
  ("model", .ofOption agent.val.model),
  ("reasoning_effort", .ofOption agent.val.reasoningEffort)]

def toDict (config : ProjectExtensionConfig python) : List (String × Json) := [
  ("environment_references",
    mappings (config.val.environmentReferences.map EnvironmentReference.toItems)),
  ("mcp_servers", mappings (config.val.mcpServers.map mcpToDict)),
  ("skill_directories", stringList config.val.skillDirectories),
  ("disabled_skills", stringList config.val.disabledSkills),
  ("plugin_directories", stringList config.val.pluginDirectories),
  ("custom_agents", mappings (config.val.customAgents.map agentToDict))]

/-- `config.canonical_json()`, with the keys sorted. -/
def canonicalJson (config : ProjectExtensionConfig python) : String :=
  Json.canonical (.dict (toDict config))

def digest (config : ProjectExtensionConfig python) : String :=
  python.sha256 (canonicalJson config)

end Encoding

section Decoding

variable (python : Python)

/-- `payload[key]`. -/
def itemAt (payload : List (String × Json)) (key : String) : Except Raised Json :=
  match Dict.get key payload with
  | some value => .ok value
  | none => .error .python

/-- `str(payload[key])`. -/
def textItem (payload : List (String × Json)) (key : String) : Except Raised String :=
  (itemAt payload key).map (Json.text python.toPython)

/-- `payload.get(key, default)`. -/
def getItem (payload : List (String × Json)) (key : String) (default : Json) : Json :=
  (Dict.get key payload).getD default

def rejectUnknownKeys (payload : List (String × Json)) (allowed : List String)
    (context : String) : Except Raised Unit :=
  match ((payload.map Prod.fst).filter fun key => !allowed.contains key).insertionSort
      fun one other => one ≤ other with
  | [] => .ok ()
  | unknown => .error (.config (context ++ " contains unknown keys: " ++ joinNames unknown))

def mappingOf : Json → Except Raised (List (String × Json))
  | .dict items => .ok items
  | _ => .error (.config "expected a list of objects")

def mappingList : Json → Except Raised (List (List (String × Json)))
  | .list items => items.mapM mappingOf
  | _ => .error (.config "expected a list of objects")

def stringOf : Json → Except Raised String
  | .str text => .ok text
  | _ => .error (.config "expected a list of strings")

def stringTuple : Json → Except Raised (List String)
  | .list items => items.mapM stringOf
  | _ => .error (.config "expected a list of strings")

def intOrNone : Json → Except Raised (Option Int)
  | .null => .ok none
  | .bool _ => .error (.config "expected an integer")
  | value =>
    match value.toInt python.toPython with
    | some value => .ok (some value)
    | none => .error .python

/-- `None if value is None else _string_tuple(value)`. -/
def stringsOrNone : Json → Except Raised (Option (List String))
  | .null => .ok none
  | value => (stringTuple value).map some

/-- `None if value is None else bool(value)`. -/
def boolOrNone : Json → Option Bool
  | .null => none
  | value => some value.truthy

def environmentReferenceFromDict (payload : List (String × Json)) :
    Except Raised (EnvironmentReference python) := do
  let name ← textItem python payload "name"
  let sourceEnv ← textItem python payload "source_env"
  Checked.make (EnvironmentReference.postInit python) { name, sourceEnv }

/-- A binding with the check of its class. -/
def bindingFromDict (postInit : Binding → Except Raised Unit) (payload : List (String × Json)) :
    Except Raised (Checked postInit) := do
  let name ← textItem python payload "name"
  let reference ← textItem python payload "reference"
  Checked.make postInit { name, reference }

def stdioFromDict (payload : List (String × Json)) : Except Raised (McpStdioServer python) := do
  rejectUnknownKeys payload ["name", "transport", "command", "args", "environment",
    "working_directory", "tools", "timeout_ms"] "stdio MCP server"
  let environment ← mappingList (getItem payload "environment" (.list []))
  environment.forM fun item =>
    rejectUnknownKeys item ["name", "reference"] "MCP environment binding"
  let name ← textItem python payload "name"
  let command ← textItem python payload "command"
  let args ← stringTuple (getItem payload "args" (.list []))
  let environment ← environment.mapM (bindingFromDict python (EnvironmentBinding.postInit python))
  let workingDirectory :=
    Json.optionalText python.toPython (Dict.get "working_directory" payload)
  let tools ← stringTuple (getItem payload "tools" (.list [.str "*"]))
  let timeoutMs ← intOrNone python (getItem payload "timeout_ms" .null)
  Checked.make (McpStdioServer.postInit python)
    { name, command, args, environment, workingDirectory, tools, timeoutMs }

def httpFromDict (payload : List (String × Json)) : Except Raised (McpHttpServer python) := do
  rejectUnknownKeys payload ["name", "transport", "url", "headers", "tools", "timeout_ms"]
    "HTTP MCP server"
  let headers ← mappingList (getItem payload "headers" (.list []))
  headers.forM fun item => rejectUnknownKeys item ["name", "reference"] "MCP header binding"
  let name ← textItem python payload "name"
  let url ← textItem python payload "url"
  let headers ← headers.mapM (bindingFromDict python (HeaderBinding.postInit python))
  let tools ← stringTuple (getItem payload "tools" (.list [.str "*"]))
  let timeoutMs ← intOrNone python (getItem payload "timeout_ms" .null)
  Checked.make (McpHttpServer.postInit python) { name, url, headers, tools, timeoutMs }

def mcpFromDict (payload : List (String × Json)) : Except Raised (McpServer python) := do
  let transport ← textItem python payload "transport"
  if transport = "stdio" then
    return .stdio (← stdioFromDict python payload)
  if transport = "http" then
    return .http (← httpFromDict python payload)
  .error (.config ("unsupported MCP transport: " ++ transport))

def agentFromDict (payload : List (String × Json)) : Except Raised (CustomAgent python) := do
  rejectUnknownKeys payload ["name", "display_name", "description", "prompt", "tools", "skills",
    "mcp_server_names", "infer", "model", "reasoning_effort"] "custom agent"
  let optionalText (key : String) := Json.optionalText python.toPython (Dict.get key payload)
  let name ← textItem python payload "name"
  let description := (getItem payload "description" (.str "")).text python.toPython
  let prompt ← textItem python payload "prompt"
  let tools ← stringsOrNone (getItem payload "tools" .null)
  let skills ← stringTuple (getItem payload "skills" (.list []))
  let mcpServerNames ← stringTuple (getItem payload "mcp_server_names" (.list []))
  let infer := boolOrNone (getItem payload "infer" .null)
  Checked.make (CustomAgent.postInit python) {
    name, prompt, description, tools, skills, mcpServerNames, infer
    displayName := optionalText "display_name"
    model := optionalText "model"
    reasoningEffort := optionalText "reasoning_effort" }

/-- The body of the `try` of `from_dict`. -/
def readConfig (payload : List (String × Json)) :
    Except Raised (ProjectExtensionConfig python) := do
  rejectUnknownKeys payload ["environment_references", "mcp_servers", "skill_directories",
    "disabled_skills", "plugin_directories", "custom_agents"] "extension config"
  let environmentItems ← mappingList (getItem payload "environment_references" (.list []))
  environmentItems.forM fun item =>
    rejectUnknownKeys item ["name", "source_env"] "environment reference"
  let environmentReferences ← environmentItems.mapM (environmentReferenceFromDict python)
  let serverItems ← mappingList (getItem payload "mcp_servers" (.list []))
  let mcpServers ← serverItems.mapM (mcpFromDict python)
  let agentItems ← mappingList (getItem payload "custom_agents" (.list []))
  let customAgents ← agentItems.mapM (agentFromDict python)
  let skillDirectories ← stringTuple (getItem payload "skill_directories" (.list []))
  let disabledSkills ← stringTuple (getItem payload "disabled_skills" (.list []))
  let pluginDirectories ← stringTuple (getItem payload "plugin_directories" (.list []))
  Checked.make (ProjectExtensionConfig.postInit python) {
    environmentReferences, mcpServers, skillDirectories, disabledSkills, pluginDirectories,
    customAgents }

def fromDict (payload : List (String × Json)) : Except Raised (ProjectExtensionConfig python) :=
  match readConfig python payload with
  | .error .python => .error (.config "invalid extension configuration payload")
  | result => result

end Decoding

/-! ## Normalization -/

/-- What the file system answers about paths. -/
structure Resolution where
  /-- `Path(value).expanduser()`, which may raise. -/
  expanduser : String → Option String
  isAbsolute : String → Bool
  /-- `cwd / candidate`. -/
  joined : String → String → String
  /-- `path.resolve()`, which may raise. -/
  resolve : String → Option String
  /-- `path.exists() and path.is_dir()`. -/
  isDir : String → Bool

/-- A resolved path is absolute, has no user to expand and resolves to itself. -/
def Resolution.Fixed (oracle : Resolution) : Prop :=
  ∀ path resolved, oracle.resolve path = some resolved →
    oracle.expanduser resolved = some resolved ∧ oracle.isAbsolute resolved = true ∧
      oracle.resolve resolved = some resolved

section Normalization

variable {python : Python} (oracle : Resolution)

def orRaise {α : Type} : Option α → Except Raised α
  | some value => .ok value
  | none => .error .python

def normalizeDirectory (cwd value : String) : Except Raised String := do
  let candidate ← orRaise (oracle.expanduser value)
  let resolved ← orRaise (oracle.resolve
    (if oracle.isAbsolute candidate then candidate else oracle.joined cwd candidate))
  require (oracle.isDir resolved) ("extension directory does not exist: " ++ resolved)
  return resolved

def normalizeServer (cwd : String) : McpServer python → Except Raised (McpServer python)
  | .stdio server =>
    match server.val.workingDirectory with
    | none => .ok (.stdio server)
    | some directory => do
      let resolved ← normalizeDirectory oracle cwd directory
      let server ← Checked.make (McpStdioServer.postInit python)
        { server.val with workingDirectory := some resolved }
      return .stdio server
  | .http server => .ok (.http server)

/-- `cwd.expanduser().resolve()`. -/
def resolveCwd (cwd : String) : Except Raised String := do
  let expanded ← orRaise (oracle.expanduser cwd)
  orRaise (oracle.resolve expanded)

def normalized (config : ProjectExtensionConfig python) (cwd : String) :
    Except Raised (ProjectExtensionConfig python) := do
  let resolvedCwd ← resolveCwd oracle cwd
  let skillDirectories ←
    config.val.skillDirectories.mapM (normalizeDirectory oracle resolvedCwd)
  let pluginDirectories ←
    config.val.pluginDirectories.mapM (normalizeDirectory oracle resolvedCwd)
  let mcpServers ← config.val.mcpServers.mapM (normalizeServer oracle resolvedCwd)
  Checked.make (ProjectExtensionConfig.postInit python)
    { config.val with skillDirectories, pluginDirectories, mcpServers }

end Normalization

end Copilotd.Source.Core.Extensions
