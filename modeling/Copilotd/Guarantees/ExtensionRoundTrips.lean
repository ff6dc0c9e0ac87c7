import Copilotd.Source.Core.Extensions

/-!
# Extension configurations survive their encodings

`from_dict` reads back what `to_dict` writes, record by record; a payload that `from_dict` accepts
is accepted again after it was written, and written the same.  A normalized configuration is its
own normalization in every directory.
-/
namespace Copilotd.Guarantees.ExtensionRoundTrips

open Base Base.Encodings Source.Core.Extensions

variable {python : Python}

/-! ## Values -/

theorem stringTuple_stringList (values : List String) :
    stringTuple (stringList values) = .ok values := by
  change (values.map Json.str).mapM stringOf = .ok values
  exact mapM_map Json.str stringOf (fun _ => rfl) values

theorem mappingList_mappings (items : List (List (String × Json))) :
    mappingList (mappings items) = .ok items := by
  change (items.map Json.dict).mapM mappingOf = .ok items
  exact mapM_map Json.dict mappingOf (fun _ => rfl) items

theorem intOrNone_optionalInt (value : Option Int) :
    intOrNone python (optionalInt value) = .ok value := by
  cases value <;> rfl

theorem stringsOrNone_map (values : Option (List String)) :
    stringsOrNone ((values.map stringList).getD .null) = .ok values := by
  cases values with
  | none => rfl
  | some values =>
    change (stringTuple (stringList values)).map some = .ok (some values)
    rw [stringTuple_stringList]
    rfl

theorem boolOrNone_optionalBool (value : Option Bool) :
    boolOrNone (optionalBool value) = value := by
  cases value <;> rfl

/-! ## Records -/

theorem environmentReference_keys (item : EnvironmentReference python) :
    rejectUnknownKeys item.toItems ["name", "source_env"] "environment reference" = .ok () := by
  simp [rejectUnknownKeys, EnvironmentReference.toItems]

theorem environmentReferenceFromDict_toItems (item : EnvironmentReference python) :
    environmentReferenceFromDict python item.toItems = .ok item := by
  simp [environmentReferenceFromDict, EnvironmentReference.toItems, textItem, itemAt,
    Dict.get_cons, Except.map]
  exact Checked.make_val item

theorem binding_keys (item : Binding) (context : String) :
    rejectUnknownKeys item.toItems ["name", "reference"] context = .ok () := by
  simp [rejectUnknownKeys, Binding.toItems]

variable {postInit : Binding → Except Raised Unit}

theorem bindingFromDict_toItems
    (item : Checked postInit) : bindingFromDict python postInit item.val.toItems = .ok item := by
  simp [bindingFromDict, Binding.toItems, textItem, itemAt, Dict.get_cons, Except.map]
  exact Checked.make_val item

theorem bindings_keys (items : List (Checked postInit)) (context : String) :
    (items.map fun item => item.val.toItems).forM
      (fun item => rejectUnknownKeys item ["name", "reference"] context) = .ok () :=
  forM_map (fun item : Checked postInit => item.val.toItems) _
    (fun item => binding_keys item.val context) items

theorem bindingsFromDict_toItems (items : List (Checked postInit)) :
    (items.map fun item => item.val.toItems).mapM (bindingFromDict python postInit) = .ok items :=
  mapM_map (fun item : Checked postInit => item.val.toItems) _ bindingFromDict_toItems items

theorem stdioFromDict_mcpToDict (server : McpStdioServer python) :
    stdioFromDict python (mcpToDict (.stdio server)) = .ok server := by
  have keys : rejectUnknownKeys (mcpToDict (.stdio server)) ["name", "transport", "command",
      "args", "environment", "working_directory", "tools", "timeout_ms"] "stdio MCP server" =
        .ok () := by
    simp [rejectUnknownKeys, mcpToDict]
  unfold stdioFromDict
  simp only [mcpToDict, getItem, textItem, itemAt, Dict.get_cons, String.reduceEq, ↓reduceIte,
    Option.getD_some, Except.map, Json.text_str, Json.optionalText_ofOption, ok_bind,
    mappingList_mappings, stringTuple_stringList, intOrNone_optionalInt, bindings_keys,
    bindingsFromDict_toItems]
  exact Checked.make_val server

theorem httpFromDict_mcpToDict (server : McpHttpServer python) :
    httpFromDict python (mcpToDict (.http server)) = .ok server := by
  have keys : rejectUnknownKeys (mcpToDict (.http server)) ["name", "transport", "url",
      "headers", "tools", "timeout_ms"] "HTTP MCP server" = .ok () := by
    simp [rejectUnknownKeys, mcpToDict]
  unfold httpFromDict
  simp only [mcpToDict, getItem, textItem, itemAt, Dict.get_cons, String.reduceEq, ↓reduceIte,
    Option.getD_some, Except.map, Json.text_str, ok_bind, mappingList_mappings,
    stringTuple_stringList, intOrNone_optionalInt, bindings_keys, bindingsFromDict_toItems]
  exact Checked.make_val server

theorem mcpFromDict_mcpToDict (server : McpServer python) :
    mcpFromDict python (mcpToDict server) = .ok server := by
  cases server with
  | stdio server =>
    have transport : textItem python (mcpToDict (.stdio server)) "transport" = .ok "stdio" := by
      simp [textItem, itemAt, mcpToDict, Dict.get_cons, Except.map]
    unfold mcpFromDict
    rw [transport, ok_bind, if_pos rfl, stdioFromDict_mcpToDict]
    rfl
  | http server =>
    have transport : textItem python (mcpToDict (.http server)) "transport" = .ok "http" := by
      simp [textItem, itemAt, mcpToDict, Dict.get_cons, Except.map]
    unfold mcpFromDict
    rw [transport, ok_bind, if_neg (by decide), if_pos rfl, httpFromDict_mcpToDict]
    rfl

theorem agentFromDict_agentToDict (agent : CustomAgent python) :
    agentFromDict python (agentToDict agent) = .ok agent := by
  have keys : rejectUnknownKeys (agentToDict agent) ["name", "display_name", "description",
      "prompt", "tools", "skills", "mcp_server_names", "infer", "model", "reasoning_effort"]
      "custom agent" = .ok () := by
    simp [rejectUnknownKeys, agentToDict]
  unfold agentFromDict
  simp only [agentToDict, getItem, textItem, itemAt, Dict.get_cons, String.reduceEq, ↓reduceIte,
    Option.getD_some, Except.map, Json.text_str, Json.optionalText_ofOption, ok_bind,
    stringTuple_stringList, stringsOrNone_map, boolOrNone_optionalBool]
  exact Checked.make_val agent

/-! ## Configurations -/

theorem readConfig_toDict (config : ProjectExtensionConfig python) :
    readConfig python (toDict config) = .ok config := by
  have keys : rejectUnknownKeys (toDict config) ["environment_references", "mcp_servers",
      "skill_directories", "disabled_skills", "plugin_directories", "custom_agents"]
      "extension config" = .ok () := by
    simp [rejectUnknownKeys, toDict]
  have references := mapM_map EnvironmentReference.toItems (environmentReferenceFromDict python)
    environmentReferenceFromDict_toItems config.val.environmentReferences
  have known := forM_map EnvironmentReference.toItems
    (fun item => rejectUnknownKeys item ["name", "source_env"] "environment reference")
    environmentReference_keys config.val.environmentReferences
  have servers := mapM_map mcpToDict (mcpFromDict python) mcpFromDict_mcpToDict
    config.val.mcpServers
  have agents := mapM_map agentToDict (agentFromDict python) agentFromDict_agentToDict
    config.val.customAgents
  unfold readConfig
  simp only [toDict, getItem, Dict.get_cons, String.reduceEq, ↓reduceIte, Option.getD_some,
    ok_bind, mappingList_mappings, stringTuple_stringList, known, references, servers, agents]
  exact Checked.make_val config

theorem fromDict_toDict (config : ProjectExtensionConfig python) :
    fromDict python (toDict config) = .ok config := by
  unfold fromDict
  rw [readConfig_toDict]

/-! ## Normalization -/

variable {oracle : Resolution}

theorem orRaise_ok {α : Type} {value : Option α} {result : α} :
    orRaise value = .ok result ↔ value = some result := by
  cases value with
  | none => exact ⟨nofun, nofun⟩
  | some value => simp [orRaise]

theorem normalizeDirectory_fixed (fixed : oracle.Fixed) (other : String)
    {cwd value resolved : String} (found : normalizeDirectory oracle cwd value = .ok resolved) :
    normalizeDirectory oracle other resolved = .ok resolved := by
  obtain ⟨candidate, -, found⟩ := bind_ok.mp found
  obtain ⟨directory, resolves, found⟩ := bind_ok.mp found
  obtain ⟨_, exists_, found⟩ := bind_ok.mp found
  cases found
  obtain ⟨expands, absolute, again⟩ := fixed _ _ (orRaise_ok.mp resolves)
  unfold normalizeDirectory
  rw [expands, orRaise, ok_bind, absolute, if_pos rfl, again, orRaise, ok_bind, exists_]
  rfl

theorem normalizeServer_fixed (fixed : oracle.Fixed) (other : String) {cwd : String}
    {server result : McpServer python} (found : normalizeServer oracle cwd server = .ok result) :
    normalizeServer oracle other result = .ok result := by
  cases server with
  | http server =>
    cases found
    rfl
  | stdio server =>
    cases directory : server.val.workingDirectory with
    | none =>
      simp only [normalizeServer, directory] at found
      cases found
      simp only [normalizeServer, directory]
    | some value =>
      simp only [normalizeServer, directory] at found
      obtain ⟨resolved, resolves, found⟩ := bind_ok.mp found
      obtain ⟨rewritten, made, found⟩ := bind_ok.mp found
      cases found
      have fields := Checked.val_of_make made
      have working : rewritten.val.workingDirectory = some resolved := by rw [fields]
      have same : { rewritten.val with workingDirectory := some resolved } = rewritten.val := by
        rw [fields]
      simp only [normalizeServer, working]
      rw [normalizeDirectory_fixed fixed other resolves, ok_bind, same, Checked.make_val]
      rfl

theorem normalized_fixed (fixed : oracle.Fixed) {config result : ProjectExtensionConfig python}
    {cwd other otherResolved : String} (found : normalized oracle config cwd = .ok result)
    (resolves : resolveCwd oracle other = .ok otherResolved) :
    normalized oracle result other = .ok result := by
  obtain ⟨resolvedCwd, -, found⟩ := bind_ok.mp found
  obtain ⟨skills, skillsFound, found⟩ := bind_ok.mp found
  obtain ⟨plugins, pluginsFound, found⟩ := bind_ok.mp found
  obtain ⟨servers, serversFound, made⟩ := bind_ok.mp found
  have fields := Checked.val_of_make made
  have skillsAgain := mapM_idempotent
    (fun _ _ => normalizeDirectory_fixed fixed otherResolved) skillsFound
  have pluginsAgain := mapM_idempotent
    (fun _ _ => normalizeDirectory_fixed fixed otherResolved) pluginsFound
  have serversAgain := mapM_idempotent
    (fun _ _ => normalizeServer_fixed fixed otherResolved) serversFound
  have same : { result.val with
      skillDirectories := skills, pluginDirectories := plugins, mcpServers := servers } =
        result.val := by
    rw [fields]
  unfold normalized
  rw [resolves, ok_bind]
  rw [show result.val.skillDirectories = skills by rw [fields], skillsAgain, ok_bind]
  rw [show result.val.pluginDirectories = plugins by rw [fields], pluginsAgain, ok_bind]
  rw [show result.val.mcpServers = servers by rw [fields], serversAgain, ok_bind]
  rw [same, Checked.make_val]

/-- A valid configuration is read back as it was, with its digest; what `from_dict` accepts is
accepted again once written, and written the same; a normalized configuration is normalized to
itself, so that a reload claim publishes the hash that was computed before it. -/
theorem configurations_round_trip (fixed : oracle.Fixed) :
    (∀ config : ProjectExtensionConfig python,
      fromDict python (toDict config) = .ok config ∧
        (fromDict python (toDict config)).map digest = .ok (digest config)) ∧
    (∀ payload config, fromDict python payload = .ok config →
      ∃ again, fromDict python (toDict config) = .ok again ∧ toDict again = toDict config) ∧
    ∀ (config result : ProjectExtensionConfig python) cwd,
      normalized oracle config cwd = .ok result →
        normalized oracle result cwd = .ok result ∧
          (normalized oracle result cwd).map digest = .ok (digest result) := by
  refine ⟨?_, ?_, ?_⟩
  · intro config
    rw [fromDict_toDict]
    exact ⟨rfl, rfl⟩
  · intro payload config _
    exact ⟨config, fromDict_toDict config, rfl⟩
  · intro config result cwd found
    obtain ⟨resolvedCwd, resolves, -⟩ := bind_ok.mp found
    have again := normalized_fixed fixed found resolves
    rw [again]
    exact ⟨rfl, rfl⟩

/-- Python where no value has a text but strings, and all texts are their own hash. -/
def plainPython : Python where
  str _ := ""
  int _ := none
  repr := id
  lower := id
  netlocAccepted _ := true
  sha256 := id

def projectDirectory : Resolution where
  expanduser := some
  isAbsolute path := path == "/project"
  joined cwd _ := cwd
  resolve _ := some "/project"
  isDir path := path == "/project"

def withSkills (directory : String) : ProjectExtensionConfig plainPython :=
  ⟨{ skillDirectories := [directory] }, rfl⟩

theorem configurations_round_trip_project :
    normalized projectDirectory (withSkills "/project") "/project" = .ok (withSkills "/project") ∧
      (normalized projectDirectory (withSkills "/project") "/project").map digest =
        .ok (digest (withSkills "/project")) := by
  have fixed : projectDirectory.Fixed := by
    intro path resolved found
    cases found
    exact ⟨rfl, rfl, rfl⟩
  exact (configurations_round_trip fixed).2.2 (withSkills ".") _ "/project" rfl

end Copilotd.Guarantees.ExtensionRoundTrips
