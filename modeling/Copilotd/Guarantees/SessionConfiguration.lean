import Copilotd.Source.Core.SessionConfigs
import Copilotd.Guarantees.ConfigVersions

/-!
# One configuration for a new session

`session_config_snapshot` checks the version again after its reads, so that they are as one read
of the channel's project.  An intent takes `project_config_snapshot` from there whatever project
the caller passes, and its frozen configuration from the caller or from a read of its own.  The
two agree if and only if the caller's snapshots are of the channel's project at its version, and
that version is still there when `config_snapshot` reads.
-/
namespace Copilotd.Guarantees.SessionConfiguration

open Base Base.Reads Base.Run Source.Core.ProjectConfigs Source.Core.SessionConfigs
open Guarantees.ConfigVersions

/-! ## The law -/

/-- The fields of an intent name the project at the version. -/
structure Describes (intent : CreationIntent) (projectId : Option String) (version : Nat) :
    Prop where
  project : intent.projectId = projectId
  configVersion : intent.projectConfigVersion = version
  payloadProject : intent.projectConfigSnapshot.get? "project_id" = some (.ofOption projectId)
  payloadVersion :
    intent.projectConfigSnapshot.get? "project_config_version" = some (.int version)
  frozenProject : intent.sessionConfigSnapshotJson.get? "project_id" = some (.ofOption projectId)
  frozenVersion : intent.sessionConfigSnapshotJson.get? "config_version" = some (.int version)

def OneConfiguration (intent : CreationIntent) : Prop :=
  ∃ projectId version, Describes intent projectId version

def channelVersion (channelId : String) (db : Db) : Option String × Nat :=
  match db.activeProject channelId with
  | some row => (some row.id, row.configVersion)
  | none => (none, 1)

/-- The frozen configuration is of the version that `session_config_snapshot` resolved. -/
def FrozenThen (request : Request) (projectId : Option String) (version : Nat) (freezes : Db) :
    Prop :=
  match request.configSnapshot, projectId with
  | some frozen, _ => frozen.projectId = projectId ∧ frozen.configVersion = version
  | none, some projectId => (freezes.project projectId).map (·.configVersion) = some version
  | none, none => ∀ snapshot ∈ request.projectSnapshot, snapshot.configVersion = version

/-- The condition, on what the caller passes and on the database as `session_config_snapshot`
resolves and as `config_snapshot` reads. -/
def Matches (request : Request) (resolves freezes : Db) : Prop :=
  let named := channelVersion request.channelId resolves
  (∀ snapshot ∈ request.projectSnapshot, snapshot.projectId = named.1) ∧
    FrozenThen request named.1 named.2 freezes

/-- Other tasks' calls of the registry come between two moments. -/
def Later (python : Json.Python) (moment next : Moment) : Prop :=
  ∃ labels, run (step python) moment.registry labels = some next.registry

/-! ## The reads of one snapshot -/

variable {python : Json.Python} {validateDirectory : String → Option String} {home : String}

instance : IsTrans Moment (Later python) where
  trans := by
    rintro first second third ⟨labels, reached⟩ ⟨more, onwards⟩
    refine ⟨labels ++ more, ?_⟩
    rw [run_append, reached, Option.bind_some]
    exact onwards

variable {row : Project} {channelId : String} {moment : Moment}

theorem unchanged_between {first last : Moment} {latest : Project} (owned : first.db.Owned)
    (before : Later python first moment) (after : Later python moment last)
    (found : first.db.activeProject channelId = some row)
    (still : last.db.activeProject channelId = some latest) (id : latest.id = row.id)
    (version : latest.configVersion = row.configVersion) :
    (∃ now, moment.db.activeProject channelId = some now ∧ now.id = row.id) ∧
      SameConfig first.db moment.db row.id := by
  obtain ⟨labels, reached⟩ := before
  obtain ⟨more, onwards⟩ := after
  have ownedThen := run_owned owned reached
  have ownedLast := run_owned ownedThen onwards
  have rowThere : first.db.project row.id = some row :=
    Table.lookup_of_mem owned.unique (List.mem_of_find?_eq_some found)
  have latestThere : last.db.project row.id = some latest := by
    rw [← id]
    exact Table.lookup_of_mem ownedLast.unique (List.mem_of_find?_eq_some still)
  obtain ⟨now, there, follows, same⟩ := (run_evolves owned reached).project row.id row rowThere
  obtain ⟨end_, ends, goesOn, _⟩ := (run_evolves ownedThen onwards).project row.id now there
  rw [latestThere] at ends
  cases ends
  have low := follows.version
  have high := goesOn.version
  have active : isActive channelId now := goesOn.isActive (List.find?_some still)
  refine ⟨?_, same (by omega)⟩
  obtain ⟨other, resolved⟩ : ∃ other, moment.db.activeProject channelId = some other := by
    refine Option.isSome_iff_exists.mp ?_
    rw [Db.activeProject, List.find?_isSome]
    exact ⟨now, Table.lookup_some_mem there, active⟩
  have otherThere : moment.db.project other.id = some other :=
    Table.lookup_of_mem ownedThen.unique (List.mem_of_find?_eq_some resolved)
  exact ⟨other, resolved, ownedThen.single channelId other.id row.id other now otherThere there
    (List.find?_some resolved) active⟩

variable {project : ProjectSnapshot} {rest moments : List Moment}

theorem resolve_spec (done : resolve home channelId moments = some (project, rest)) :
    ∃ moment later, moments = moment :: later ∧
      ((∃ row, moment.db.activeProject channelId = some row ∧
          project = Project.snapshot channelId row ∧ later = rest) ∨
        moment.db.activeProject channelId = none ∧ project.projectId = none ∧
          project.configVersion = 1) := by
  obtain ⟨active, later, first, done⟩ := bind_eq_some.mp done
  obtain ⟨moment, rfl, viewed⟩ := read_eq_some.mp first
  refine ⟨moment, later, rfl, ?_⟩
  cases active with
  | some row =>
    obtain ⟨rfl, rfl⟩ := pure_eq_some.mp done
    exact .inl ⟨row, viewed, rfl, rfl⟩
  | none =>
    obtain ⟨timezone, last, _, done⟩ := bind_eq_some.mp done
    obtain ⟨rfl, rfl⟩ := pure_eq_some.mp done
    exact .inr ⟨viewed, rfl, rfl⟩

/-- The channel's project is the one named, with the configuration that `db` has for it. -/
def Stays (channelId projectId : String) (db : Db) (moment : Moment) : Prop :=
  (∃ now, moment.db.activeProject channelId = some now ∧ now.id = projectId) ∧
    SameConfig db moment.db projectId

theorem listEntries_spec {table : ConfigTable} {entries : List (Entry table.Value)}
    (done : listEntries home table channelId moments = some (entries, rest)) :
    ∃ used, moments = used ++ rest ∧ ∀ projectId db,
      (∀ moment ∈ used, Stays channelId projectId db moment) →
        entries = db.entries table projectId := by
  obtain ⟨resolvedId, later, required, listed⟩ := bind_eq_some.mp done
  obtain ⟨reads, rfl, viewed⟩ := read_eq_some.mp listed
  obtain ⟨project, middle, resolved, named⟩ := bind_eq_some.mp required
  obtain ⟨explicit, rfl⟩ := ofOption_eq_some.mp named
  obtain ⟨moment, afterwards, rfl, ⟨row, active, rfl, rfl⟩ | ⟨_, implicit, _⟩⟩ :=
    resolve_spec resolved
  · refine ⟨[moment, reads], rfl, ?_⟩
    intro projectId db stays
    obtain ⟨⟨now, found, same⟩, _⟩ := stays moment (by simp)
    rw [active] at found
    cases found
    cases explicit
    rw [← viewed, same]
    exact (stays reads (by simp)).2 table
  · rw [implicit] at explicit
    cases explicit

theorem projectLists_spec {lists : Lists}
    (done : projectLists home channelId moments = some (lists, rest)) :
    ∃ used, moments = used ++ rest ∧ ∀ projectId db,
      (∀ moment ∈ used, Stays channelId projectId db moment) → lists = listsOf projectId db := by
  obtain ⟨envEntries, _, env, rest1⟩ := bind_eq_some.mp done
  obtain ⟨mcpEntries, _, mcp, rest2⟩ := bind_eq_some.mp rest1
  obtain ⟨skillEntries, _, skill, rest3⟩ := bind_eq_some.mp rest2
  obtain ⟨pluginEntries, _, plugin, rest4⟩ := bind_eq_some.mp rest3
  obtain ⟨agentEntries, _, agent, returned⟩ := bind_eq_some.mp rest4
  obtain ⟨rfl, rfl⟩ := pure_eq_some.mp returned
  obtain ⟨used1, rfl, envOf⟩ := listEntries_spec env
  obtain ⟨used2, rfl, mcpOf⟩ := listEntries_spec mcp
  obtain ⟨used3, rfl, skillOf⟩ := listEntries_spec skill
  obtain ⟨used4, rfl, pluginOf⟩ := listEntries_spec plugin
  obtain ⟨used5, rfl, agentOf⟩ := listEntries_spec agent
  refine ⟨used1 ++ used2 ++ used3 ++ used4 ++ used5, by simp only [List.append_assoc], ?_⟩
  intro projectId db stays
  simp only [List.mem_append] at stays
  rw [envOf projectId db (fun moment member => stays moment (by tauto)),
    mcpOf projectId db (fun moment member => stays moment (by tauto)),
    skillOf projectId db (fun moment member => stays moment (by tauto)),
    pluginOf projectId db (fun moment member => stays moment (by tauto)),
    agentOf projectId db (fun moment member => stays moment (by tauto))]
  rfl

variable {resolves : Moment}

theorem stays_between {asks latest : Moment} {used : List Moment} {last : Project}
    (owned : resolves.db.Owned)
    (chain : (resolves :: asks :: (used ++ latest :: rest)).IsChain (Later python))
    (active : resolves.db.activeProject channelId = some row)
    (still : latest.db.activeProject channelId = some last) (id : last.id = row.id)
    (version : last.configVersion = row.configVersion) :
    ∀ moment ∈ used, Stays channelId row.id resolves.db moment := by
  intro moment member
  obtain ⟨fromFirst, others⟩ := List.pairwise_cons.mp (List.isChain_iff_pairwise.mp chain)
  obtain ⟨_, _, apart⟩ := List.pairwise_append.mp (List.pairwise_cons.mp others).2
  have before : Later python resolves moment :=
    fromFirst moment (List.mem_cons_of_mem _ (List.mem_append_left _ member))
  have after : Later python moment latest := apart moment member latest (List.mem_cons_self ..)
  exact unchanged_between owned before after active still id version

/-- What `session_config_snapshot` returns of the channel's project as it resolves. -/
structure SnapshotOf (python : Json.Python) (validateDirectory : String → Option String)
    (channelId : String) (db : Db) (config : ProjectSessionConfigSnapshot) : Prop where
  named : (config.projectId, config.projectConfigVersion) = channelVersion channelId db
  options : ∀ row, db.activeProject channelId = some row →
    sessionOptions python validateDirectory (listsOf row.id db) row.rootPath =
      some config.sessionOptions

variable {config : ProjectSessionConfigSnapshot} {session : List Moment}

theorem sessionConfigSnapshot_spec (owned : resolves.db.Owned)
    (chain : (resolves :: session).IsChain (Later python))
    (done : sessionConfigSnapshot home python validateDirectory channelId (resolves :: session) =
      some (config, [])) :
    SnapshotOf python validateDirectory channelId resolves.db config := by
  obtain ⟨project, afterResolve, resolved, rest1⟩ := bind_eq_some.mp done
  obtain ⟨settings, afterSettings, asked, rest2⟩ := bind_eq_some.mp rest1
  obtain ⟨asks, rfl, _⟩ := read_eq_some.mp asked
  obtain ⟨first, later, same, ⟨row, active, rfl, rfl⟩ | ⟨inactive, implicit, one⟩⟩ :=
    resolve_spec resolved
  · obtain ⟨rfl, rfl⟩ := List.cons.inj same
    rw [if_neg (by simp [Project.snapshot])] at rest2
    obtain ⟨lists, afterLists, listed, rest3⟩ := bind_eq_some.mp rest2
    obtain ⟨latestProject, afterLatest, again, rest4⟩ := bind_eq_some.mp rest3
    obtain ⟨latestSettings, afterAll, checked, rest5⟩ := bind_eq_some.mp rest4
    obtain ⟨final, rfl, _⟩ := read_eq_some.mp checked
    split at rest5
    · cases rest5
    next agree =>
      obtain ⟨options, _, built, returned⟩ := bind_eq_some.mp rest5
      obtain ⟨computed, rfl⟩ := ofOption_eq_some.mp built
      obtain ⟨rfl, rfl⟩ := pure_eq_some.mp returned
      obtain ⟨used, rfl, listsAre⟩ := projectLists_spec listed
      refine ⟨by rw [channelVersion, active]; rfl, ?_⟩
      intro other also
      rw [active] at also
      cases also
      rw [← listsAre row.id resolves.db ?_]
      · exact computed
      · obtain ⟨⟨id, version⟩, _⟩ : (latestProject.projectId = some row.id ∧
            latestProject.configVersion = row.configVersion) ∧ latestSettings = settings := by
          simpa [Project.snapshot, not_or, and_assoc] using agree
        obtain ⟨latest, _, rfl, ⟨last, still, rfl, rfl⟩ | ⟨_, none_, _⟩⟩ := resolve_spec again
        · exact stays_between owned chain active still (Option.some.inj id) version
        · rw [none_] at id
          cases id
  · obtain ⟨rfl, rfl⟩ := List.cons.inj same
    rw [if_pos implicit] at rest2
    obtain ⟨rfl, _⟩ := pure_eq_some.mp rest2
    refine ⟨?_, ?_⟩
    · rw [channelVersion, inactive]
      exact Prod.ext implicit one
    · intro row active
      rw [inactive] at active
      cases active

/-! ## The reservation -/

/-- What a new intent is made of. -/
structure Reserved (python : Json.Python) (request : Request) (freezes : Db)
    (config : ProjectSessionConfigSnapshot) (frozen : ProjectConfigSnapshot)
    (intent : CreationIntent) : Prop where
  projectId : intent.projectId =
    (request.projectSnapshot.getD (channelProject request.channelId config)).projectId
  version : intent.projectConfigVersion = config.projectConfigVersion
  payload : intent.projectConfigSnapshot = config.projectPayload
  frozenJson : intent.sessionConfigSnapshotJson = frozen.toDict
  passed : ∀ snapshot, request.configSnapshot = some snapshot → frozen = snapshot
  read : request.configSnapshot = none → configSnapshot python
    (request.projectSnapshot.getD (channelProject request.channelId config)) freezes = some frozen

variable {uuid : String} {intent : CreationIntent} {request : Request}
  {frozen : ProjectConfigSnapshot}

theorem reserve_spec
    (done : reserve request uuid project config frozen moment = some (intent, true)) :
    intent.projectId = project.projectId ∧
      intent.projectConfigVersion = config.projectConfigVersion ∧
      intent.projectConfigSnapshot = config.projectPayload ∧
      intent.sessionConfigSnapshotJson = frozen.toDict := by
  unfold reserve at done
  split at done
  · cases done
  · split at done
    · cases done
    · split at done
      next =>
        split at done
        · cases done
        · split at done <;> cases done
      next =>
        cases done
        exact ⟨rfl, rfl, rfl, rfl⟩

theorem createFromSource_spec {drains looks : Moment} {freezes reserves : Moment}
    (created : createFromSource python validateDirectory home request uuid drains looks session
      freezes reserves = some (intent, true)) :
    ∃ config frozen, sessionConfigSnapshot home python validateDirectory request.channelId session =
        some (config, []) ∧ Reserved python request freezes.db config frozen intent := by
  unfold createFromSource at created
  split at created
  · cases created
  · split at created
    · cases created
    · split at created
      next config taken =>
        obtain ⟨frozen, froze, done⟩ := Option.bind_eq_some_iff.mp created
        obtain ⟨projectId, version, payload, frozenJson⟩ := reserve_spec done
        unfold frozenConfig at froze
        refine ⟨config, frozen, taken, projectId, version, payload, frozenJson, ?_, ?_⟩
        · intro snapshot passed
          rw [passed] at froze
          exact (Option.some.inj froze).symm
        · intro absent
          rw [absent] at froze
          exact froze
      next => cases created

theorem ofOption_inj {one other : Option String} :
    Json.ofOption one = Json.ofOption other ↔ one = other := by
  cases one <;> cases other <;> simp [Json.ofOption]

variable {freezes : Db}

theorem oneConfiguration_iff (reserved : Reserved python request freezes config frozen intent) :
    OneConfiguration intent ↔
      (request.projectSnapshot.getD (channelProject request.channelId config)).projectId =
          config.projectId ∧ frozen.projectId = config.projectId ∧
        frozen.configVersion = config.projectConfigVersion := by
  constructor
  · rintro ⟨projectId, version, described⟩
    have project := described.payloadProject
    have frozenProject := described.frozenProject
    have frozenVersion := described.frozenVersion
    rw [reserved.payload] at project
    rw [reserved.frozenJson] at frozenProject frozenVersion
    simp [ProjectSessionConfigSnapshot.projectPayload, ProjectConfigSnapshot.toDict,
      Dict.get_cons, ofOption_inj] at project frozenProject frozenVersion
    have mine := described.project
    have versions := described.configVersion
    rw [reserved.projectId] at mine
    rw [reserved.version] at versions
    exact ⟨mine.trans project.symm, frozenProject.trans project.symm,
      frozenVersion.trans (congrArg Nat.cast versions.symm)⟩
  · rintro ⟨mine, frozenProject, frozenVersion⟩
    refine ⟨config.projectId, config.projectConfigVersion, reserved.projectId.trans mine,
      reserved.version, ?_, ?_, ?_, ?_⟩
    · simp [reserved.payload, ProjectSessionConfigSnapshot.projectPayload, Dict.get_cons]
    · simp [reserved.payload, ProjectSessionConfigSnapshot.projectPayload, Dict.get_cons]
    · simp [reserved.frozenJson, ProjectConfigSnapshot.toDict, Dict.get_cons, frozenProject]
    · simp [reserved.frozenJson, ProjectConfigSnapshot.toDict, Dict.get_cons, frozenVersion]

variable {db : Db}

theorem configSnapshot_some {projectId : String} (named : project.projectId = some projectId)
    (done : configSnapshot python project db = some frozen) :
    ∃ row, db.project projectId = some row ∧
      configSnapshotFromConnection python row db = some frozen ∧
      frozen.projectId = some projectId ∧ frozen.configVersion = row.configVersion := by
  unfold configSnapshot at done
  rw [named] at done
  obtain ⟨row, found, read⟩ := Option.bind_eq_some_iff.mp done
  refine ⟨row, found, read, ?_⟩
  obtain ⟨servers, _, built⟩ := Option.bind_eq_some_iff.mp read
  cases built
  exact ⟨congrArg some (project_id found), rfl⟩

theorem configSnapshot_none (implicit : project.projectId = none)
    (done : configSnapshot python project db = some frozen) :
    frozen.projectId = none ∧ frozen.configVersion = project.configVersion := by
  unfold configSnapshot at done
  rw [implicit] at done
  cases done
  exact ⟨rfl, rfl⟩

theorem matches_iff {resolves : Db}
    (reserved : Reserved python request freezes config frozen intent)
    (named : (config.projectId, config.projectConfigVersion) =
      channelVersion request.channelId resolves) :
    OneConfiguration intent ↔ Matches request resolves freezes := by
  rw [oneConfiguration_iff reserved]
  unfold Matches
  rw [← named]
  have project : (request.projectSnapshot.getD
        (channelProject request.channelId config)).projectId = config.projectId ↔
      ∀ snapshot ∈ request.projectSnapshot, snapshot.projectId = config.projectId := by
    cases request.projectSnapshot <;> simp [channelProject]
  refine and_congr_right_iff.mpr ?_ |>.trans (and_congr_left' project)
  intro mine
  unfold FrozenThen
  cases passed : request.configSnapshot with
  | some snapshot => rw [reserved.passed snapshot passed]
  | none =>
    have read := reserved.read passed
    cases id : config.projectId with
    | none =>
      rw [id] at mine
      obtain ⟨frozenProject, frozenVersion⟩ := configSnapshot_none mine read
      rw [frozenProject, frozenVersion]
      cases request.projectSnapshot with
      | none => simp [channelProject]
      | some snapshot =>
        simp only [Option.getD_some, Option.mem_some_iff, forall_eq', true_and]
        omega
    | some projectId =>
      rw [id] at mine
      obtain ⟨row, found, _, frozenProject, frozenVersion⟩ := configSnapshot_some mine read
      rw [frozenProject, frozenVersion]
      dsimp only
      rw [found, Option.map_some, eq_self, true_and, Option.some.injEq]
      omega

/-- A new intent's four fields describe one project at one version if and only if the snapshots
that were passed and the later read are of what `session_config_snapshot` resolved; its
`session_options` are the channel's project's as resolved, and so is, with them, a frozen
configuration that was read. -/
theorem new_session_configuration (python : Json.Python)
    (validateDirectory : String → Option String) (home : String) {labels : List Label}
    {request : Request} {uuid : String} {drains looks resolves freezes reserves : Moment}
    {session : List Moment} {intent : CreationIntent}
    (start : run (step python) {} labels = some resolves.registry)
    (chain : (resolves :: (session ++ [freezes, reserves])).IsChain (Later python))
    (created : createFromSource python validateDirectory home request uuid drains looks
      (resolves :: session) freezes reserves = some (intent, true)) :
    (OneConfiguration intent ↔ Matches request resolves.db freezes.db) ∧
      ∀ row, resolves.db.activeProject request.channelId = some row →
        (∃ options,
          sessionOptions python validateDirectory (listsOf row.id resolves.db) row.rootPath =
            some options ∧
          intent.projectConfigSnapshot.get? "session_options" = some (.dict options)) ∧
        (request.configSnapshot = none → OneConfiguration intent →
          ∃ snapshot, configSnapshotFromConnection python row resolves.db = some snapshot ∧
            intent.sessionConfigSnapshotJson = snapshot.toDict) := by
  have owned : resolves.db.Owned := run_owned owned_empty start
  obtain ⟨config, frozen, taken, reserved⟩ := createFromSource_spec created
  have during : (resolves :: session).IsChain (Later python) :=
    (List.isChain_append.mp (show (resolves :: session ++ _).IsChain _ from chain)).1
  have snapshot := sessionConfigSnapshot_spec owned during taken
  refine ⟨matches_iff reserved snapshot.named, ?_⟩
  intro row active
  refine ⟨⟨config.sessionOptions, snapshot.options row active, ?_⟩, ?_⟩
  · simp [reserved.payload, ProjectSessionConfigSnapshot.projectPayload, Dict.get_cons]
  · intro absent agree
    obtain ⟨mine, frozenProject, frozenVersion⟩ := (oneConfiguration_iff reserved).mp agree
    have named := snapshot.named
    rw [channelVersion, active] at named
    obtain ⟨projectId, version⟩ := Prod.mk.inj named
    rw [projectId] at mine
    obtain ⟨now, found, read, _, nowVersion⟩ := configSnapshot_some mine (reserved.read absent)
    obtain ⟨between, onwards⟩ : Later python resolves freezes :=
      (List.pairwise_cons.mp (List.isChain_iff_pairwise.mp chain)).1 freezes (by simp)
    have there : resolves.db.project row.id = some row :=
      Table.lookup_of_mem owned.unique (List.mem_of_find?_eq_some active)
    have same : now.configVersion = row.configVersion := by omega
    obtain ⟨_, _, equal⟩ := identifies (run_evolves owned onwards) there found same
    refine ⟨frozen, ?_, reserved.frozenJson⟩
    rw [← equal python]
    exact read

/-! ## A bound project, and a schedule whose project was replaced -/

def directories (path : String) : Option String := some path

def boundOnce : List Label := [.binds "channel" "/work" "first" "UTC" false]

def boundMoment : Moment := { registry := (run (step textual) {} boundOnce).getD {} }

/-- A message of the channel, which passes no snapshots. -/
def messageRequest : Request :=
  { channelId := "channel", sourceKind := "message", sourceId := "7" }

theorem new_session_configuration_bound :
    ∃ intent, createFromSource textual directories "/home" messageRequest "uuid" boundMoment
        boundMoment (List.replicate 14 boundMoment) boundMoment boundMoment =
          some (intent, true) ∧ OneConfiguration intent := by
  obtain ⟨intent, created⟩ : ∃ intent, createFromSource textual directories "/home"
      messageRequest "uuid" boundMoment boundMoment (List.replicate 14 boundMoment) boundMoment
        boundMoment = some (intent, true) := ⟨_, rfl⟩
  have named : channelVersion "channel" boundMoment.db = (some "first", 1) := rfl
  have chain :
    (boundMoment :: (List.replicate 13 boundMoment ++ [boundMoment, boundMoment])).IsChain
      (Later textual) := by
    refine List.isChain_iff_pairwise.mpr (List.pairwise_of_forall_mem_list ?_)
    intro moment member next also
    have first : moment = boundMoment := by simpa using member
    have second : next = boundMoment := by simpa using also
    exact ⟨[], by rw [first, second]; rfl⟩
  have start : run (step textual) {} boundOnce = some boundMoment.registry := rfl
  have law := new_session_configuration textual directories "/home" start chain created
  refine ⟨intent, created, law.1.mpr ⟨?_, ?_⟩⟩
  · intro snapshot passed
    cases passed
  · exact rfl

/-- The channel is bound to another project after a schedule was defined. -/
def boundAgain : List Label := boundOnce ++ [.binds "channel" "/other" "second" "UTC" false]

def replacedMoment : Moment := { registry := (run (step textual) {} boundAgain).getD {} }

/-- A run of the schedule, with the snapshots of its definition. -/
def scheduleRequest : Request :=
  { channelId := "channel", sourceKind := "schedule", sourceId := "run"
    projectSnapshot := some { projectId := some "first", channelId := "channel"
                              source := .explicit, rootPath := "/work", cwd := "/work"
                              configVersion := 1 }
    configSnapshot := some { projectId := some "first", source := .explicit, cwd := "/work"
                             timezone := "UTC", configVersion := 1 }
    preallocatedSessionId := some "session" }

theorem schedule_session_of_two_projects :
    ∃ intent, createFromSource textual directories "/home" scheduleRequest "uuid" replacedMoment
        replacedMoment (List.replicate 14 replacedMoment) replacedMoment replacedMoment =
          some (intent, true) ∧
      run (step textual) {} boundAgain = some replacedMoment.registry ∧
      intent.projectId = some "first" ∧
      intent.projectConfigSnapshot.get? "project_id" = some (.str "second") ∧
      ¬ OneConfiguration intent := by
  obtain ⟨intent, created, mine, payload⟩ : ∃ intent, createFromSource textual directories
      "/home" scheduleRequest "uuid" replacedMoment replacedMoment
        (List.replicate 14 replacedMoment) replacedMoment replacedMoment = some (intent, true) ∧
      intent.projectId = some "first" ∧
      intent.projectConfigSnapshot.get? "project_id" = some (.str "second") := ⟨_, rfl, rfl, rfl⟩
  refine ⟨intent, created, rfl, mine, payload, ?_⟩
  rintro ⟨projectId, version, described⟩
  have named := described.payloadProject
  rw [payload, ← described.project, mine] at named
  exact absurd (Json.str.inj (Option.some.inj named)) (by decide)

end Copilotd.Guarantees.SessionConfiguration
