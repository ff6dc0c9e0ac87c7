import Mathlib.Data.List.MinMax
import Mathlib.Algebra.Order.Ring.Rat
import Copilotd.Source.Core.Extensions
import Copilotd.Source.Core.ProjectConfigs

/-!
# Extension configuration generations

Source: `core/extensions.py` (`ExtensionConfigRepository` and `ConfigReloadClaimStore.
claim_and_publish`, lines 432-540 and 621-854; `extension_scope_key`, `_snapshot_from_row` and
`_publish_config_in_transaction`, lines 1002-1087), with the tables of
`migrations/0015_extension_config_generations.sql` and `0029_protocol_compatibility.sql`.

`config_json` keeps the value that `json.dumps` wrote.  The tables that list the parts of a
generation have no reader in the program and are left out, as are the columns with times.  A call
that raises leaves the tables as they were.
-/
namespace Copilotd.Source.Core.ExtensionGenerations

open Base Base.Table Source.Core.Extensions
open Source.Core.ProjectConfigs (ProjectSource ProjectSnapshot)

/-! ## Rows -/

/-- A row of `project_extension_config_generations`. -/
structure Generation where
  scopeKey : String
  version : Nat
  projectId : Option String
  projectSource : String
  cwdSnapshot : String
  configHash : String
  configJson : List (String × Json)

inductive ConfigReloadState where
  | claimed | started | confirmed | rejected | unknown
  deriving DecidableEq

/-- A row of `config_reload_claims`. -/
structure ConfigReloadClaim where
  sdkSessionId : String
  idempotencyKey : String
  configHash : String
  claimedGeneration : Int
  ownerFenceToken : Int
  state : ConfigReloadState
  configVersion : Option Nat
  errorCode : Option String

/-- A row of `session_owner_leases`. -/
structure OwnerLease where
  sdkSessionId : String
  ownerId : String
  fenceToken : Int
  expiresAt : ℚ

/-- The columns of `session_bindings` that a publication reads or writes. -/
structure SessionBinding where
  sdkSessionId : String
  runtimeGeneration : Int
  ownerFenceToken : Option Int
  attachmentState : String
  projectSource : String
  projectId : Option String
  cwdSnapshot : String
  desiredSessionConfigVersion : Nat
  desiredSessionConfigHash : Option String
  pendingSessionConfigVersion : Option Nat
  pendingSessionConfigHash : Option String
  pendingSessionConfigTransitionId : Option String
  runtimeSessionConfigVersion : Option Nat
  runtimeSessionConfigHash : Option String
  sessionConfigState : String
  sessionConfigDrift : Bool
  rowVersion : Nat

structure Tables where
  projectIds : List String := []
  generations : List Generation := []
  claims : List ConfigReloadClaim := []
  leases : List OwnerLease := []
  bindings : List SessionBinding := []

structure ExtensionConfigSnapshot (python : Python) where
  scopeKey : String
  version : Nat
  projectId : Option String
  projectSource : String
  cwdSnapshot : String
  configHash : String
  config : ProjectExtensionConfig python

def extensionScopeKey (projectSource : String) (projectId : Option String) :
    Except Raised String :=
  if projectSource = ProjectSource.explicit.value then
    match projectId with
    | none => .error (.config "explicit project config requires a project id")
    | some projectId => .ok ("project:" ++ projectId)
  else if projectId.isSome then
    .error (.config "implicit project config cannot carry a project id")
  else .ok "implicit-home"

/-! ## Publication -/

/-- `SELECT * … WHERE scope_key = ? ORDER BY version DESC LIMIT 1`. -/
def Tables.latest (tables : Tables) (scopeKey : String) : Option Generation :=
  (tables.generations.filter fun row => row.scopeKey = scopeKey).argmax Generation.version

/-- `SELECT * … WHERE scope_key = ? AND version = ?`. -/
def Tables.generation (tables : Tables) (scopeKey : String) (version : Nat) :
    Option Generation :=
  tables.generations.find? fun row => row.scopeKey = scopeKey ∧ row.version = version

/-- An `INSERT` with the primary key and the reference to `projects`. -/
def Tables.insertGeneration (tables : Tables) (row : Generation) : Except Raised Tables :=
  if (tables.generation row.scopeKey row.version).isNone ∧
      row.projectId.all tables.projectIds.contains then
    .ok { tables with generations := tables.generations ++ [row] }
  else .error .python

section Repository

variable {python : Python}

def newGeneration (project : ProjectSnapshot) (config : ProjectExtensionConfig python)
    (scopeKey : String) (version : Nat) : Generation :=
  { scopeKey, version
    projectId := project.projectId
    projectSource := project.source.value
    cwdSnapshot := project.cwd
    configHash := digest config
    configJson := toDict config }

def currentVersion (current : Option Generation) : Nat := (current.map (·.version)).getD 0

/-- `_publish_config_in_transaction`, with the hash and the text of the configuration. -/
def Tables.publishConfig (tables : Tables) (project : ProjectSnapshot)
    (config : ProjectExtensionConfig python) (expectedCurrentVersion : Option Int) :
    Except Raised (Tables × Nat) := do
  let scopeKey ← extensionScopeKey project.source.value project.projectId
  let current := tables.latest scopeKey
  if expectedCurrentVersion.any fun expected => (currentVersion current : Int) ≠ expected then
    .error (.config ("extension config changed: expected " ++
      toString (expectedCurrentVersion.getD 0) ++ ", found " ++ toString (currentVersion current)))
  else if current.any fun row => row.configHash = digest config then
    return (tables, currentVersion current)
  else
    let version := currentVersion current + 1
    let tables ← tables.insertGeneration (newGeneration project config scopeKey version)
    return (tables, version)

def publishedSnapshot (project : ProjectSnapshot) (config : ProjectExtensionConfig python)
    (scopeKey : String) (version : Nat) : ExtensionConfigSnapshot python :=
  { scopeKey, version, config
    projectId := project.projectId
    projectSource := project.source.value
    cwdSnapshot := project.cwd
    configHash := digest config }

variable (oracle : Resolution)

def Tables.publish (tables : Tables) (project : ProjectSnapshot)
    (config : ProjectExtensionConfig python) (expectedCurrentVersion : Option Int := none) :
    Except Raised (Tables × ExtensionConfigSnapshot python) := do
  let normalizedConfig ← normalized oracle config project.cwd
  let scopeKey ← extensionScopeKey project.source.value project.projectId
  let (tables, version) ← tables.publishConfig project normalizedConfig expectedCurrentVersion
  return (tables, publishedSnapshot project normalizedConfig scopeKey version)

def snapshotFromRow (row : Generation) : Except Raised (ExtensionConfigSnapshot python) := do
  let config ← fromDict python row.configJson
  if digest config ≠ row.configHash then
    .error (.config "persisted extension configuration hash mismatch")
  else
    return {
      scopeKey := row.scopeKey
      version := row.version
      projectId := row.projectId
      projectSource := row.projectSource
      cwdSnapshot := row.cwdSnapshot
      configHash := digest config
      config }

/-- `ProjectExtensionConfig()`. -/
def emptyConfig : ProjectExtensionConfig python := ⟨{}, rfl⟩

def Tables.latestSnapshot (tables : Tables) (project : ProjectSnapshot) :
    Except Raised (Tables × ExtensionConfigSnapshot python) := do
  let scopeKey ← extensionScopeKey project.source.value project.projectId
  match tables.latest scopeKey with
  | none => tables.publish oracle project emptyConfig
  | some row => return (tables, ← snapshotFromRow row)

/-- The project of the first generation of a session. -/
def bootstrapProject (projectSource : String) (projectId : Option String) (cwdSnapshot : String) :
    ProjectSnapshot :=
  { projectId
    channelId := "session-config-bootstrap"
    source := if projectSource = ProjectSource.explicit.value then .explicit else .implicitHome
    rootPath := cwdSnapshot
    cwd := cwdSnapshot
    configVersion := 1 }

def Tables.forSession (tables : Tables) (projectSource : String) (projectId : Option String)
    (cwdSnapshot : String) (version : Nat) :
    Except Raised (Tables × ExtensionConfigSnapshot python) := do
  let scopeKey ← extensionScopeKey projectSource projectId
  match tables.generation scopeKey version with
  | none =>
    if version = 1 then
      tables.publish oracle (bootstrapProject projectSource projectId cwdSnapshot) emptyConfig
    else
      .error (.config ("extension config generation " ++ scopeKey ++ "@" ++ toString version ++
        " does not exist"))
  | some row =>
    let snapshot ← snapshotFromRow row
    if snapshot.cwdSnapshot ≠ cwdSnapshot then
      .error (.config "session cwd does not match its immutable extension config generation")
    else return (tables, snapshot)

end Repository

/-! ## Reload claims -/

/-- The arguments of `claim_and_publish`. -/
structure Publication (python : Python) where
  sdkSessionId : String
  idempotencyKey : String
  project : ProjectSnapshot
  config : ProjectExtensionConfig python
  ownerId : String
  runtimeGeneration : Int
  ownerFenceToken : Int
  transitionId : String
  minimumHeadroomSeconds : ℚ
  expectedCurrentVersion : Option Int := none
  now : ℚ

def Tables.claim (tables : Tables) (sdkSessionId idempotencyKey : String) :
    Option ConfigReloadClaim :=
  lookup (fun row => (row.sdkSessionId, row.idempotencyKey)) (sdkSessionId, idempotencyKey)
    tables.claims

section Claims

variable {python : Python} (publication : Publication python)

def Publication.owned (tables : Tables) : Bool :=
  tables.leases.any fun lease =>
    lease.sdkSessionId = publication.sdkSessionId ∧ lease.ownerId = publication.ownerId ∧
      lease.fenceToken = publication.ownerFenceToken ∧
      publication.minimumHeadroomSeconds ≤ lease.expiresAt - publication.now

/-- The row is the attached one of the session under the fence. -/
def Publication.fenced (row : SessionBinding) : Prop :=
  row.sdkSessionId = publication.sdkSessionId ∧
    row.runtimeGeneration = publication.runtimeGeneration ∧
    row.ownerFenceToken = some publication.ownerFenceToken ∧ row.attachmentState = "attached"

instance (row : SessionBinding) : Decidable (publication.fenced row) := by
  unfold Publication.fenced
  infer_instance

/-- The binding whose project and directory the publication is made for. -/
def Publication.binding (tables : Tables) : Option SessionBinding :=
  tables.bindings.find? fun row =>
    publication.fenced row ∧ row.projectSource = publication.project.source.value ∧
      row.projectId = publication.project.projectId ∧
      row.cwdSnapshot = publication.project.cwd

def Publication.claimed (tables : Tables) : Option ConfigReloadClaim :=
  tables.claim publication.sdkSessionId publication.idempotencyKey

/-- The claim has been answered with a generation, so that nothing is published for it. -/
def ConfigReloadClaim.answered (row : ConfigReloadClaim) : Bool :=
  !(row.state = .claimed ∧ row.configVersion = none)

/-- `UPDATE config_reload_claims … WHERE` the key of the publication and `also`. -/
def Publication.updateClaim (also : ConfigReloadClaim → Bool)
    (set : ConfigReloadClaim → ConfigReloadClaim) (tables : Tables) : Tables :=
  { tables with
    claims := updateWhere (fun row =>
      row.sdkSessionId = publication.sdkSessionId ∧
        row.idempotencyKey = publication.idempotencyKey ∧ also row) set tables.claims }

/-- The claim is started under the fence of the publication. -/
def Publication.restarted (row : ConfigReloadClaim) : ConfigReloadClaim :=
  { row with
    state := .started
    claimedGeneration := publication.runtimeGeneration
    ownerFenceToken := publication.ownerFenceToken
    errorCode := none }

def Publication.publishClaim (config : ProjectExtensionConfig python)
    (row : Option ConfigReloadClaim) (tables : Tables) : Except Raised (Tables × Bool) := do
  let (tables, version) ←
    tables.publishConfig publication.project config publication.expectedCurrentVersion
  match row with
  | none =>
    return ({ tables with
      claims := tables.claims ++ [{
        sdkSessionId := publication.sdkSessionId
        idempotencyKey := publication.idempotencyKey
        configHash := digest config
        claimedGeneration := publication.runtimeGeneration
        ownerFenceToken := publication.ownerFenceToken
        state := .started
        configVersion := some version
        errorCode := none }] }, true)
  | some _ =>
    return (publication.updateClaim (fun row => row.state = .claimed ∧ row.configVersion = none)
      (fun row => { publication.restarted row with configVersion := some version }) tables, false)

def Publication.fetchClaim (tables : Tables) : Except Raised ConfigReloadClaim :=
  match publication.claimed tables with
  | some row => .ok row
  | none => .error (.config "config reload claim disappeared")

def SessionBinding.pendingMatches (binding : SessionBinding) (version : Nat)
    (configHash transitionId : String) : Prop :=
  binding.pendingSessionConfigVersion = some version ∧
    binding.pendingSessionConfigHash = some configHash ∧
    binding.pendingSessionConfigTransitionId = some transitionId

instance (binding : SessionBinding) (version : Nat) (configHash transitionId : String) :
    Decidable (binding.pendingMatches version configHash transitionId) := by
  unfold SessionBinding.pendingMatches
  infer_instance

def SessionBinding.alreadySynced (binding : SessionBinding) (version : Nat)
    (configHash : String) : Bool :=
  binding.pendingSessionConfigVersion = none ∧
    binding.desiredSessionConfigVersion = version ∧
    binding.desiredSessionConfigHash = some configHash ∧
    binding.runtimeSessionConfigVersion = some version ∧
    binding.runtimeSessionConfigHash = some configHash ∧ binding.sessionConfigState = "synced"

def Publication.bindPending (binding : SessionBinding) (version : Nat) (configHash : String)
    (tables : Tables) : Except Raised Tables :=
  let transitionId := publication.transitionId
  if binding.pendingSessionConfigVersion.isSome ∧
      ¬ binding.pendingMatches version configHash transitionId then
    .error (.config "another extension config transition is already pending")
  else if binding.alreadySynced version configHash then .ok tables
  else
    let hit (row : SessionBinding) : Bool :=
      publication.fenced row ∧ (row.pendingSessionConfigVersion = none ∨
        row.pendingMatches version configHash transitionId)
    if rowcount hit tables.bindings = 1 then
      .ok { tables with
        bindings := updateWhere hit (fun row => { row with
          pendingSessionConfigVersion := some version
          pendingSessionConfigHash := some configHash
          pendingSessionConfigTransitionId := some transitionId
          sessionConfigState := "pending"
          sessionConfigDrift := false
          rowVersion := row.rowVersion + 1 }) tables.bindings }
    else .error (.config "session binding changed during config publication")

/-- The claim, with the tables in which a generation has been published for it if it had none. -/
def Publication.admit (config : ProjectExtensionConfig python) (tables : Tables) :
    Except Raised (Tables × ConfigReloadClaim × Bool) :=
  match publication.claimed tables with
  | some row =>
    if row.configHash ≠ digest config then
      .error (.config
        "config reload idempotency key was reused with a different config hash")
    else if row.answered then .ok (tables, row, false)
    else do
      let (tables, created) ← publication.publishClaim config (some row) tables
      return (tables, ← publication.fetchClaim tables, created)
  | none => do
    let (tables, created) ← publication.publishClaim config none tables
    return (tables, ← publication.fetchClaim tables, created)

/-- A claim that is not confirmed or rejected is started again. -/
def Publication.restart (row : ConfigReloadClaim) (configHash : String) (tables : Tables) :
    Except Raised (Tables × ConfigReloadClaim) :=
  if row.state = .claimed ∨ row.state = .started ∨ row.state = .unknown then
    let tables :=
      publication.updateClaim (fun row => row.configHash = configHash) publication.restarted tables
    (publication.fetchClaim tables).map fun row => (tables, row)
  else .ok (tables, row)

/-- What follows once the generation of the claim is known. -/
def Publication.settle (binding : SessionBinding) (row : ConfigReloadClaim) (version : Nat)
    (configHash : String) (tables : Tables) : Except Raised (Tables × ConfigReloadClaim) := do
  let (tables, row) ← publication.restart row configHash tables
  if row.state = .started ∨ row.state = .unknown then
    let tables ← publication.bindPending binding version configHash tables
    return (tables, row)
  else return (tables, row)

def Tables.claimAndPublish (oracle : Resolution) (tables : Tables) :
    Except Raised (Tables × ConfigReloadClaim × ExtensionConfigSnapshot python × Bool) := do
  let project := publication.project
  let config ← normalized oracle publication.config project.cwd
  if publication.owned tables = false then
    .error (.config "owner fence is not current for config publication")
  else
    match publication.binding tables with
    | none => .error (.config "session binding fence is not current for config publication")
    | some binding => do
      let (tables, row, created) ← publication.admit config tables
      match row.configVersion with
      | none => .error (.config "config reload claim has no deterministic generation")
      | some version => do
        let scopeKey ← extensionScopeKey project.source.value project.projectId
        if (tables.generation scopeKey version).any fun generation =>
            generation.configHash = digest config then
          let (tables, row) ← publication.settle binding row version (digest config) tables
          return (tables, row, publishedSnapshot project config scopeKey version, created)
        else
          .error (.config "config reload claim generation does not match its hash")

end Claims

/-! ## Histories -/

/-- A call on the repository or the claim store. -/
inductive Call (python : Python) where
  | publish (project : ProjectSnapshot) (config : ProjectExtensionConfig python)
      (expectedCurrentVersion : Option Int)
  | latest (project : ProjectSnapshot)
  | claimAndPublish (publication : Publication python)
  | forSession (projectSource : String) (projectId : Option String) (cwdSnapshot : String)
      (version : Nat)
  /-- What other transactions do to the other tables. -/
  | elsewhere (projectIds : List String) (claims : List ConfigReloadClaim)
      (leases : List OwnerLease) (bindings : List SessionBinding)

section Histories

variable {python : Python} (oracle : Resolution)

/-- What a call returns, with the tables it leaves. -/
def Call.answer (tables : Tables) :
    Call python → Except Raised (Tables × Option (ExtensionConfigSnapshot python))
  | .publish project config expected =>
    (tables.publish oracle project config expected).map fun (tables, snapshot) =>
      (tables, some snapshot)
  | .latest project =>
    (tables.latestSnapshot oracle project).map fun (tables, snapshot) => (tables, some snapshot)
  | .claimAndPublish publication =>
    (tables.claimAndPublish publication oracle).map fun (tables, _, snapshot, _) =>
      (tables, some snapshot)
  | .forSession projectSource projectId cwdSnapshot version =>
    (tables.forSession oracle projectSource projectId cwdSnapshot version).map
      fun (tables, snapshot) => (tables, some snapshot)
  | .elsewhere projectIds claims leases bindings =>
    .ok ({ tables with projectIds, claims, leases, bindings }, none)

def Call.returned (tables : Tables) (call : Call python) :
    Option (ExtensionConfigSnapshot python) :=
  match call.answer oracle tables with
  | .ok (_, snapshot) => snapshot
  | .error _ => none

/-- The tables after a call. -/
def Call.apply (tables : Tables) (call : Call python) : Tables :=
  match call.answer oracle tables with
  | .ok (tables, _) => tables
  | .error _ => tables

/-- The tables after a history. -/
def history (tables : Tables) (calls : List (Call python)) : Tables :=
  calls.foldl (Call.apply oracle) tables

end Histories

end Copilotd.Source.Core.ExtensionGenerations
