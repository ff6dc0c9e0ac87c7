import Copilotd.Source.Core.ExtensionGenerations
import Copilotd.Guarantees.ExtensionRoundTrips

/-!
# A published generation can be loaded

The versions of a scope are `1, 2, …, n` in the order of their publication, and a generation is
never changed.  A call that returns a snapshot returns the content of a stored generation; the
snapshot is loaded again exactly if its directory is the one the generation was stored with.  A
publication that is answered with an existing generation returns its own directory, so that this
depends on the directories of two calls.
-/
namespace Copilotd.Guarantees.GenerationLoads

open Base Base.Encodings Base.Table Source.Core.Extensions Source.Core.ExtensionGenerations
open Source.Core.ProjectConfigs (ProjectSource ProjectSnapshot)
open Guarantees.ExtensionRoundTrips

/-! ## Versions -/

def inScope (tables : Tables) (scopeKey : String) : List Generation :=
  tables.generations.filter fun row => row.scopeKey = scopeKey

/-- The versions of each scope are counted from one. -/
def Numbered (tables : Tables) : Prop :=
  ∀ scopeKey, ∃ n, (inScope tables scopeKey).map Generation.version = List.range' 1 n

variable {tables : Tables}

theorem Numbered.unique (numbered : Numbered tables) (scopeKey : String) :
    ((inScope tables scopeKey).map Generation.version).Nodup := by
  obtain ⟨n, versions⟩ := numbered scopeKey
  rw [versions]
  exact List.nodup_range'

theorem generation_eq_lookup (tables : Tables) (scopeKey : String) (version : Nat) :
    tables.generation scopeKey version =
      lookup Generation.version version (inScope tables scopeKey) := by
  unfold Tables.generation lookup inScope
  rw [List.find?_filter]
  congr 1
  funext row
  simp

variable {row : Generation}

theorem Numbered.generation_of_mem (numbered : Numbered tables)
    (member : row ∈ tables.generations) :
    tables.generation row.scopeKey row.version = some row := by
  rw [generation_eq_lookup]
  apply lookup_of_mem (numbered.unique row.scopeKey)
  exact List.mem_filter.mpr ⟨member, decide_eq_true rfl⟩

variable {scopeKey : String} {version : Nat}

theorem generation_spec (found : tables.generation scopeKey version = some row) :
    row ∈ tables.generations ∧ row.scopeKey = scopeKey ∧ row.version = version := by
  have asked := List.find?_some found
  simp only [decide_eq_true_eq] at asked
  exact ⟨List.mem_of_find?_eq_some found, asked⟩

theorem latest_mem (latest : tables.latest scopeKey = some row) :
    row ∈ tables.generations ∧ row.scopeKey = scopeKey := by
  have member := List.argmax_mem (Option.mem_def.mpr latest)
  rw [List.mem_filter] at member
  exact ⟨member.1, of_decide_eq_true member.2⟩

theorem currentVersion_latest {n : Nat}
    (versions : (inScope tables scopeKey).map Generation.version = List.range' 1 n) :
    currentVersion (tables.latest scopeKey) = n := by
  cases latest : tables.latest scopeKey with
  | none =>
    have empty : inScope tables scopeKey = [] := List.argmax_eq_none.mp latest
    rw [empty, List.map_nil] at versions
    exact (List.range'_eq_nil_iff.mp versions.symm).symm
  | some row =>
    have member : row ∈ inScope tables scopeKey := List.argmax_mem (Option.mem_def.mpr latest)
    have bounded : row.version ∈ List.range' 1 n := by
      rw [← versions]
      exact List.mem_map_of_mem member
    rw [List.mem_range'_1] at bounded
    have last : n ∈ (inScope tables scopeKey).map Generation.version := by
      rw [versions, List.mem_range'_1]
      omega
    obtain ⟨other, otherMember, otherVersion⟩ := List.mem_map.mp last
    have least := List.le_of_mem_argmax otherMember (Option.mem_def.mpr latest)
    change row.version = n
    omega

theorem Numbered.insert (numbered : Numbered tables)
    (next : row.version = currentVersion (tables.latest row.scopeKey) + 1) :
    Numbered { tables with generations := tables.generations ++ [row] } := by
  intro scopeKey
  obtain ⟨n, versions⟩ := numbered scopeKey
  unfold inScope
  rw [List.filter_append]
  by_cases own : row.scopeKey = scopeKey
  · subst own
    refine ⟨n + 1, ?_⟩
    rw [currentVersion_latest versions] at next
    rw [List.filter_cons_of_pos (by simp), List.filter_nil, List.map_append, List.map_singleton,
      List.range'_1_concat, next, Nat.add_comm 1 n]
    exact congrArg (· ++ [n + 1]) versions
  · refine ⟨n, ?_⟩
    rw [List.filter_cons_of_neg (by simpa using own), List.filter_nil, List.append_nil]
    exact versions

/-! ## Scopes -/

variable {source : String} {projectId : Option String}

theorem extensionScopeKey_ok (key : extensionScopeKey source projectId = .ok scopeKey) :
    (source = ProjectSource.explicit.value ∧
      ∃ id, projectId = some id ∧ scopeKey = "project:" ++ id) ∨
    (source ≠ ProjectSource.explicit.value ∧ projectId = none ∧ scopeKey = "implicit-home") := by
  unfold extensionScopeKey at key
  split at key
  · next explicit =>
    cases projectId with
    | none => cases key
    | some id =>
      cases key
      exact .inl ⟨explicit, id, rfl, rfl⟩
  · next implicit =>
    cases projectId with
    | none =>
      cases key
      exact .inr ⟨implicit, rfl, rfl⟩
    | some id => cases key

theorem project_ne_home (id : String) : "project:" ++ id ≠ "implicit-home" := by
  intro same
  have lists := congrArg String.toList same
  simp at lists

theorem extensionScopeKey_injective {other : String}
    {otherId : Option String} (key : extensionScopeKey source projectId = .ok scopeKey)
    (otherKey : extensionScopeKey other otherId = .ok scopeKey) :
    projectId = otherId ∧
      (source = ProjectSource.explicit.value ↔ other = ProjectSource.explicit.value) := by
  rcases extensionScopeKey_ok key with ⟨explicit, id, rfl, rfl⟩ | ⟨implicit, rfl, rfl⟩
  · rcases extensionScopeKey_ok otherKey with ⟨otherExplicit, otherId, rfl, same⟩ | ⟨_, _, same⟩
    · rw [String.append_right_inj] at same
      exact ⟨congrArg some same, by simp [explicit, otherExplicit]⟩
    · exact absurd same (project_ne_home id)
  · rcases extensionScopeKey_ok otherKey with ⟨_, otherId, _, same⟩ | ⟨otherImplicit, rfl, _⟩
    · exact absurd same.symm (project_ne_home otherId)
    · exact ⟨rfl, by simp [implicit, otherImplicit]⟩

theorem source_eq_of_explicit_iff {one other : ProjectSource}
    (same : one.value = ProjectSource.explicit.value ↔
      other.value = ProjectSource.explicit.value) : one = other := by
  cases one <;> cases other <;> first | rfl | exact absurd same (by decide)

/-! ## Stored generations -/

section Stored

variable {python : Python}

/-- A generation keeps the text and the hash of a published configuration, and its own scope. -/
structure Stored (published : Set (ProjectExtensionConfig python)) (row : Generation) : Prop where
  scope : extensionScopeKey row.projectSource row.projectId = .ok row.scopeKey
  source : ∃ source : ProjectSource, row.projectSource = source.value
  content : ∃ config ∈ published, row.configJson = toDict config ∧ row.configHash = digest config

structure Inv (published : Set (ProjectExtensionConfig python)) (tables : Tables) : Prop where
  stored : ∀ row ∈ tables.generations, Stored published row
  numbered : Numbered tables

variable {published : Set (ProjectExtensionConfig python)} {tables : Tables}

variable {other : Tables}

theorem Inv.congr (inv : Inv published tables)
    (same : other.generations = tables.generations) : Inv published other := by
  refine ⟨?_, ?_⟩
  · rw [same]
    exact inv.stored
  · unfold Numbered inScope
    rw [same]
    exact inv.numbered

/-- The snapshot shows the content of the row; its directory is its own. -/
structure Shows (row : Generation) (snapshot : ExtensionConfigSnapshot python) : Prop where
  scopeKey : snapshot.scopeKey = row.scopeKey
  version : snapshot.version = row.version
  projectId : snapshot.projectId = row.projectId
  projectSource : snapshot.projectSource = row.projectSource
  configHash : snapshot.configHash = row.configHash
  configJson : row.configJson = toDict snapshot.config
  hashed : row.configHash = digest snapshot.config

variable {snapshot : ExtensionConfigSnapshot python}

theorem Shows.read (shows_ : Shows row snapshot) :
    snapshotFromRow row = .ok { snapshot with cwdSnapshot := row.cwdSnapshot } := by
  unfold snapshotFromRow
  rw [shows_.configJson, fromDict_toDict, ok_bind, if_neg (not_not.mpr shows_.hashed.symm)]
  rw [← shows_.hashed, ← shows_.configHash, ← shows_.scopeKey, ← shows_.version,
    ← shows_.projectId, ← shows_.projectSource]
  rfl

theorem Stored.shows (stored : Stored published row) (read : snapshotFromRow row = .ok snapshot) :
    Shows row snapshot ∧ snapshot.cwdSnapshot = row.cwdSnapshot := by
  obtain ⟨config, -, json, hash⟩ := stored.content
  unfold snapshotFromRow at read
  rw [json, fromDict_toDict, ok_bind, if_neg (not_not.mpr hash.symm)] at read
  cases read
  exact ⟨⟨rfl, rfl, rfl, rfl, hash.symm, json, hash⟩, rfl⟩

variable {project : ProjectSnapshot} {config : ProjectExtensionConfig python}

theorem Stored.shows_published (stored : Stored published row)
    (collisionFree : Set.InjOn digest published) (member : config ∈ published)
    (key : extensionScopeKey project.source.value project.projectId = .ok row.scopeKey)
    (hash : row.configHash = digest config) :
    Shows row (publishedSnapshot project config row.scopeKey row.version) := by
  obtain ⟨other, otherMember, json, otherHash⟩ := stored.content
  have same : other = config := collisionFree otherMember member (otherHash.symm.trans hash)
  obtain ⟨source, sourceValue⟩ := stored.source
  have scopes := extensionScopeKey_injective key stored.scope
  rw [sourceValue] at scopes
  have sources := source_eq_of_explicit_iff scopes.2
  refine ⟨rfl, rfl, scopes.1, ?_, hash.symm, ?_, hash⟩
  · rw [sourceValue, ← sources]
    rfl
  · rw [json, same]
    rfl

/-! ## Publications -/

/-- The generation of the scope that a publication of the configuration would find again. -/
def reusable (tables : Tables) (scopeKey configHash : String) : Option Generation :=
  (tables.latest scopeKey).filter fun row => row.configHash = configHash

variable {expected : Option Int} {after : Tables}

theorem publishConfig_spec
    (done : tables.publishConfig project config expected = .ok (after, version)) :
    ∃ scopeKey, extensionScopeKey project.source.value project.projectId = .ok scopeKey ∧
      ((after = tables ∧ ∃ row, reusable tables scopeKey (digest config) = some row ∧
          row.version = version) ∨
        (reusable tables scopeKey (digest config) = none ∧
          version = currentVersion (tables.latest scopeKey) + 1 ∧
          after = { tables with
            generations :=
              tables.generations ++ [newGeneration project config scopeKey version] })) := by
  obtain ⟨scopeKey, key, done⟩ := bind_ok.mp done
  refine ⟨scopeKey, key, ?_⟩
  dsimp only at done
  split at done
  · cases done
  · split at done
    · next equal =>
      cases done
      cases latest : tables.latest scopeKey with
      | none =>
        rw [latest] at equal
        cases equal
      | some row =>
        rw [latest, Option.any_some] at equal
        refine .inl ⟨rfl, row, ?_, rfl⟩
        unfold reusable
        rw [latest, Option.filter_some, if_pos equal]
    · next different =>
      obtain ⟨inserted, insert, done⟩ := bind_ok.mp done
      cases done
      unfold Tables.insertGeneration at insert
      split at insert
      · cases insert
        refine .inr ⟨?_, rfl, rfl⟩
        unfold reusable
        cases latest : tables.latest scopeKey with
        | none => rfl
        | some row =>
          rw [latest, Option.any_some] at different
          rw [Option.filter_some, if_neg different]
      · cases insert

/-- Generations are only added. -/
def Grown (tables after : Tables) : Prop := tables.generations <+: after.generations

theorem Grown.generation (grown : Grown tables after)
    (found : tables.generation scopeKey version = some row) :
    after.generation scopeKey version = some row :=
  List.IsPrefix.find?_eq_some grown found

variable {configHash : String}

theorem reusable_spec (found : reusable tables scopeKey configHash = some row) :
    row ∈ tables.generations ∧ row.scopeKey = scopeKey ∧ row.configHash = configHash := by
  obtain ⟨latest, hash⟩ := Option.filter_eq_some_iff.mp found
  have member := latest_mem latest
  exact ⟨member.1, member.2, of_decide_eq_true hash⟩

/-- A publication for `project` is answered by `row`, which has its directory exactly if the
generation that was found has. -/
structure Answered (tables : Tables) (project : ProjectSnapshot) (configHash : String)
    (found : Option Generation) (row : Generation) : Prop where
  key : extensionScopeKey project.source.value project.projectId = .ok row.scopeKey
  stored : tables.generation row.scopeKey row.version = some row
  hash : row.configHash = configHash
  directory : row.cwdSnapshot = project.cwd ↔ ∀ other ∈ found, other.cwdSnapshot = project.cwd

theorem Inv.publishConfig (inv : Inv published tables) (member : config ∈ published)
    (done : tables.publishConfig project config expected = .ok (after, version)) :
    Inv published after ∧ Grown tables after ∧ ∃ row : Generation, row.version = version ∧
      Answered after project (digest config)
        (reusable tables row.scopeKey (digest config)) row := by
  obtain ⟨scopeKey, key, effect⟩ := publishConfig_spec done
  rcases effect with ⟨rfl, row, found, rfl⟩ | ⟨absent, next, rfl⟩
  · obtain ⟨rowMember, own, hash⟩ := reusable_spec found
    subst own
    refine ⟨inv, List.prefix_refl _, row, rfl, key, ?_, hash, ?_⟩
    · exact inv.numbered.generation_of_mem rowMember
    · rw [found]
      simp
  · have added : Stored published (newGeneration project config scopeKey version) :=
      ⟨key, ⟨project.source, rfl⟩, config, member, rfl, rfl⟩
    have numbered : Numbered { tables with
        generations := tables.generations ++ [newGeneration project config scopeKey version] } :=
      inv.numbered.insert next
    refine ⟨⟨?_, numbered⟩, List.prefix_append _ _,
      newGeneration project config scopeKey version, rfl, key, ?_, rfl, ?_⟩
    · intro row rowMember
      rcases List.mem_append.mp rowMember with old | new
      · exact inv.stored row old
      · rw [List.mem_singleton.mp new]
        exact added
    · apply numbered.generation_of_mem
      exact List.mem_concat_self
    · change _ ↔ ∀ other ∈ reusable tables scopeKey (digest config), _
      rw [absent]
      simp [newGeneration]

/-- A snapshot that was returned shows a stored generation of the scope of `source` and
`projectId`; it has the directory of the generation exactly if `agreed`. -/
structure Backs (after : Tables) (source : String) (projectId : Option String)
    (snapshot : ExtensionConfigSnapshot python) (agreed : Prop) (row : Generation) : Prop where
  key : extensionScopeKey source projectId = .ok row.scopeKey
  stored : after.generation row.scopeKey row.version = some row
  shown : Shows row snapshot
  directory : row.cwdSnapshot = snapshot.cwdSnapshot ↔ agreed

theorem generation_congr (same : other.generations = tables.generations)
    (scopeKey : String) (version : Nat) :
    other.generation scopeKey version = tables.generation scopeKey version := by
  unfold Tables.generation
  rw [same]

theorem Backs.congr {agreed : Prop} (backs : Backs tables source projectId snapshot agreed row)
    (same : other.generations = tables.generations) :
    Backs other source projectId snapshot agreed row := by
  refine ⟨backs.key, ?_, backs.shown, backs.directory⟩
  rw [generation_congr same]
  exact backs.stored

theorem Answered.backs {found : Option Generation}
    (inv : Inv published after) (collisionFree : Set.InjOn digest published)
    (member : config ∈ published) (answered : Answered after project (digest config) found row) :
    Backs after project.source.value project.projectId
      (publishedSnapshot project config row.scopeKey row.version)
      (∀ other ∈ found, other.cwdSnapshot = project.cwd) row := by
  have stored := inv.stored row (generation_spec answered.stored).1
  exact ⟨answered.key, answered.stored,
    stored.shows_published collisionFree member answered.key answered.hash, answered.directory⟩

/-- A snapshot is loaded again exactly if it has the directory of its generation. -/
theorem Backs.forSession_iff {oracle : Resolution} {agreed : Prop}
    {later : Tables} (backs : Backs tables source projectId snapshot agreed row)
    (grown : Grown tables later) :
    later.forSession oracle source projectId snapshot.cwdSnapshot snapshot.version =
      .ok (later, snapshot) ↔ agreed := by
  have found := grown.generation backs.stored
  rw [← backs.shown.version] at found
  rw [← backs.directory]
  unfold Tables.forSession
  rw [backs.key, ok_bind, found]
  dsimp only
  rw [backs.shown.read, ok_bind]
  by_cases same : row.cwdSnapshot = snapshot.cwdSnapshot
  · rw [if_neg (not_not.mpr same)]
    simp [same]
    rfl
  · rw [if_pos same]
    simp [same]

/-! ## The calls -/

variable {oracle : Resolution}

/-- The generation that a publication of the configuration for the project would find again. -/
def foundAgain (oracle : Resolution) (tables : Tables) (project : ProjectSnapshot)
    (config : ProjectExtensionConfig python) : Option Generation :=
  match normalized oracle config project.cwd,
      extensionScopeKey project.source.value project.projectId with
  | .ok config, .ok scopeKey => reusable tables scopeKey (digest config)
  | _, _ => none

variable {given : ProjectExtensionConfig python}

theorem foundAgain_eq (normalizes : normalized oracle given project.cwd = .ok config)
    (key : extensionScopeKey project.source.value project.projectId = .ok scopeKey) :
    foundAgain oracle tables project given = reusable tables scopeKey (digest config) := by
  unfold foundAgain
  rw [normalizes, key]

theorem foundAgain_of_latest_none
    (key : extensionScopeKey project.source.value project.projectId = .ok scopeKey)
    (latest : tables.latest scopeKey = none) : foundAgain oracle tables project given = none := by
  unfold foundAgain
  rw [key]
  split
  · next same =>
    cases same
    unfold reusable
    rw [latest]
    rfl
  · rfl

theorem Inv.publish (inv : Inv published tables) (collisionFree : Set.InjOn digest published)
    (members : ∀ config, normalized oracle given project.cwd = .ok config → config ∈ published)
    (done : tables.publish oracle project given expected = .ok (after, snapshot)) :
    Inv published after ∧ Grown tables after ∧ ∃ row,
      Backs after project.source.value project.projectId snapshot
        (∀ other ∈ foundAgain oracle tables project given, other.cwdSnapshot = project.cwd)
        row := by
  obtain ⟨config, normalizes, done⟩ := bind_ok.mp done
  obtain ⟨scopeKey, key, done⟩ := bind_ok.mp done
  obtain ⟨⟨inserted, version⟩, publishes, done⟩ := bind_ok.mp done
  cases done
  have member := members config normalizes
  obtain ⟨invAfter, grown, row, rfl, answered⟩ := inv.publishConfig member publishes
  have own : row.scopeKey = scopeKey := by
    have keys := answered.key
    rw [key] at keys
    cases keys
    rfl
  subst own
  refine ⟨invAfter, grown, row, ?_⟩
  rw [foundAgain_eq normalizes key]
  exact answered.backs invAfter collisionFree member

theorem Inv.backs_read (inv : Inv published tables)
    (key : extensionScopeKey source projectId = .ok scopeKey)
    (member : row ∈ tables.generations) (own : row.scopeKey = scopeKey)
    (read : snapshotFromRow row = .ok snapshot)
    {agreed : Prop} (holds : agreed) : Backs tables source projectId snapshot agreed row := by
  obtain ⟨shown, directory⟩ := (inv.stored row member).shows read
  subst own
  exact ⟨key, inv.numbered.generation_of_mem member, shown,
    ⟨fun _ => holds, fun _ => directory.symm⟩⟩

theorem Inv.latestSnapshot (inv : Inv published tables) (collisionFree : Set.InjOn digest published)
    (members :
      ∀ config, normalized oracle (emptyConfig : ProjectExtensionConfig python) project.cwd =
      .ok config → config ∈ published)
    (done : tables.latestSnapshot oracle project = .ok (after, snapshot)) :
    Inv published after ∧ Grown tables after ∧ ∃ row,
      Backs after project.source.value project.projectId snapshot True row := by
  obtain ⟨scopeKey, key, done⟩ := bind_ok.mp done
  cases latest : tables.latest scopeKey with
  | none =>
    rw [latest] at done
    obtain ⟨invAfter, grown, row, backs⟩ := inv.publish collisionFree members done
    rw [foundAgain_of_latest_none key latest] at backs
    exact ⟨invAfter, grown, row, backs.key, backs.stored, backs.shown,
      by simpa using backs.directory⟩
  | some row =>
    rw [latest] at done
    obtain ⟨read, reads, done⟩ := bind_ok.mp done
    cases done
    have member := latest_mem latest
    exact ⟨inv, List.prefix_refl _, row, inv.backs_read key member.1 member.2 reads trivial⟩

theorem Numbered.latest_none (numbered : Numbered tables)
    (absent : tables.generation scopeKey 1 = none) : tables.latest scopeKey = none := by
  obtain ⟨n, versions⟩ := numbered scopeKey
  cases n with
  | zero =>
    have empty : inScope tables scopeKey = [] := List.map_eq_nil_iff.mp versions
    exact List.argmax_eq_none.mpr empty
  | succ n =>
    have first : 1 ∈ (inScope tables scopeKey).map Generation.version := by
      rw [versions, List.mem_range'_1]
      omega
    rw [generation_eq_lookup, lookup_eq_none] at absent
    exact absurd first (by simpa using absent)

theorem extensionScopeKey_bootstrap {cwd : String}
    (key : extensionScopeKey source projectId = .ok scopeKey) :
    extensionScopeKey (bootstrapProject source projectId cwd).source.value projectId =
      .ok scopeKey := by
  by_cases explicit : source = ProjectSource.explicit.value
  · have same : (bootstrapProject source projectId cwd).source = .explicit := if_pos explicit
    rw [same, ← explicit]
    exact key
  · have same : (bootstrapProject source projectId cwd).source = .implicitHome :=
      if_neg explicit
    rw [same]
    unfold extensionScopeKey at key ⊢
    rw [if_neg explicit] at key
    rw [if_neg (by decide)]
    exact key

theorem Inv.forSession (inv : Inv published tables)
    (collisionFree : Set.InjOn digest published) {cwd : String}
    (members : ∀ config, normalized oracle (emptyConfig : ProjectExtensionConfig python) cwd =
      .ok config → config ∈ published)
    (done : tables.forSession oracle source projectId cwd version = .ok (after, snapshot)) :
    Inv published after ∧ Grown tables after ∧ ∃ row,
      Backs after source projectId snapshot True row := by
  obtain ⟨scopeKey, key, answer⟩ := bind_ok.mp done
  cases found : tables.generation scopeKey version with
  | none =>
    rw [found] at answer
    dsimp only at answer
    split at answer
    · next first =>
      rw [first] at found
      have bootstrapMembers : ∀ config,
          normalized oracle (emptyConfig : ProjectExtensionConfig python)
            (bootstrapProject source projectId cwd).cwd = .ok config → config ∈ published :=
        members
      have bootstrap : extensionScopeKey (bootstrapProject source projectId cwd).source.value
          (bootstrapProject source projectId cwd).projectId = .ok scopeKey :=
        extensionScopeKey_bootstrap key
      obtain ⟨invAfter, grown, row, backs⟩ := inv.publish collisionFree bootstrapMembers answer
      rw [foundAgain_of_latest_none bootstrap (inv.numbered.latest_none found)] at backs
      have own : row.scopeKey = scopeKey := by
        have keys := backs.key
        rw [bootstrap] at keys
        cases keys
        rfl
      subst own
      exact ⟨invAfter, grown, row, key, backs.stored, backs.shown, by simpa using backs.directory⟩
    · cases answer
  | some row =>
    rw [found] at answer
    obtain ⟨read, reads, answer⟩ := bind_ok.mp answer
    split at answer
    · cases answer
    · cases answer
      have member := generation_spec found
      exact ⟨inv, List.prefix_refl _, row, inv.backs_read key member.1 member.2.1 reads trivial⟩

/-! ## Reload claims -/

variable {publication : Publication python}

theorem publishConfig_claims
    (done : tables.publishConfig project config expected = .ok (after, version)) :
    after.claims = tables.claims := by
  obtain ⟨_, _, effect⟩ := publishConfig_spec done
  rcases effect with ⟨rfl, _⟩ | ⟨_, _, rfl⟩ <;> rfl

theorem claimed_congr (same : other.claims = tables.claims) :
    publication.claimed other = publication.claimed tables := by
  unfold Publication.claimed Tables.claim
  rw [same]

variable {row : ConfigReloadClaim}

theorem claimed_updateClaim {also : ConfigReloadClaim → Bool}
    {set : ConfigReloadClaim → ConfigReloadClaim}
    (keeps : ∀ row, (set row).sdkSessionId = row.sdkSessionId ∧
      (set row).idempotencyKey = row.idempotencyKey)
    (claimed : publication.claimed tables = some row) (hit : also row = true) :
    publication.claimed (publication.updateClaim also set tables) = some (set row) := by
  have own := lookup_some_key claimed
  rw [Prod.mk.injEq] at own
  unfold Publication.claimed Tables.claim at claimed ⊢
  unfold Publication.updateClaim
  rw [lookup_updateWhere, claimed, Option.map_some, if_pos (by simp [own, hit])]
  intro row
  rw [(keeps row).1, (keeps row).2]

/-- The claim has been given no generation. -/
def Unanswered (publication : Publication python) (tables : Tables) : Prop :=
  ∀ row ∈ publication.claimed tables, row.answered = false

variable {created : Bool}

theorem publishClaim_spec (unanswered : Unanswered publication tables)
    (done : publication.publishClaim config (publication.claimed tables) tables =
      .ok (after, created)) :
    ∃ inserted version,
      tables.publishConfig publication.project config publication.expectedCurrentVersion =
        .ok (inserted, version) ∧
      after.generations = inserted.generations ∧
      ∃ row, publication.claimed after = some row ∧ row.configVersion = some version := by
  obtain ⟨⟨inserted, version⟩, publishes, done⟩ := bind_ok.mp done
  have claims : publication.claimed inserted = publication.claimed tables :=
    claimed_congr (publishConfig_claims publishes)
  refine ⟨inserted, version, publishes, ?_⟩
  cases claimed : publication.claimed tables with
  | none =>
    rw [claimed] at done claims
    cases done
    unfold Publication.claimed Tables.claim at claims ⊢
    rw [lookup_append, claims]
    simp [lookup]
  | some row =>
    rw [claimed] at done claims
    cases done
    refine ⟨rfl, _, claimed_updateClaim (fun _ => ⟨rfl, rfl⟩) claims ?_, rfl⟩
    simpa [ConfigReloadClaim.answered] using unanswered row claimed

theorem admit_spec (done : publication.admit config tables = .ok (after, row, created)) :
    (after = tables ∧ publication.claimed tables = some row ∧ row.answered = true) ∨
    (Unanswered publication tables ∧ ∃ inserted version,
      tables.publishConfig publication.project config publication.expectedCurrentVersion =
        .ok (inserted, version) ∧
      after.generations = inserted.generations ∧ row.configVersion = some version) := by
  have publishes (unanswered : Unanswered publication tables) {next : Tables} {isNew : Bool}
      (published_ : publication.publishClaim config (publication.claimed tables) tables =
        .ok (next, isNew))
      (fetched : publication.fetchClaim next = .ok row) :
      ∃ inserted version,
        tables.publishConfig publication.project config publication.expectedCurrentVersion =
          .ok (inserted, version) ∧
        next.generations = inserted.generations ∧ row.configVersion = some version := by
    obtain ⟨inserted, version, publishes, generations, found, claimed, answer⟩ :=
      publishClaim_spec unanswered published_
    unfold Publication.fetchClaim at fetched
    rw [claimed] at fetched
    cases fetched
    exact ⟨inserted, version, publishes, generations, answer⟩
  unfold Publication.admit at done
  cases claimed : publication.claimed tables with
  | none =>
    rw [claimed] at done publishes
    obtain ⟨⟨next, isNew⟩, published_, fetch⟩ := bind_ok.mp done
    obtain ⟨found, fetched, finish⟩ := bind_ok.mp fetch
    cases finish
    have unanswered : Unanswered publication tables := by
      intro other member
      rw [claimed] at member
      cases member
    exact .inr ⟨unanswered, publishes unanswered published_ fetched⟩
  | some found =>
    rw [claimed] at done publishes
    dsimp only at done
    split at done
    · cases done
    · split at done
      · next answered =>
        cases done
        exact .inl ⟨rfl, rfl, answered⟩
      · next unansweredRow =>
        obtain ⟨⟨next, isNew⟩, published_, fetch⟩ := bind_ok.mp done
        obtain ⟨fetchedRow, fetched, finish⟩ := bind_ok.mp fetch
        cases finish
        have unanswered : Unanswered publication tables := by
          intro other member
          rw [claimed] at member
          cases member
          exact Bool.eq_false_iff.mpr unansweredRow
        exact .inr ⟨unanswered, publishes unanswered published_ fetched⟩

theorem bindPending_generations {binding : SessionBinding}
    (done : publication.bindPending binding version configHash tables =
      .ok after) : after.generations = tables.generations := by
  unfold Publication.bindPending at done
  dsimp only at done
  split at done
  · cases done
  · split at done
    · cases done
      rfl
    · split at done
      · cases done
        rfl
      · cases done

theorem restart_generations {restarted : ConfigReloadClaim}
    (done : publication.restart row configHash tables = .ok (after, restarted)) :
    after.generations = tables.generations := by
  unfold Publication.restart at done
  split at done
  · dsimp only at done
    cases fetched : publication.fetchClaim (publication.updateClaim
        (fun row => decide (row.configHash = configHash)) publication.restarted tables) with
    | error raised =>
      rw [fetched] at done
      cases done
    | ok row =>
      rw [fetched] at done
      cases done
      rfl
  · cases done
    rfl

theorem settle_generations {binding : SessionBinding} {settled : ConfigReloadClaim}
    (done : publication.settle binding row version configHash tables = .ok (after, settled)) :
    after.generations = tables.generations := by
  obtain ⟨⟨next, restarted⟩, restarts, rest⟩ := bind_ok.mp done
  have same := restart_generations restarts
  dsimp only at rest
  split at rest
  · obtain ⟨bound, binds, finish⟩ := bind_ok.mp rest
    cases finish
    rw [bindPending_generations binds, same]
  · cases rest
    exact same

/-- The generation that answers a publication under a claim: the one the claim has, or the one
that is found again. -/
def answering (oracle : Resolution) (tables : Tables) (publication : Publication python) :
    Option Generation :=
  match publication.claimed tables with
  | some row =>
    if row.answered then
      match extensionScopeKey publication.project.source.value publication.project.projectId,
          row.configVersion with
      | .ok scopeKey, some version => tables.generation scopeKey version
      | _, _ => none
    else foundAgain oracle tables publication.project publication.config
  | none => foundAgain oracle tables publication.project publication.config

theorem answering_of_unanswered (unanswered : Unanswered publication tables) :
    answering oracle tables publication =
      foundAgain oracle tables publication.project publication.config := by
  unfold answering
  cases claimed : publication.claimed tables with
  | none => rfl
  | some row =>
    dsimp only
    rw [unanswered row claimed, if_neg Bool.false_ne_true]

theorem Inv.admit (inv : Inv published tables) (member : config ∈ published)
    (normalizes : normalized oracle publication.config publication.project.cwd = .ok config)
    {admitted : Tables} (admits : publication.admit config tables = .ok (admitted, row, created))
    (answer : row.configVersion = some version) {generation : Generation}
    (key : extensionScopeKey publication.project.source.value publication.project.projectId =
      .ok generation.scopeKey)
    (found : admitted.generation generation.scopeKey version = some generation)
    (hash : generation.configHash = digest config) :
    Inv published admitted ∧ Grown tables admitted ∧
      Answered admitted publication.project (digest config)
        (answering oracle tables publication) generation := by
  obtain ⟨-, -, rfl⟩ := generation_spec found
  rcases admit_spec admits with
    ⟨rfl, claimed, answered⟩ | ⟨unanswered, inserted, version, publishes, same, own⟩
  · have directory : answering oracle admitted publication = some generation := by
      unfold answering
      rw [claimed]
      dsimp only
      rw [if_pos answered, key, answer]
      exact found
    refine ⟨inv, List.prefix_refl _, key, found, hash, ?_⟩
    rw [directory]
    simp
  · rw [answer] at own
    cases own
    obtain ⟨invInserted, grown, other, otherVersion, answered⟩ :=
      inv.publishConfig member publishes
    have scopes := answered.key
    rw [key] at scopes
    injection scopes with scopes
    rw [generation_congr same] at found
    have sameRow := answered.stored
    rw [otherVersion, ← scopes, found] at sameRow
    cases sameRow
    refine ⟨invInserted.congr same, ?_, key, ?_, hash, ?_⟩
    · unfold Grown
      rw [same]
      exact grown
    · rw [generation_congr same]
      exact found
    · rw [answering_of_unanswered unanswered, foundAgain_eq normalizes key]
      exact answered.directory

theorem Inv.claimAndPublish (inv : Inv published tables)
    (collisionFree : Set.InjOn digest published)
    (members : ∀ config, normalized oracle publication.config publication.project.cwd =
      .ok config → config ∈ published)
    {claim : ConfigReloadClaim}
    (done : tables.claimAndPublish publication oracle = .ok (after, claim, snapshot, created)) :
    Inv published after ∧ Grown tables after ∧ ∃ row,
      Backs after publication.project.source.value publication.project.projectId snapshot
        (∀ other ∈ answering oracle tables publication,
          other.cwdSnapshot = publication.project.cwd) row := by
  obtain ⟨config, normalizes, rest⟩ := bind_ok.mp done
  have member := members config normalizes
  split at rest
  · cases rest
  split at rest
  · cases rest
  next binding _ =>
  obtain ⟨⟨admitted, row, isNew⟩, admits, rest⟩ := bind_ok.mp rest
  dsimp only at rest
  cases answer : row.configVersion with
  | none =>
    rw [answer] at rest
    cases rest
  | some version =>
    rw [answer] at rest
    obtain ⟨scopeKey, key, rest⟩ := bind_ok.mp rest
    split at rest
    · next matches_ =>
      obtain ⟨⟨settled, settledRow⟩, settles, finish⟩ := bind_ok.mp rest
      cases finish
      have generations := settle_generations settles
      cases found : admitted.generation scopeKey version with
      | none =>
        rw [found] at matches_
        cases matches_
      | some generation =>
        rw [found, Option.any_some, decide_eq_true_eq] at matches_
        obtain ⟨-, rfl, rfl⟩ := generation_spec found
        obtain ⟨invAdmitted, grown, answered⟩ :=
          inv.admit member normalizes admits answer key found matches_
        refine ⟨invAdmitted.congr generations, ?_, generation,
          (answered.backs invAdmitted collisionFree member).congr generations⟩
        unfold Grown
        rw [generations]
        exact grown
    · cases rest

/-! ## Histories -/

variable {call : Call python} {calls : List (Call python)}

def callSource : Call python → String
  | .publish project _ _ | .latest project => project.source.value
  | .claimAndPublish publication => publication.project.source.value
  | .forSession source _ _ _ => source
  | .elsewhere _ _ _ _ => ""

def callProjectId : Call python → Option String
  | .publish project _ _ | .latest project => project.projectId
  | .claimAndPublish publication => publication.project.projectId
  | .forSession _ projectId _ _ => projectId
  | .elsewhere _ _ _ _ => none

/-- The configuration that a call publishes, normalized in the directory of its project. -/
def publishedBy (oracle : Resolution) :
    Call python → Except Raised (ProjectExtensionConfig python)
  | .publish project config _ => normalized oracle config project.cwd
  | .latest project => normalized oracle emptyConfig project.cwd
  | .claimAndPublish publication =>
    normalized oracle publication.config publication.project.cwd
  | .forSession _ _ cwd _ => normalized oracle emptyConfig cwd
  | .elsewhere _ _ _ _ => .error .python

/-- The generation that exists already and answers the publication of a configuration was stored
with the directory of the project. -/
def SameDirectory (oracle : Resolution) (tables : Tables) : Call python → Prop
  | .publish project config _ =>
    ∀ row ∈ foundAgain oracle tables project config, row.cwdSnapshot = project.cwd
  | .claimAndPublish publication =>
    ∀ row ∈ answering oracle tables publication, row.cwdSnapshot = publication.project.cwd
  | _ => True

theorem map_ok {α β : Type} {result : Except Raised α} {f : α → β} {value : β}
    (mapped : result.map f = .ok value) : ∃ a, result = .ok a ∧ f a = value := by
  cases result with
  | error raised => cases mapped
  | ok a =>
    cases mapped
    exact ⟨a, rfl, rfl⟩

theorem Inv.answer (inv : Inv published tables) (collisionFree : Set.InjOn digest published)
    (members : ∀ config, publishedBy oracle call = .ok config → config ∈ published)
    {returned : Option (ExtensionConfigSnapshot python)}
    (done : call.answer oracle tables = .ok (after, returned)) :
    Inv published after ∧ Grown tables after ∧ ∀ snapshot ∈ returned, ∃ row,
      Backs after (callSource call) (callProjectId call) snapshot
        (SameDirectory oracle tables call) row := by
  cases call with
  | publish project config expected =>
    obtain ⟨⟨_, _⟩, publishes, same⟩ := map_ok done
    cases same
    obtain ⟨invAfter, grown, backed⟩ := inv.publish collisionFree members publishes
    exact ⟨invAfter, grown, by rintro _ ⟨⟩; exact backed⟩
  | latest project =>
    obtain ⟨⟨_, _⟩, reads, same⟩ := map_ok done
    cases same
    obtain ⟨invAfter, grown, backed⟩ := inv.latestSnapshot collisionFree members reads
    exact ⟨invAfter, grown, by rintro _ ⟨⟩; exact backed⟩
  | claimAndPublish publication =>
    obtain ⟨⟨_, _, _, _⟩, publishes, same⟩ := map_ok done
    cases same
    obtain ⟨invAfter, grown, backed⟩ := inv.claimAndPublish collisionFree members publishes
    exact ⟨invAfter, grown, by rintro _ ⟨⟩; exact backed⟩
  | forSession source projectId cwd version =>
    obtain ⟨⟨_, _⟩, loads, same⟩ := map_ok done
    cases same
    obtain ⟨invAfter, grown, backed⟩ := inv.forSession collisionFree members loads
    exact ⟨invAfter, grown, by rintro _ ⟨⟩; exact backed⟩
  | elsewhere projectIds claims leases bindings =>
    cases done
    exact ⟨inv.congr rfl, List.prefix_refl _, nofun⟩

theorem Inv.apply (inv : Inv published tables) (collisionFree : Set.InjOn digest published)
    (members : ∀ config, publishedBy oracle call = .ok config → config ∈ published) :
    Inv published (call.apply oracle tables) ∧ Grown tables (call.apply oracle tables) := by
  unfold Call.apply
  cases done : call.answer oracle tables with
  | error raised => exact ⟨inv, List.prefix_refl _⟩
  | ok answer =>
    obtain ⟨invAfter, grown, _⟩ := inv.answer collisionFree members done
    exact ⟨invAfter, grown⟩

theorem Inv.history (inv : Inv published tables) (collisionFree : Set.InjOn digest published)
    (members : ∀ call ∈ calls, ∀ config, publishedBy oracle call = .ok config →
      config ∈ published) :
    Inv published (history oracle tables calls) ∧
      Grown tables (history oracle tables calls) := by
  induction calls generalizing tables with
  | nil => exact ⟨inv, List.prefix_refl _⟩
  | cons call calls ih =>
    rw [List.forall_mem_cons] at members
    obtain ⟨invCall, grownCall⟩ := inv.apply collisionFree members.1
    obtain ⟨invAfter, grownAfter⟩ := ih invCall members.2
    exact ⟨invAfter, List.IsPrefix.trans grownCall grownAfter⟩

theorem Inv.start (fresh : tables.generations = []) : Inv published tables := by
  refine ⟨?_, ?_⟩
  · rw [fresh]
    exact nofun
  · intro scopeKey
    refine ⟨0, ?_⟩
    unfold inScope
    rw [fresh]
    rfl

theorem history_append (tables : Tables) (before after : List (Call python)) :
    history oracle tables (before ++ after) =
      history oracle (history oracle tables before) after :=
  List.foldl_append ..

/-- In every history the versions of a scope are `1, …, n`.  A snapshot that a call returned is
loaded again, at the end of the history, exactly if the generation that existed already and
answered the call was stored with the directory of its project. -/
theorem generations_load_iff (start : Tables) (fresh : start.generations = [])
    (calls : List (Call python))
    (collisionFree : Set.InjOn digest
      {config | ∃ call ∈ calls, publishedBy oracle call = .ok config}) :
    (∀ scopeKey, ∃ n,
      ((history oracle start calls).generations.filter fun row => row.scopeKey = scopeKey).map
        Generation.version = List.range' 1 n) ∧
    ∀ before call after snapshot, calls = before ++ call :: after →
      call.returned oracle (history oracle start before) = some snapshot →
        ((history oracle start calls).forSession oracle (callSource call) (callProjectId call)
            snapshot.cwdSnapshot snapshot.version = .ok (history oracle start calls, snapshot) ↔
          SameDirectory oracle (history oracle start before) call) := by
  have members : ∀ call ∈ calls, ∀ config, publishedBy oracle call = .ok config →
      config ∈ {config | ∃ call ∈ calls, publishedBy oracle call = .ok config} :=
    fun call member config normalizes => ⟨call, member, normalizes⟩
  refine ⟨((Inv.start fresh).history collisionFree members).1.numbered, ?_⟩
  intro before call after snapshot split_ returned
  have inBefore : ∀ other ∈ before, other ∈ calls := by
    intro other member
    rw [split_]
    exact List.mem_append_left _ member
  have inAfter : ∀ other ∈ after, other ∈ calls := by
    intro other member
    rw [split_]
    exact List.mem_append_right _ (List.mem_cons_of_mem _ member)
  have own : call ∈ calls := by
    rw [split_]
    exact List.mem_append_right _ List.mem_cons_self
  have invBefore := ((Inv.start fresh).history collisionFree
    fun other member => members other (inBefore other member)).1
  unfold Call.returned at returned
  cases done : call.answer oracle (history oracle start before) with
  | error raised =>
    rw [done] at returned
    cases returned
  | ok answer =>
    obtain ⟨next, found⟩ := answer
    rw [done] at returned
    obtain ⟨invNext, -, backed⟩ := invBefore.answer collisionFree (members call own) done
    obtain ⟨row, backs⟩ := backed snapshot returned
    have applied : call.apply oracle (history oracle start before) = next := by
      unfold Call.apply
      rw [done]
    have later : history oracle start calls = history oracle next after := by
      rw [split_, history_append, ← applied]
      rfl
    rw [later]
    exact backs.forSession_iff (invNext.history collisionFree
      fun other member => members other (inAfter other member)).2

end Stored

/-! ## Examples -/

def projectIn (directory : String) : ProjectSnapshot where
  projectId := some "p"
  channelId := "c"
  source := .explicit
  rootPath := directory
  cwd := directory
  configVersion := 1

/-- A file system where every path is a directory that resolves to itself. -/
def everyDirectory : Resolution where
  expanduser := some
  isAbsolute _ := true
  joined _ candidate := candidate
  resolve := some
  isDir _ := true

def emptyPython : Python where
  toPython := plainPython.toPython
  repr := id
  lower := id
  netlocAccepted _ := true
  sha256 _ := "the empty configuration"

def publishIn (directory : String) : Call emptyPython :=
  .publish (projectIn directory) emptyConfig none

def registered : Tables where
  projectIds := ["p"]

/-- The second publication of one configuration returns a directory that its generation was not
stored with, and cannot be loaded. -/
theorem republished_elsewhere_is_not_loaded :
    ∃ snapshot, (publishIn "/two").returned everyDirectory
        (history everyDirectory registered [publishIn "/one"]) = some snapshot ∧
      (history everyDirectory registered [publishIn "/one", publishIn "/two"]).forSession
          everyDirectory "explicit" (some "p") snapshot.cwdSnapshot snapshot.version ≠
        .ok (history everyDirectory registered [publishIn "/one", publishIn "/two"], snapshot) := by
  refine ⟨_, rfl, ?_⟩
  intro loaded
  cases loaded

theorem generations_load_iff_republished :
    ∃ snapshot, (publishIn "/one").returned everyDirectory
        (history everyDirectory registered [publishIn "/one"]) = some snapshot ∧
      (history everyDirectory registered [publishIn "/one", publishIn "/one"]).forSession
          everyDirectory "explicit" (some "p") snapshot.cwdSnapshot snapshot.version =
        .ok (history everyDirectory registered [publishIn "/one", publishIn "/one"],
          snapshot) := by
  have collisionFree : Set.InjOn digest {config | ∃ call ∈
      [publishIn "/one", publishIn "/one"], publishedBy everyDirectory call = .ok config} := by
    rintro one ⟨_, firstCall, first⟩ other ⟨_, secondCall, second⟩ _
    have calls : ∀ call ∈ [publishIn "/one", publishIn "/one"], call = publishIn "/one" := by
      simp
    rw [calls _ firstCall] at first
    rw [calls _ secondCall] at second
    rw [first] at second
    cases second
    rfl
  refine ⟨_, rfl, ?_⟩
  refine ((generations_load_iff registered rfl [publishIn "/one", publishIn "/one"]
    collisionFree).2 [publishIn "/one"] (publishIn "/one") [] _ rfl rfl).mpr ?_
  intro row found
  cases found
  rfl

end Copilotd.Guarantees.GenerationLoads
