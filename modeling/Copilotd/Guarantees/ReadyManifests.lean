import Copilotd.Source.Core.AttachmentManifests

/-!
# A ready manifest is complete

`prepare` and `release_unreferenced` change the state of a manifest together with its rows.
`garbage_collect` removes the directory of a manifest that was released when it was selected, and
then deletes its rows, without the lock of `prepare`: a `prepare` that has written a file in the
meantime loses it.  `prepare` itself removes the directory before it takes a manifest out of
`ready`.
-/
namespace Copilotd.Guarantees.ReadyManifests

open Base.Run Source.Core.AttachmentManifests

/-- What a ready manifest promises. -/
structure Complete (service : Service) (world : World) (manifest : Manifest) : Prop where
  items : world.items = world.prepared.map StoredItem.row
  total : (world.items.map (·.byteSize)).sum = manifest.totalBytes
  files : ∀ item ∈ world.items,
    service.intact world.files item.localPath item.byteSize item.sha256 = true

def ReadyComplete (service : Service) (world : World) : Prop :=
  ∀ manifest, world.manifest = some manifest → manifest.state = .ready →
    Complete service world manifest

/-! ## The condition -/

def isReady (world : World) : Bool := world.manifest.any fun manifest => manifest.state = .ready

/-- The files that a `prepare` has written for its items. -/
def writtenPaths : Stage → List Path
  | .reading stored _ _ | .writing stored _ _ _ _ | .committing stored =>
    stored.map (·.localPath)
  | .writingInline stored item _ _ => (stored ++ [item]).map (·.localPath)
  | _ => []

def callPaths : Call → List Path
  | .preparing _ stage => writtenPaths stage
  | _ => []

/-- The files of a ready manifest, and of the `prepare` that holds the lock. -/
def reliedPaths (world : World) : List Path :=
  (if isReady world then world.items.map (·.localPath) else []) ++
    (world.lock.map fun call => callPaths (world.calls call)).getD []

/-- A removal takes none of these files away. -/
def removesFree (world : World) (sessionId : String) (left : List Path) : Bool :=
  (reliedPaths world).all fun path => path.session ≠ sessionId || path ∈ left

/-- No step takes away the files or the rows of a ready manifest, or the files of the `prepare` that
is under way. -/
def spares (world : World) : Label → Bool
  | .goes call =>
    match world.calls call with
    | .preparing preparation .removing => removesFree world preparation.sessionId []
    | .collecting sessionId => removesFree world sessionId []
    | .deleting => !isReady world
    | _ => true
  | .raises call _ left =>
    match world.calls call with
    | .preparing preparation .removing => removesFree world preparation.sessionId left
    | .collecting sessionId => removesFree world sessionId left
    | _ => true
  | _ => true

/-! ## The invariant -/

variable {next : Call} {stored : List StoredItem} {sessionId : String} {left : List Path}

section Invariant

variable {service : Service} {world after : World}

/-- The manifest is being prepared and has no rows. -/
structure Clear (world : World) : Prop where
  items : world.items = []
  preparing : ∃ manifest, world.manifest = some manifest ∧ manifest.state = .preparing

/-- The files of the stored items, the last of which is at `count`. -/
def Stored (service : Service) (world : World) (count : Nat) (stored : List StoredItem) : Prop :=
  ∀ item ∈ stored, service.intact world.files item.localPath item.byteSize item.sha256 = true ∧
    item.localPath.inline = false ∧ item.localPath.index < count

/-- An item that is about to be written. -/
structure Fresh (service : Service) (count : Nat) (item : StoredItem) (content : Content) :
    Prop where
  size : content.length = item.byteSize
  sha256 : service.sha256 content = item.sha256
  separate : item.localPath.inline = false
  index : item.localPath.index = count

/-- What has been done at a stage. -/
def Progress (service : Service) (world : World) : Stage → Prop
  | .makingDirectory => Clear world
  | .reading stored _ _ | .committing stored =>
    Clear world ∧ Stored service world stored.length stored
  | .writing stored item content _ _ =>
    Clear world ∧ Stored service world stored.length stored ∧
      Fresh service stored.length item content
  | .writingInline stored item _ _ =>
    Clear world ∧ Stored service world (stored ++ [item]).length (stored ++ [item])
  | _ => True

def Locked : Call → Prop
  | .preparing _ .waiting => False
  | .preparing _ _ => True
  | .idle | .collecting _ | .deleting | .finished _ => False

structure Inv (service : Service) (world : World) : Prop where
  ready : ReadyComplete service world
  exclusive : ∀ call, Locked (world.calls call) → world.lock = some call
  progress : ∀ call preparation stage, world.calls call = .preparing preparation stage →
    Progress service world stage

theorem inv_start : Inv service {} := by
  refine ⟨?_, ?_, ?_⟩
  · intro manifest here
    cases here
  · intro call locked
    cases locked
  · intro call preparation stage here
    cases here

theorem Inv.of (inv : Inv service world) {call : Nat}
    (calls : after.calls = Function.update world.calls call next)
    (ready : ReadyComplete service after)
    (lock : ∀ other, other ≠ call → Locked (world.calls other) → after.lock = some other)
    (own : Locked next → after.lock = some call)
    (here : ∀ preparation stage, next = .preparing preparation stage →
      Progress service after stage)
    (others : ∀ other preparation stage, other ≠ call →
      world.calls other = .preparing preparation stage → Progress service world stage →
        Progress service after stage) : Inv service after := by
  refine ⟨ready, ?_, ?_⟩
  · intro other locked
    by_cases same : other = call
    · rw [same, calls, Function.update_self] at locked
      rw [same]
      exact own locked
    · rw [calls, Function.update_of_ne same] at locked
      exact lock other same locked
  · intro other preparation stage is
    by_cases same : other = call
    · rw [same, calls, Function.update_self] at is
      exact here preparation stage is
    · rw [calls, Function.update_of_ne same] at is
      exact others other preparation stage same is (inv.progress other preparation stage is)

theorem Inv.ofHolder (inv : Inv service world) {call : Nat} (locked : Locked (world.calls call))
    (calls : after.calls = Function.update world.calls call next)
    (ready : ReadyComplete service after) (own : Locked next → after.lock = some call)
    (here : ∀ preparation stage, next = .preparing preparation stage →
      Progress service after stage) : Inv service after := by
  have holder := inv.exclusive call locked
  have alone : ∀ other, other ≠ call → ¬ Locked (world.calls other) := by
    intro other different also
    have := inv.exclusive other also
    rw [holder] at this
    cases this
    exact different rfl
  refine inv.of calls ready (fun other different also => absurd also (alone other different)) own
    here ?_
  intro other preparation stage different is _
  have unlocked := alone other different
  rw [is] at unlocked
  cases stage with
  | waiting => trivial
  | _ => exact absurd trivial unlocked

theorem Inv.ofOther (inv : Inv service world) {call : Nat} (unlocked : ¬ Locked next)
    (calls : after.calls = Function.update world.calls call next)
    (lock : after.lock = world.lock) (ready : ReadyComplete service after)
    (others : ∀ other preparation stage, world.calls other = .preparing preparation stage →
      Progress service world stage → Progress service after stage) : Inv service after := by
  refine inv.of calls ready ?_ (fun locked => absurd locked unlocked) ?_ ?_
  · intro other _ locked
    rw [lock]
    exact inv.exclusive other locked
  · rintro preparation stage rfl
    cases stage with
    | waiting => trivial
    | _ => exact absurd trivial unlocked
  · intro other preparation stage _ is
    exact others other preparation stage is

/-! ## What a step leaves alone -/

theorem ReadyComplete.frame (complete : ReadyComplete service world)
    (manifest : ∀ later, after.manifest = some later → later.state = .ready →
      ∃ manifest, world.manifest = some manifest ∧ manifest.state = .ready ∧
        manifest.totalBytes = later.totalBytes)
    (items : after.items = world.items) (prepared : after.prepared = world.prepared)
    (files : isReady world = true → ∀ item ∈ world.items,
      after.files item.localPath = world.files item.localPath) :
    ReadyComplete service after := by
  intro later here ready
  obtain ⟨manifest, before, was, total⟩ := manifest later here ready
  have whole := complete manifest before was
  have held : isReady world = true := by
    unfold isReady
    rw [before]
    exact decide_eq_true was
  refine ⟨?_, ?_, ?_⟩
  · rw [items, prepared]
    exact whole.items
  · rw [items, ← total]
    exact whole.total
  · intro item member
    rw [items] at member
    have same := files held item member
    have intact := whole.files item member
    unfold Service.intact at intact ⊢
    rw [same]
    exact intact

theorem ReadyComplete.same (complete : ReadyComplete service world)
    (manifest : after.manifest = world.manifest) (items : after.items = world.items)
    (prepared : after.prepared = world.prepared) (files : after.files = world.files) :
    ReadyComplete service after := by
  refine complete.frame ?_ items prepared ?_
  · intro later here ready
    exact ⟨later, manifest ▸ here, ready, rfl⟩
  · intro _ item _
    rw [files]

theorem ReadyComplete.vacuous
    (manifest : ∀ manifest, after.manifest = some manifest → manifest.state ≠ .ready) :
    ReadyComplete service after :=
  fun later here ready => absurd ready (manifest later here)

theorem Clear.same (clear : Clear world) (manifest : after.manifest = world.manifest)
    (items : after.items = world.items) : Clear after := by
  obtain ⟨preparing, here, state⟩ := clear.preparing
  exact ⟨items.trans clear.items, preparing, manifest.trans here, state⟩

theorem Stored.frame {count : Nat} (kept : Stored service world count stored)
    (files : ∀ path ∈ stored.map (·.localPath), after.files path = world.files path) :
    Stored service after count stored := by
  intro item member
  obtain ⟨intact, separate, index⟩ := kept item member
  refine ⟨?_, separate, index⟩
  unfold Service.intact at intact ⊢
  rw [files _ (List.mem_map.mpr ⟨item, member, rfl⟩)]
  exact intact

theorem Progress.frame {stage : Stage} (progress : Progress service world stage)
    (clear : Clear world → Clear after)
    (files : ∀ path ∈ writtenPaths stage, after.files path = world.files path) :
    Progress service after stage := by
  cases stage with
  | makingDirectory => exact clear progress
  | reading stored attachment rest => exact ⟨clear progress.1, progress.2.frame files⟩
  | writing stored item content inlineContent rest =>
    exact ⟨clear progress.1, progress.2.1.frame files, progress.2.2⟩
  | writingInline stored item content rest => exact ⟨clear progress.1, progress.2.frame files⟩
  | committing stored => exact ⟨clear progress.1, progress.2.frame files⟩
  | _ => trivial

/-! ## The directory is removed -/

theorem removesFree_files (free : removesFree world sessionId left = true)
    (files : ∀ path, path.session ≠ sessionId ∨ path ∈ left →
      after.files path = world.files path) :
    (isReady world = true → ∀ item ∈ world.items,
        after.files item.localPath = world.files item.localPath) ∧
      ∀ call, world.lock = some call → ∀ path ∈ callPaths (world.calls call),
        after.files path = world.files path := by
  have relied : ∀ path ∈ reliedPaths world, after.files path = world.files path := by
    intro path member
    have spared := List.all_eq_true.mp free path member
    simp only [Bool.or_eq_true, decide_eq_true_eq] at spared
    exact files path spared
  refine ⟨?_, ?_⟩
  · intro ready item member
    refine relied _ (List.mem_append_left _ ?_)
    rw [if_pos ready]
    exact List.mem_map.mpr ⟨item, member, rfl⟩
  · intro call locked path member
    refine relied _ (List.mem_append_right _ ?_)
    rw [locked]
    exact member

theorem removed_files (path : Path) (outside : path.session ≠ sessionId ∨ path ∈ ([] : List Path)) :
    (world.removed sessionId).files path = world.files path := by
  rcases outside with other | nowhere
  · exact if_neg other
  · cases nowhere

theorem partlyRemoved_files (path : Path) (outside : path.session ≠ sessionId ∨ path ∈ left) :
    (world.partlyRemoved sessionId left).files path = world.files path := by
  refine if_neg ?_
  rintro ⟨inside, gone⟩
  exact outside.elim (fun other => other inside) gone

theorem Inv.collecting (inv : Inv service world) {call : Nat} (unlocked : ¬ Locked next)
    (free : removesFree world sessionId left = true)
    (calls : after.calls = Function.update world.calls call next)
    (lock : after.lock = world.lock) (manifest : after.manifest = world.manifest)
    (items : after.items = world.items) (prepared : after.prepared = world.prepared)
    (files : ∀ path, path.session ≠ sessionId ∨ path ∈ left →
      after.files path = world.files path) : Inv service after := by
  obtain ⟨own, running⟩ := removesFree_files free files
  refine inv.ofOther unlocked calls lock ?_ ?_
  · refine inv.ready.frame ?_ items prepared own
    intro later here ready
    exact ⟨later, manifest ▸ here, ready, rfl⟩
  · intro other preparation stage is progress
    refine progress.frame (fun clear => clear.same manifest items) ?_
    intro path member
    have locked : Locked (world.calls other) := by
      rw [is]
      cases stage with
      | waiting => cases member
      | _ => trivial
    refine running other (inv.exclusive other locked) path ?_
    rw [is]
    exact member

end Invariant

/-! ## One step of `prepare` -/

section Prepare

variable {service : Service} {world after : World} {call : Nat} {preparation : Preparation}
  {stage : Stage}

section

variable (inv : Inv service world)
include inv

theorem Inv.reaches (locked : Locked (world.calls call)) (progress : Progress service world stage) :
    Inv service (world.reaches call preparation stage) := by
  refine inv.ofHolder locked rfl (inv.ready.same rfl rfl rfl rfl)
    (fun _ => inv.exclusive call locked)
    ?_
  rintro _ _ ⟨⟩
  exact progress.frame (fun clear => clear.same rfl rfl) fun _ _ => rfl

theorem Inv.leaves (locked : Locked (world.calls call)) (ended : Ended) :
    Inv service (world.leaves call ended) := by
  refine inv.ofHolder locked rfl (inv.ready.same rfl rfl rfl rfl) (fun held => absurd held id) ?_
  rintro _ _ ⟨⟩

theorem Inv.verifies (locked : Locked (world.calls call))
    (count totalBytes : Nat) (items : List StoredItem) :
    Inv service (world.verifies call preparation count totalBytes items) := by
  cases items with
  | nil => exact inv.leaves locked _
  | cons item rest => exact inv.reaches locked trivial

theorem Inv.fails (locked : Locked (world.calls call)) (ended : Ended) :
    Inv service (world.failed.leaves call ended) := by
  refine inv.ofHolder locked rfl (.vacuous ?_) (fun held => absurd held id) ?_
  · intro manifest here
    obtain ⟨before, _, rfl⟩ := Option.map_eq_some_iff.mp here
    exact nofun
  · rintro _ _ ⟨⟩

theorem Inv.readingManifest (locked : Locked (world.calls call))
    (goes : world.goesOn service call preparation .readingManifest = some after) :
    Inv service after := by
  unfold World.goesOn at goes
  dsimp only at goes
  split at goes
  · cases goes
    exact inv.reaches locked trivial
  · split at goes
    · cases goes
      exact inv.leaves locked _
    · split at goes
      · cases goes
        exact inv.reaches locked trivial
      · cases goes
        exact inv.reaches locked trivial

theorem Inv.updatingMetadata (locked : Locked (world.calls call))
    (progress : Progress service (world.metadataUpdated preparation) stage) :
    Inv service ((world.metadataUpdated preparation).reaches call preparation stage) := by
  refine inv.ofHolder locked rfl ?_ (fun _ => inv.exclusive call locked) ?_
  · refine inv.ready.frame ?_ rfl rfl fun _ _ _ => rfl
    intro later here ready
    obtain ⟨manifest, before, rfl⟩ := Option.map_eq_some_iff.mp here
    exact ⟨manifest, before, ready, rfl⟩
  · rintro _ _ ⟨⟩
    exact progress.frame (fun clear => clear.same rfl rfl) fun _ _ => rfl

theorem Inv.removing {removed : World}
    (locked : Locked (world.calls call))
    (free : removesFree world sessionId left = true) (lock : removed.lock = world.lock)
    (calls : removed.calls = world.calls) (manifest : removed.manifest = world.manifest)
    (items : removed.items = world.items) (prepared : removed.prepared = world.prepared)
    (files : ∀ path, path.session ≠ sessionId ∨ path ∈ left →
      removed.files path = world.files path)
    (begins : ∀ world, Progress service world stage) :
    Inv service (removed.reaches call preparation stage) := by
  obtain ⟨own, _⟩ := removesFree_files free files
  refine inv.ofHolder locked (congrArg (Function.update · call _) calls) ?_
    (fun _ => lock.trans (inv.exclusive call locked)) ?_
  · refine inv.ready.frame ?_ items prepared own
    intro later here ready
    exact ⟨later, manifest ▸ here, ready, rfl⟩
  · rintro _ _ ⟨⟩
    exact begins _

theorem Inv.beginning (locked : Locked (world.calls call))
    (goes : world.goesOn service call preparation .beginning = some after) :
    Inv service after := by
  cases goes
  refine inv.ofHolder locked rfl (.vacuous ?_) (fun _ => inv.exclusive call locked) ?_
  · intro manifest here
    cases here
    exact nofun
  · rintro _ _ ⟨⟩
    cases service.declaredError preparation.attachments with
    | none => exact ⟨rfl, _, rfl, rfl⟩
    | some error => trivial

end

theorem proceed_progress (clear : Clear world)
    (kept : Stored service world stored.length stored) (rest : List DiscordAttachment) :
    Progress service world (proceed stored rest) := by
  cases rest with
  | nil => exact ⟨clear, kept⟩
  | cons attachment rest => exact ⟨clear, kept⟩

theorem Clear.notReady (clear : Clear world) :
    ∀ manifest, world.manifest = some manifest → manifest.state ≠ .ready := by
  obtain ⟨preparing, is, state⟩ := clear.preparing
  intro manifest here
  rw [is] at here
  cases here
  rw [state]
  exact nofun

theorem Inv.makingDirectory (inv : Inv service world) (locked : Locked (world.calls call))
    (progress : Progress service world .makingDirectory)
    (goes : world.goesOn service call preparation .makingDirectory = some after) :
    Inv service after := by
  cases goes
  refine inv.ofHolder locked rfl (inv.ready.same rfl rfl rfl rfl)
    (fun _ => inv.exclusive call locked) ?_
  rintro _ _ ⟨⟩
  refine proceed_progress ?_ ?_ _
  · exact Clear.same progress rfl rfl
  · intro item member
    cases member

theorem item_fresh (sessionId : String) (index : Nat) (attachment : DiscordAttachment)
    (content : Content) (kind : SdkAttachmentKind) (inlineBytes : Option (Content × String)) :
    Fresh service index
      (service.item sessionId index attachment content kind inlineBytes).1 content :=
  ⟨rfl, rfl, rfl, rfl⟩

variable {rest : List DiscordAttachment} {content : Content}

theorem Inv.contentRead {attachment : DiscordAttachment} (inv : Inv service world)
    (locked : Locked (world.calls call))
    (progress : Progress service world (.reading stored attachment rest)) :
    Inv service (world.contentRead service call preparation stored attachment rest content) := by
  refine inv.reaches locked ?_
  split
  · trivial
  · split
    · trivial
    · split
      · trivial
      · exact ⟨progress.1, progress.2, item_fresh ..⟩

theorem Stored.written {count : Nat} {path : Path} (kept : Stored service world count stored)
    (apart : ∀ item ∈ stored, item.localPath ≠ path) :
    Stored service (world.written path content) count stored := by
  refine kept.frame ?_
  intro other member
  obtain ⟨item, among, rfl⟩ := List.mem_map.mp member
  exact Function.update_of_ne (apart item among) ..

variable {item : StoredItem}

theorem Stored.snoc (kept : Stored service world stored.length stored)
    (fresh : Fresh service stored.length item content) :
    Stored service (world.written item.localPath content) (stored ++ [item]).length
      (stored ++ [item]) := by
  have earlier : Stored service (world.written item.localPath content) stored.length stored := by
    refine kept.written ?_
    intro other member same
    have before := (kept other member).2.2
    rw [same, fresh.index] at before
    exact Nat.lt_irrefl _ before
  intro other member
  rw [List.length_append, List.length_singleton]
  rcases List.mem_append.mp member with among | last
  · obtain ⟨intact, separate, index⟩ := earlier other among
    exact ⟨intact, separate, Nat.lt_succ_of_lt index⟩
  · rw [List.mem_singleton.mp last]
    refine ⟨?_, fresh.separate, ?_⟩
    · unfold Service.intact World.written
      dsimp only
      simp [fresh.size, fresh.sha256]
    · rw [fresh.index]
      exact Nat.lt_succ_self _

theorem Inv.writing {inlineContent : Option Content} (inv : Inv service world)
    (locked : Locked (world.calls call))
    (progress : Progress service world (.writing stored item content inlineContent rest))
    (goes : world.goesOn service call preparation
      (.writing stored item content inlineContent rest) = some after) : Inv service after := by
  obtain ⟨_, same⟩ := Option.ite_none_right_eq_some.mp goes
  cases same
  obtain ⟨clear, kept, fresh⟩ := progress
  have snoc := kept.snoc fresh
  refine inv.ofHolder locked rfl (.vacuous clear.notReady) (fun _ => inv.exclusive call locked) ?_
  rintro _ _ ⟨⟩
  cases inlineContent with
  | none =>
    refine proceed_progress ?_ ?_ rest
    · exact clear.same rfl rfl
    · exact snoc.frame fun _ _ => rfl
  | some inlineContent => exact ⟨clear.same rfl rfl, snoc.frame fun _ _ => rfl⟩

theorem Inv.writingInline (inv : Inv service world) (locked : Locked (world.calls call))
    (progress : Progress service world (.writingInline stored item content rest))
    (goes : world.goesOn service call preparation (.writingInline stored item content rest) =
      some after) : Inv service after := by
  obtain ⟨_, same⟩ := Option.ite_none_right_eq_some.mp goes
  cases same
  obtain ⟨clear, kept⟩ := progress
  have later : Stored service
      (world.written { item.localPath with inline := true } content)
      (stored ++ [item]).length (stored ++ [item]) := by
    refine kept.written ?_
    intro other member equal
    have separate := (kept other member).2.1
    rw [equal] at separate
    cases separate
  refine inv.ofHolder locked rfl (.vacuous clear.notReady) (fun _ => inv.exclusive call locked) ?_
  rintro _ _ ⟨⟩
  refine proceed_progress ?_ ?_ rest
  · exact clear.same rfl rfl
  · exact later.frame fun _ _ => rfl

theorem Inv.committing (inv : Inv service world) (locked : Locked (world.calls call))
    (progress : Progress service world (.committing stored))
    (goes : world.goesOn service call preparation (.committing stored) = some after) :
    Inv service after := by
  obtain ⟨later, done, rfl⟩ := Option.map_eq_some_iff.mp goes
  obtain ⟨_, same⟩ := Option.ite_none_right_eq_some.mp done
  cases same
  obtain ⟨⟨empty, preparing, before, state⟩, kept⟩ := progress
  refine inv.ofHolder locked rfl ?_ (fun held => absurd held id) ?_
  · intro manifest here _
    have is : manifest =
        { preparing with
          state := .ready
          totalBytes := (stored.map (·.byteSize)).sum
          retentionUntil := none } := by
      have mapped := here
      simp only [World.leaves, World.become, before, Option.map_some, state, if_true,
        Option.some.injEq] at mapped
      exact mapped.symm
    refine ⟨?_, ?_, ?_⟩
    · simp [World.leaves, World.become, empty]
    · simp [World.leaves, World.become, empty, is, StoredItem.row, Function.comp_def]
    · intro row member
      simp only [World.leaves, World.become, empty, List.nil_append, List.mem_map] at member
      obtain ⟨item, among, rfl⟩ := member
      exact (kept item among).1
  · rintro _ _ ⟨⟩

theorem locked_of_running (is : world.calls call = .preparing preparation stage)
    (running : stage ≠ .waiting) : Locked (world.calls call) := by
  rw [is]
  cases stage with
  | waiting => exact absurd rfl running
  | _ => trivial

theorem Inv.goesOn (inv : Inv service world)
    (is : world.calls call = .preparing preparation stage)
    (spared : spares world (.goes call) = true)
    (goes : world.goesOn service call preparation stage = some after) : Inv service after := by
  have progress := inv.progress call preparation stage is
  have locked := locked_of_running is
  cases stage with
  | waiting => cases goes
  | reading stored attachment rest => cases goes
  | readingManifest => exact inv.readingManifest (locked nofun) goes
  | checkingNames totalBytes =>
    cases goes
    refine inv.reaches (locked nofun) ?_
    split <;> trivial
  | updatingMetadata totalBytes =>
    cases goes
    exact inv.updatingMetadata (locked nofun) trivial
  | verifyingState totalBytes =>
    unfold World.goesOn at goes
    dsimp only at goes
    split at goes
    · cases goes
      exact inv.reaches (locked nofun) trivial
    · cases goes
      exact inv.leaves (locked nofun) _
  | verifyingRows totalBytes =>
    unfold World.goesOn at goes
    dsimp only at goes
    split at goes
    · cases goes
      exact inv.verifies (locked nofun) _ _ _
    · cases goes
      exact inv.leaves (locked nofun) _
  | checking item rest count totalBytes =>
    unfold World.goesOn at goes
    dsimp only at goes
    split at goes
    · cases goes
      exact inv.verifies (locked nofun) _ _ _
    · cases goes
      exact inv.reaches (locked nofun) trivial
  | rejecting item =>
    cases goes
    exact inv.fails (locked nofun) _
  | removing =>
    cases goes
    unfold spares at spared
    simp only [is] at spared
    exact inv.removing (locked nofun) spared rfl rfl rfl rfl rfl removed_files fun _ => trivial
  | beginning => exact inv.beginning (locked nofun) goes
  | makingDirectory => exact inv.makingDirectory (locked nofun) progress goes
  | writing stored item content inlineContent rest => exact inv.writing (locked nofun) progress goes
  | writingInline stored item content rest => exact inv.writingInline (locked nofun) progress goes
  | committing stored => exact inv.committing (locked nofun) progress goes
  | failing error =>
    cases goes
    exact inv.fails (locked nofun) _

theorem Inv.raised {error : String} (inv : Inv service world)
    (is : world.calls call = .preparing preparation stage)
    (spared : spares world (.raises call error left) = true)
    (raises : world.raised call preparation error left stage = some after) :
    Inv service after := by
  have locked := locked_of_running is
  cases stage with
  | waiting => cases raises
  | readingManifest | checkingNames | updatingMetadata | verifyingState | verifyingRows
  | checking | rejecting | failing =>
    cases raises
    exact inv.leaves (locked nofun) _
  | removing =>
    cases raises
    unfold spares at spared
    simp only [is] at spared
    exact inv.removing (locked nofun) spared rfl rfl rfl rfl rfl partlyRemoved_files
      fun _ => trivial
  | beginning | makingDirectory | reading | writing | writingInline | committing =>
    cases raises
    exact inv.reaches (locked nofun) trivial

end Prepare

/-! ## The other calls -/

section Others

variable {service : Service} {world after : World} {call : Nat}

theorem Inv.aside (inv : Inv service world) (unlocked : ¬ Locked next) :
    Inv service (world.become call next) := by
  refine inv.ofOther unlocked rfl rfl (inv.ready.same rfl rfl rfl rfl) ?_
  intro other preparation stage _ progress
  exact progress.frame (fun clear => clear.same rfl rfl) fun _ _ => rfl

theorem Inv.acquire (inv : Inv service world)
    (taken : world.step service (.acquire call) = some after) : Inv service after := by
  unfold World.step at taken
  dsimp only at taken
  split at taken
  · rename_i preparation is free
    cases taken
    refine inv.of rfl (inv.ready.same rfl rfl rfl rfl) ?_ (fun _ => rfl) ?_ ?_
    · intro other _ locked
      have := inv.exclusive other locked
      rw [free] at this
      cases this
    · rintro _ _ ⟨⟩
      trivial
    · intro other preparation stage _ _ progress
      exact progress.frame (fun clear => clear.same rfl rfl) fun _ _ => rfl
  · cases taken

theorem Inv.collected (inv : Inv service world) (unready : isReady world = false) (ended : Ended) :
    Inv service (world.collected.become call (.finished ended)) := by
  refine inv.ofOther id rfl rfl (.vacuous ?_) ?_
  · intro manifest here ready
    obtain ⟨before, was, rfl⟩ := Option.map_eq_some_iff.mp here
    have state : before.state ≠ .ready := by
      intro state
      unfold isReady at unready
      rw [was, Option.any_some, decide_eq_false_iff_not] at unready
      exact unready state
    split at ready
    · rename_i released
      rw [released] at ready
      cases ready
    · exact state ready
  · intro other preparation stage _ progress
    refine progress.frame ?_ fun _ _ => rfl
    rintro ⟨_, manifest, is, state⟩
    refine ⟨rfl, manifest, ?_, state⟩
    simp [World.collected, World.become, World.itemsDeleted, World.namesDeleted, is, state]

theorem Inv.released {manifest : Manifest} {references : References} (inv : Inv service world)
    (is : world.manifest = some manifest) (releases : manifest.releases references = true)
    (now : ℚ) (ended : Ended) :
    Inv service ((world.released service manifest now).become call (.finished ended)) := by
  refine inv.ofOther id rfl rfl (.vacuous ?_) ?_
  · intro later here
    cases here
    exact nofun
  · intro other preparation stage _ progress
    refine progress.frame ?_ fun _ _ => rfl
    rintro ⟨_, preparing, here, state⟩
    rw [is] at here
    cases here
    simp [Manifest.releases, state] at releases

theorem step_inv {label : Label} (inv : Inv service world) (spared : spares world label = true)
    (taken : world.step service label = some after) : Inv service after := by
  cases label with
  | prepare call preparation =>
    unfold World.step at taken
    dsimp only at taken
    split at taken
    · split at taken
      · cases taken
        exact inv.aside id
      · cases taken
        exact inv.aside id
    · cases taken
  | acquire call => exact inv.acquire taken
  | goes call =>
    unfold World.step at taken
    dsimp only at taken
    split at taken
    · rename_i preparation stage is
      exact inv.goesOn is spared taken
    · rename_i sessionId is
      cases taken
      unfold spares at spared
      simp only [is] at spared
      exact inv.collecting id spared rfl rfl rfl rfl rfl removed_files
    · rename_i is
      cases taken
      unfold spares at spared
      simp only [is] at spared
      exact inv.collected (by simpa using spared) _
    · cases taken
    · cases taken
  | reads call content =>
    unfold World.step at taken
    dsimp only at taken
    split at taken
    · rename_i preparation stored attachment rest is
      cases taken
      exact inv.contentRead (locked_of_running is nofun) (inv.progress call _ _ is)
    · cases taken
  | raises call error left =>
    unfold World.step at taken
    dsimp only at taken
    split at taken
    · rename_i preparation stage is
      exact inv.raised is spared taken
    · rename_i sessionId is
      cases taken
      unfold spares at spared
      simp only [is] at spared
      exact inv.collecting id spared rfl rfl rfl rfl rfl partlyRemoved_files
    · cases taken
      exact inv.aside id
    · cases taken
    · cases taken
  | releaseUnreferenced call now references =>
    unfold World.step at taken
    dsimp only at taken
    split at taken
    · split at taken
      · rename_i manifest is
        split at taken
        · rename_i releases
          cases taken
          exact inv.released is releases now _
        · cases taken
          exact inv.aside id
      · cases taken
        exact inv.aside id
    · cases taken
  | garbageCollect call now references =>
    unfold World.step at taken
    dsimp only at taken
    split at taken
    · split at taken
      · cases taken
        exact inv.aside id
      · cases taken
        exact inv.aside id
    · cases taken
  | restart =>
    cases taken
    refine ⟨inv.ready.same rfl rfl rfl rfl, ?_, ?_⟩
    · intro call locked
      cases locked
    · intro call preparation stage here
      cases here

end Others

/-- In every run whose steps meet the condition, a ready manifest is complete in every state. -/
theorem ready_is_complete (service : Service) {labels : List Label} {world : World}
    (spared : Along (World.step service) (fun world label => spares world label = true) {} labels)
    (runs : run (World.step service) {} labels = some world) : ReadyComplete service world := by
  have keep : ∀ world label after, Inv service world → spares world label = true →
      World.step service world label = some after → Inv service after :=
    fun _ _ _ inv spared taken => step_inv inv spared taken
  exact (run_inv_along keep spared inv_start runs).ready

/-! ## A collection before and during the next `prepare` -/

/-- A service without capabilities, which is given the file `a`. -/
def service : Service where
  manifestId := "manifest"
  limits :=
    { fileMaxBytes := 26214400, messageMaxBytes := 104857600, inlineBlobMaxBytes := 7340032 }
  strictLegacy := true
  retentionSeconds := 604800
  sha256 := fun content =>
    if content = [97] then "ca978112ca1bbdcafac231b39a23dc4da786eff8147c4e72b9807785afee48bb"
    else "e3b0c44298fc1c149afbf4c8996fb92427ae41e4649b934ca495991b7852b855"
  compressImage := fun _ mimeType _ => .error s!"unable to compress {mimeType} image"

def oneFile : Preparation where
  sessionId := "session"
  attachments := [{ filename := "a.txt", size := 1 }]

/-- A `prepare` of the file from its call to its end. -/
def prepares (call : Nat) : List Label :=
  [.prepare call oneFile, .acquire call, .goes call, .goes call, .goes call, .goes call,
    .reads call [97], .goes call, .goes call]

/-- The manifest is released, and a collection selects it a week later. -/
def selected : List Label :=
  prepares 0 ++ [.releaseUnreferenced 1 0 { queued := true }, .garbageCollect 2 604800 {}]

/-- The collection ends before the next `prepare` starts. -/
def collectedBefore : List Label := selected ++ [.goes 2, .goes 2] ++ prepares 3

theorem ready_is_complete_collected_before :
    ∃ world, run (World.step service) {} collectedBefore = some world ∧ isReady world = true ∧
      ReadyComplete service world := by
  have reached : (run (World.step service) {} collectedBefore).any isReady = true := by
    decide +kernel
  obtain ⟨world, runs, ready⟩ := (Option.any_eq_true _ _).mp reached
  exact ⟨world, runs, ready, ready_is_complete service (by decide +kernel) runs⟩

/-- The next `prepare` is over when the collection removes the directory. -/
def collectedAfter : List Label := selected ++ prepares 3 ++ [.goes 2]

theorem late_collection_removes_ready_files :
    (∃ world, run (World.step service) {} collectedAfter = some world ∧ isReady world = true ∧
        (∃ item ∈ world.items, world.files item.localPath = none) ∧
        ¬ ReadyComplete service world) ∧
      (run (World.step service) {} (collectedAfter ++ [.goes 2])).any (fun world =>
        isReady world && world.items.isEmpty && world.prepared.length = 1) = true := by
  refine ⟨?_, by decide +kernel⟩
  have reached : (run (World.step service) {} collectedAfter).any (fun world =>
      isReady world && world.items.any fun item => world.files item.localPath = none) = true := by
    decide +kernel
  obtain ⟨world, runs, found⟩ := (Option.any_eq_true _ _).mp reached
  obtain ⟨ready, lost⟩ := Bool.and_eq_true_iff.mp found
  obtain ⟨item, member, gone⟩ := List.any_eq_true.mp lost
  have nowhere := of_decide_eq_true gone
  refine ⟨world, runs, ready, ⟨item, member, nowhere⟩, ?_⟩
  intro complete
  obtain ⟨manifest, is, state⟩ := (Option.any_eq_true _ _).mp ready
  have intact := (complete manifest is (of_decide_eq_true state)).files item member
  unfold Service.intact at intact
  rw [nowhere] at intact
  cases intact

end Copilotd.Guarantees.ReadyManifests
