import Mathlib.Algebra.Order.Ring.Unbundled.Rat
import Copilotd.Base.Dict
import Copilotd.Base.Run

/-!
# Preparing, releasing and collecting an attachment manifest

Source: `core/attachments.py` (`prepare`, `_begin_manifest`, `_validate_declared_sizes`,
`_download_all`, `_commit_items`, `_update_recovery_metadata`, `_verified_items`,
`_attachment_names_available`, `_matches_integrity`, `_remove_manifest_directory`,
`release_unreferenced`, `garbage_collect`).

One manifest.  Each call stands at one of its awaits: a transaction, a read of the database and a
call of a thread are one step each.  What other tables refer to the manifest is given with the step
that asks for it; so is what Discord answers.  A failed removal leaves any part of the directory.
The recovery prompt, the other recovery columns and the error columns are left out, and so is the
cancellation of a call; the process may stop at any await.
-/
namespace Copilotd.Source.Core.AttachmentManifests

open Base

abbrev Content := List UInt8

structure Limits where
  fileMaxBytes : Nat
  messageMaxBytes : Nat
  inlineBlobMaxBytes : Nat

/-- `AttachmentService`; an error is the text of an exception. -/
structure Service where
  manifestId : String
  limits : Limits
  /-- `_capabilities is None`. -/
  strictLegacy : Bool
  retentionSeconds : ℚ
  sha256 : Content → String
  /-- `_compress_image` of a content, a MIME type and a limit. -/
  compressImage : Content → String → Nat → Except String (Content × String)

/-! ## Files and rows -/

/-- A file of the manifest's directory of a session: `"{index:03d}-{sha256}"`, with `".inline.jpg"`
if `inline`. -/
structure Path where
  session : String
  index : Nat
  sha256 : String
  inline : Bool := false
  deriving DecidableEq

inductive SdkAttachmentKind where
  | file
  | blob

structure InlineVariant where
  mimeType : String
  byteSize : Nat
  sha256 : String
  localPath : Path

structure StoredItem where
  itemIndex : Nat
  originalName : String
  mimeType : String
  byteSize : Nat
  sha256 : String
  localPath : Path
  sdkAttachmentKind : SdkAttachmentKind
  inline : Option InlineVariant

/-- A row of `attachment_items`. -/
structure AttachmentItem where
  itemIndex : Nat
  mimeType : String
  byteSize : Nat
  sha256 : String
  localPath : Path
  sdkAttachmentKind : SdkAttachmentKind

inductive ManifestState where
  | preparing
  | ready
  | failed
  | released
  deriving DecidableEq

/-- The row of `attachment_manifests`. -/
structure Manifest where
  sessionId : Option String
  state : ManifestState
  totalBytes : Nat := 0
  retentionUntil : Option ℚ := none
  recoveryPromptHash : Option String := none
  recoveryIdempotencyKey : Option String := none

def StoredItem.row (item : StoredItem) : AttachmentItem :=
  { itemIndex := item.itemIndex
    mimeType := item.mimeType
    byteSize := item.byteSize
    sha256 := item.sha256
    localPath := item.localPath
    sdkAttachmentKind := item.sdkAttachmentKind }

/-- The row of `attachment_inline_variants`; an empty field falls back on the item's. -/
def StoredItem.variant (item : StoredItem) : Option (Nat × InlineVariant) :=
  item.inline.map fun inline =>
    (item.itemIndex,
      { mimeType := if inline.mimeType = "" then item.mimeType else inline.mimeType
        byteSize := if inline.byteSize = 0 then item.byteSize else inline.byteSize
        sha256 := if inline.sha256 = "" then item.sha256 else inline.sha256
        localPath := inline.localPath })

/-! ## The calls -/

structure DiscordAttachment where
  filename : String
  size : Nat
  contentType : Option String := none

/-- The arguments of `prepare`. -/
structure Preparation where
  sessionId : String
  attachments : List DiscordAttachment
  recoveryPromptHash : Option String := none
  recoveryIdempotencyKey : Option String := none

/-- What other tables refer to the manifest: rows of `message_queue` and `submissions`, and those of
them and of `session_creation_intents` that are active. -/
structure References where
  queued : Bool := false
  submitted : Bool := false
  active : Bool := false

/-- Where a `prepare` is. -/
inductive Stage where
  | waiting
  | readingManifest
  | checkingNames (totalBytes : Nat)
  | updatingMetadata (totalBytes : Nat)
  | verifyingState (totalBytes : Nat)
  | verifyingRows (totalBytes : Nat)
  | checking (item : StoredItem) (rest : List StoredItem) (count totalBytes : Nat)
  | rejecting (item : StoredItem)
  | removing
  | beginning
  | makingDirectory
  | reading (stored : List StoredItem) (attachment : DiscordAttachment)
      (rest : List DiscordAttachment)
  | writing (stored : List StoredItem) (item : StoredItem) (content : Content)
      (inlineContent : Option Content) (rest : List DiscordAttachment)
  | writingInline (stored : List StoredItem) (item : StoredItem) (content : Content)
      (rest : List DiscordAttachment)
  | committing (stored : List StoredItem)
  | failing (error : String)

inductive Ended where
  /-- `prepare` without attachments. -/
  | nothing
  | prepared (count totalBytes : Nat)
  | released (count : Nat)
  | removed (count : Nat)
  | raised (error : String)

inductive Call where
  | idle
  | preparing (preparation : Preparation) (stage : Stage)
  /-- `garbage_collect` has selected the manifest. -/
  | collecting (sessionId : String)
  /-- It has removed the directory. -/
  | deleting
  | finished (ended : Ended)

structure World where
  manifest : Option Manifest := none
  items : List AttachmentItem := []
  variants : List (Nat × InlineVariant) := []
  /-- The sessions in which the manifest has a directory. -/
  directories : String → Bool := fun _ => false
  files : Path → Option Content := fun _ => none
  /-- The names of the items in the content store. -/
  names : List (Nat × String) := []
  /-- The call that holds the lock of the manifest. -/
  lock : Option Nat := none
  calls : Nat → Call := fun _ => .idle
  /-- The items that the last `prepare` to end has stored. -/
  prepared : List StoredItem := []

inductive Label where
  | prepare (call : Nat) (preparation : Preparation)
  | acquire (call : Nat)
  /-- What a call waits for comes back. -/
  | goes (call : Nat)
  /-- The content that Discord has sent comes back. -/
  | reads (call : Nat) (content : Content)
  /-- What a call waits for raises; of a directory to be removed `left` remains. -/
  | raises (call : Nat) (error : String) (left : List Path)
  | releaseUnreferenced (call : Nat) (now : ℚ) (references : References)
  | garbageCollect (call : Nat) (now : ℚ) (references : References)
  /-- The process stops and starts again. -/
  | restart

/-! ## Single operations -/

namespace Service

variable (service : Service)

/-- `content_type or "application/octet-stream"`. -/
def mimeType (attachment : DiscordAttachment) : String :=
  match attachment.contentType with
  | none | some "" => "application/octet-stream"
  | some contentType => contentType

/-- `mime_type.startswith("image/")`. -/
def isImage (mimeType : String) : Bool := "image/".toList.isPrefixOf mimeType.toList

def inlineBytes (content : Content) (mimeType : String) :
    Except String (SdkAttachmentKind × Option (Content × String)) :=
  let limit := service.limits.inlineBlobMaxBytes
  if !isImage mimeType then .ok (.file, none)
  else if content.length ≤ limit then .ok (.blob, some (content, mimeType))
  else
    match service.compressImage content mimeType limit with
    | .error error => if service.strictLegacy then .error error else .ok (.file, none)
    | .ok (compressed, compressedMime) =>
      if compressed.length ≤ limit then .ok (.blob, some (compressed, compressedMime))
      else if service.strictLegacy then
        .error "image cannot be reduced below the SDK inline attachment limit"
      else .ok (.file, none)

/-- The error of `_validate_declared_sizes`. -/
def declaredError (attachments : List DiscordAttachment) : Option String :=
  let limits := service.limits
  match attachments.find? fun attachment => limits.fileMaxBytes < attachment.size with
  | some attachment =>
    some s!"{attachment.filename} exceeds the {limits.fileMaxBytes / (1024 * 1024)} MiB file limit"
  | none =>
    if limits.messageMaxBytes < (attachments.map (·.size)).sum then
      some s!"attachments exceed the {limits.messageMaxBytes / (1024 * 1024)} MiB message limit"
    else none

/-- The item of a content that has been read, and the inline bytes that get a file of their own. -/
def item (sessionId : String) (index : Nat) (attachment : DiscordAttachment) (content : Content)
    (kind : SdkAttachmentKind) (inlineBytes : Option (Content × String)) :
    StoredItem × Option Content :=
  let sha256 := service.sha256 content
  let target : Path := { session := sessionId, index, sha256 }
  let separate := inlineBytes.any fun inline => inline.1 ≠ content
  ({ itemIndex := index
     originalName := attachment.filename
     mimeType := mimeType attachment
     byteSize := content.length
     sha256
     localPath := target
     sdkAttachmentKind := kind
     inline := inlineBytes.map fun inline =>
       { mimeType := inline.2
         byteSize := inline.1.length
         sha256 := service.sha256 inline.1
         localPath := { target with inline := separate } } },
    if separate then inlineBytes.map (·.1) else none)

/-- A file has the size and the digest that are on record. -/
def intact (files : Path → Option Content) (path : Path) (byteSize : Nat) (sha256 : String) :
    Bool :=
  (files path).any fun content => content.length = byteSize && service.sha256 content = sha256

def matchesIntegrity (files : Path → Option Content) (item : StoredItem) : Bool :=
  service.intact files item.localPath item.byteSize item.sha256 &&
    item.inline.all fun inline =>
      service.intact files inline.localPath inline.byteSize inline.sha256

end Service

/-- The next stage of the loop of `_download_all`. -/
def proceed (stored : List StoredItem) : List DiscordAttachment → Stage
  | [] => .committing stored
  | attachment :: rest => .reading stored attachment rest

/-- `release_unreferenced` selects the manifest. -/
def Manifest.releases (manifest : Manifest) (references : References) : Bool :=
  (manifest.state = .ready || manifest.state = .failed) && !references.active &&
    (manifest.state = .failed || manifest.recoveryIdempotencyKey.isNone || references.queued ||
      references.submitted)

/-- `garbage_collect` selects the manifest. -/
def Manifest.collects (manifest : Manifest) (now : ℚ) (references : References) : Bool :=
  manifest.state = .released && (manifest.retentionUntil.any fun until_ => until_ ≤ now) &&
    !references.active

namespace World

variable (service : Service) (world : World)

def become (call : Nat) (next : Call) : World :=
  { world with calls := Function.update world.calls call next }

/-- A `prepare` goes on. -/
def reaches (call : Nat) (preparation : Preparation) (stage : Stage) : World :=
  world.become call (.preparing preparation stage)

/-- A `prepare` leaves the lock. -/
def leaves (call : Nat) (ended : Ended) : World :=
  { world.become call (.finished ended) with lock := none }

/-- `_remove_manifest_directory`. -/
def removed (sessionId : String) : World :=
  { world with
    directories := Function.update world.directories sessionId false
    files := fun path => if path.session = sessionId then none else world.files path }

def partlyRemoved (sessionId : String) (left : List Path) : World :=
  { world with
    files := fun path =>
      if path.session = sessionId ∧ path ∉ left then none else world.files path }

def written (path : Path) (content : Content) : World :=
  { world with files := Function.update world.files path (some content) }

/-- `_delete_attachment_name_keys`. -/
def namesDeleted : World :=
  { world with
    names := world.items.foldl (fun names item => Dict.pop item.itemIndex names) world.names }

/-- The names, the rows and their variants are deleted. -/
def itemsDeleted : World := { world.namesDeleted with items := [], variants := [] }

/-- `state = 'failed'`. -/
def failed : World :=
  { world with manifest := world.manifest.map fun manifest => { manifest with state := .failed } }

/-- The transaction of `_begin_manifest`. -/
def begun (preparation : Preparation) : World :=
  { world.itemsDeleted with
    manifest := some
      { sessionId := some preparation.sessionId
        state := .preparing
        recoveryPromptHash :=
          (world.manifest.bind (·.recoveryPromptHash)).or preparation.recoveryPromptHash
        recoveryIdempotencyKey :=
          preparation.recoveryIdempotencyKey.or
            (world.manifest.bind (·.recoveryIdempotencyKey)) } }

/-- The transaction of `_commit_items`; two items of one index violate the primary key. -/
def committed (stored : List StoredItem) : Option World :=
  let items := world.items ++ stored.map StoredItem.row
  if (items.map (·.itemIndex)).Nodup then
    some { world with
      names := stored.foldl
        (fun names item => Dict.set item.itemIndex item.originalName names) world.names
      items
      variants := world.variants ++ stored.filterMap StoredItem.variant
      manifest := world.manifest.map fun manifest =>
        if manifest.state = .preparing then
          { manifest with
            state := .ready
            totalBytes := (stored.map (·.byteSize)).sum
            retentionUntil := none }
        else manifest
      prepared := stored }
  else none

/-- `_update_recovery_metadata`. -/
def metadataUpdated (preparation : Preparation) : World :=
  { world with
    manifest := world.manifest.map fun manifest =>
      { manifest with
        recoveryPromptHash := manifest.recoveryPromptHash.or preparation.recoveryPromptHash
        recoveryIdempotencyKey :=
          preparation.recoveryIdempotencyKey.or manifest.recoveryIdempotencyKey } }

/-- `_attachment_names_available`. -/
def namesAvailable : Bool :=
  !world.items.isEmpty && world.items.all fun item => (Dict.get item.itemIndex world.names).isSome

/-- An item as `_verified_items` reads it back, under its name. -/
def readBack (item : AttachmentItem) (originalName : String) : StoredItem :=
  { itemIndex := item.itemIndex
    originalName
    mimeType := item.mimeType
    byteSize := item.byteSize
    sha256 := item.sha256
    localPath := item.localPath
    sdkAttachmentKind := item.sdkAttachmentKind
    inline :=
      match world.variants.find? fun variant => variant.1 = item.itemIndex with
      | some (_, variant) => some variant
      | none =>
        match item.sdkAttachmentKind with
        | .blob => some
            { mimeType := item.mimeType
              byteSize := item.byteSize
              sha256 := item.sha256
              localPath := item.localPath }
        | .file => none }

/-- The items that `_verified_items` checks; an item without a name raises. -/
def verifiedItems : Option (List StoredItem) :=
  world.items.mapM fun item => (Dict.get item.itemIndex world.names).map (world.readBack item)

/-- The loop of `_verified_items` goes on, or `prepare` returns. -/
def verifies (call : Nat) (preparation : Preparation) (count totalBytes : Nat) :
    List StoredItem → World
  | [] => world.leaves call (.prepared count totalBytes)
  | item :: rest => world.reaches call preparation (.checking item rest count totalBytes)

/-- What a `prepare` waits for comes back. -/
def goesOn (call : Nat) (preparation : Preparation) : Stage → Option World
  | .waiting | .reading .. => none
  | .readingManifest =>
    match world.manifest with
    | none => some (world.reaches call preparation .removing)
    | some manifest =>
      if manifest.recoveryPromptHash.isSome ∧ preparation.recoveryPromptHash.isSome ∧
          manifest.recoveryPromptHash ≠ preparation.recoveryPromptHash then
        some (world.leaves call (.raised "source_hash_mismatch"))
      else if manifest.state = .ready then
        some (world.reaches call preparation (.checkingNames manifest.totalBytes))
      else some (world.reaches call preparation .removing)
  | .checkingNames totalBytes =>
    some (world.reaches call preparation
      (if world.namesAvailable then .updatingMetadata totalBytes else .removing))
  | .updatingMetadata totalBytes =>
    some ((world.metadataUpdated preparation).reaches call preparation (.verifyingState totalBytes))
  | .verifyingState totalBytes =>
    if world.manifest.any fun manifest => manifest.state = .ready then
      some (world.reaches call preparation (.verifyingRows totalBytes))
    else
      some (world.leaves call
        (.raised s!"attachment manifest is not ready: {service.manifestId}"))
  | .verifyingRows totalBytes =>
    match world.verifiedItems with
    | some items => some (world.verifies call preparation items.length totalBytes items)
    | none =>
      some (world.leaves call
        (.raised "attachment display metadata requires source refetch"))
  | .checking item rest count totalBytes =>
    if service.matchesIntegrity world.files item then
      some (world.verifies call preparation count totalBytes rest)
    else some (world.reaches call preparation (.rejecting item))
  | .rejecting item =>
    some (world.failed.leaves call
      (.raised s!"attachment integrity check failed: {item.originalName}"))
  | .removing =>
    some ((world.removed preparation.sessionId).reaches call preparation .beginning)
  | .beginning =>
    some ((world.begun preparation).reaches call preparation
      (match service.declaredError preparation.attachments with
      | none => .makingDirectory
      | some error => .failing error))
  | .makingDirectory =>
    some ({ world with
        directories := Function.update world.directories preparation.sessionId true }.reaches
      call preparation (proceed [] preparation.attachments))
  | .writing stored item content inlineContent rest =>
    if world.directories preparation.sessionId then
      some ((world.written item.localPath content).reaches call preparation
        (match inlineContent with
        | some inlineContent => .writingInline stored item inlineContent rest
        | none => proceed (stored ++ [item]) rest))
    else none
  | .writingInline stored item content rest =>
    if world.directories preparation.sessionId then
      some ((world.written { item.localPath with inline := true } content).reaches call
        preparation (proceed (stored ++ [item]) rest))
    else none
  | .committing stored =>
    (world.committed stored).map fun after =>
      after.leaves call
        (.prepared stored.length (stored.map (·.byteSize)).sum)
  | .failing error => some (world.failed.leaves call (.raised error))

def contentRead (call : Nat) (preparation : Preparation) (stored : List StoredItem)
    (attachment : DiscordAttachment) (rest : List DiscordAttachment) (content : Content) : World :=
  let limits := service.limits
  world.reaches call preparation <|
    if limits.fileMaxBytes < content.length then
      .failing s!"{attachment.filename} exceeds the actual file limit"
    else if limits.messageMaxBytes < (stored.map (·.byteSize)).sum + content.length then
      .failing "actual attachments exceed the message limit"
    else
      match service.inlineBytes content (Service.mimeType attachment) with
      | .error error => .failing error
      | .ok (kind, inlineBytes) =>
        let (item, inlineContent) :=
          service.item preparation.sessionId stored.length attachment content kind inlineBytes
        .writing stored item content inlineContent rest

/-- What a `prepare` waits for raises: from `_begin_manifest` on the manifest fails. -/
def raised (call : Nat) (preparation : Preparation) (error : String) (left : List Path) :
    Stage → Option World
  | .waiting => none
  | .readingManifest | .checkingNames _ | .updatingMetadata _ | .verifyingState _
  | .verifyingRows _ | .checking .. | .rejecting _ | .failing _ =>
    some (world.leaves call (.raised error))
  | .removing =>
    some ((world.partlyRemoved preparation.sessionId left).reaches call preparation
      (.failing error))
  | .beginning | .makingDirectory | .reading .. | .writing .. | .writingInline ..
  | .committing _ => some (world.reaches call preparation (.failing error))

/-- The transaction of `release_unreferenced`. -/
def released (manifest : Manifest) (now : ℚ) : World :=
  { world.namesDeleted with
    manifest := some
      { manifest with
        state := .released
        retentionUntil := some (now + service.retentionSeconds) } }

/-- The transaction of `garbage_collect`. -/
def collected : World :=
  { world.itemsDeleted with
    manifest := world.manifest.map fun manifest =>
      if manifest.state = .released then
        { manifest with totalBytes := 0, retentionUntil := none }
      else manifest }

def step : Label → Option World
  | .prepare call preparation =>
    match world.calls call with
    | .idle =>
      if preparation.attachments = [] then some (world.become call (.finished .nothing))
      else some (world.reaches call preparation .waiting)
    | _ => none
  | .acquire call =>
    match world.calls call, world.lock with
    | .preparing preparation .waiting, none =>
      some { world.reaches call preparation .readingManifest with lock := some call }
    | _, _ => none
  | .goes call =>
    match world.calls call with
    | .preparing preparation stage => world.goesOn service call preparation stage
    | .collecting sessionId => some ((world.removed sessionId).become call .deleting)
    | .deleting => some (world.collected.become call (.finished (.removed 1)))
    | .idle | .finished _ => none
  | .reads call content =>
    match world.calls call with
    | .preparing preparation (.reading stored attachment rest) =>
      some (world.contentRead service call preparation stored attachment rest content)
    | _ => none
  | .raises call error left =>
    match world.calls call with
    | .preparing preparation stage => world.raised call preparation error left stage
    -- The error of the removal is put on record.
    | .collecting sessionId =>
      some ((world.partlyRemoved sessionId left).become call (.finished (.removed 0)))
    | .deleting => some (world.become call (.finished (.raised error)))
    | .idle | .finished _ => none
  | .releaseUnreferenced call now references =>
    match world.calls call with
    | .idle =>
      match world.manifest with
      | some manifest =>
        if manifest.releases references then
          some ((world.released service manifest now).become call (.finished (.released 1)))
        else some (world.become call (.finished (.released 0)))
      | none => some (world.become call (.finished (.released 0)))
    | _ => none
  | .garbageCollect call now references =>
    match world.calls call with
    | .idle =>
      match world.manifest.filter fun manifest => manifest.collects now references with
      | some { sessionId := some sessionId, .. } =>
        some (world.become call (.collecting sessionId))
      | _ => some (world.become call (.finished (.removed 0)))
    | _ => none
  | .restart => some { world with names := [], lock := none, calls := fun _ => .idle }

end World

end Copilotd.Source.Core.AttachmentManifests
