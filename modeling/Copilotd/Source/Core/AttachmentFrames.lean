import Mathlib.Algebra.Order.Group.Int
import Copilotd.Base.JsonText
import Copilotd.Base.Pool

/-!
# Attachments of a send

Source: `core/attachments.py` (`sdk_attachments_for_send` from the verified items on,
`_load_inline_blob`, `_load_file_attachment`, `_downgrade_blobs_by_savings`,
`sdk_send_frame_size`).

The contents of the files, which the verification has just read, and the trace context, which comes
from the SDK, are parameters.  The fields of an item that only its verification reads are left out.
-/
namespace Copilotd.Source.Core.AttachmentFrames

open Base

/-- An item as `_verified_items` builds it: without an inline variant a blob's inline path is its
local path. -/
structure StoredItem where
  originalName : String
  mimeType : String
  localPath : String
  sdkAttachmentKind : String
  inlinePath : Option String
  inlineMimeType : Option String
  inline_of_blob : sdkAttachmentKind = "blob" → inlinePath.isSome

/-- The dictionaries that are sent. -/
inductive SdkAttachment where
  | blob (data mimeType displayName : String)
  | file (path displayName : String)
  deriving DecidableEq

def SdkAttachment.isBlob : SdkAttachment → Bool
  | .blob .. => true
  | .file .. => false

def SdkAttachment.value : SdkAttachment → Json
  | .blob data mimeType displayName =>
    .dict [("type", .str "blob"), ("data", .str data), ("mimeType", .str mimeType),
      ("displayName", .str displayName)]
  | .file path displayName =>
    .dict [("type", .str "file"), ("path", .str path), ("displayName", .str displayName)]

/-! ## The forms of an item -/

def base64Digit (n : Nat) : Char :=
  "ABCDEFGHIJKLMNOPQRSTUVWXYZabcdefghijklmnopqrstuvwxyz0123456789+/".toList.getD n 'A'

/-- `base64.b64encode(content).decode("ascii")`. -/
def b64encode : List UInt8 → List Char
  | [] => []
  | [a] => [base64Digit (a.toNat / 4), base64Digit (a.toNat % 4 * 16), '=', '=']
  | [a, b] =>
    [base64Digit (a.toNat / 4), base64Digit (a.toNat % 4 * 16 + b.toNat / 16),
      base64Digit (b.toNat % 16 * 4), '=']
  | a :: b :: c :: rest =>
    base64Digit (a.toNat / 4) :: base64Digit (a.toNat % 4 * 16 + b.toNat / 16) ::
      base64Digit (b.toNat % 16 * 4 + c.toNat / 64) :: base64Digit (c.toNat % 64) :: b64encode rest

variable (readBytes : String → List UInt8)

def loadInlineBlob (item : StoredItem) : Except String SdkAttachment :=
  match item.inlinePath with
  | none => .error ("inline variant is missing: " ++ item.originalName)
  | some path =>
    .ok (.blob (String.ofList (b64encode (readBytes path)))
      (match item.inlineMimeType with
      | none | some "" => item.mimeType
      | some mimeType => mimeType)
      item.originalName)

def loadFileAttachment (item : StoredItem) : SdkAttachment :=
  .file item.localPath item.originalName

/-! ## The size of a frame -/

/-- The arguments of `session.send` besides the attachments. -/
structure Send where
  sessionId : String
  prompt : String
  mode : Option String
  agentMode : Option String
  traceContext : List (String × String)

/-- `params[key] = value`, unless the value is `None`. -/
def setText (key : String) (value : Option String) (params : List (String × Json)) :
    List (String × Json) :=
  match value with
  | none => params
  | some text => Dict.set key (.str text) params

def sendParams (send : Send) (attachments : Option Json) : List (String × Json) :=
  let params := [("sessionId", .str send.sessionId), ("prompt", .str send.prompt)]
  let params :=
    match attachments with
    | none => params
    | some value => Dict.set "attachments" value params
  Dict.update (setText "agentMode" send.agentMode (setText "mode" send.mode params))
    (send.traceContext.map fun entry => (entry.1, .str entry.2))

def sendMessage (send : Send) (attachments : Option Json) : Json :=
  .dict [("jsonrpc", .str "2.0"), ("id", .str "00000000-0000-0000-0000-000000000000"),
    ("method", .str "session.send"), ("params", .dict (sendParams send attachments))]

/-- The size of a message with its header. -/
def framed (contentBytes : Nat) : Nat :=
  ("Content-Length: " ++ toString contentBytes ++ "\r\n\r\n").utf8ByteSize + contentBytes

def sdkSendFrameSize (send : Send) (attachments : Option (List SdkAttachment)) : Nat :=
  framed (sendMessage send (attachments.map fun values =>
    .list (values.map SdkAttachment.value))).size

/-! ## The downgrade -/

section
variable (size : List SdkAttachment → Nat) (items : List StoredItem) (current : List SdkAttachment)
  (currentSize : Nat)

structure Best where
  index : Option Nat
  size : Nat
  saving : Int

/-- The list with the item at the index as a file. -/
def withFile (index : Nat) : List SdkAttachment :=
  match items[index]? with
  | none => current
  | some item => current.set index (loadFileAttachment item)

/-- The index is that of a blob. -/
def downgradable (index : Nat) : Bool :=
  index < items.length ∧ current[index]?.any SdkAttachment.isBlob

/-- One pass of the `for` loop. -/
def consider (best : Best) (index : Nat) : Best :=
  if downgradable items current index then
    let candidateSize := size (withFile items current index)
    let saving : Int := currentSize - candidateSize
    if saving > best.saving then { index := some index, size := candidateSize, saving } else best
  else best

def bestDowngrade : Best :=
  (List.range current.length).foldl (consider size items current currentSize)
    { index := none, size := currentSize, saving := 0 }

variable {size items current currentSize}

variable (size items current currentSize) in
theorem foldl_consider (indices : List Nat) (start : Best) :
    ∃ best, indices.foldl (consider size items current currentSize) start = best ∧
      start.saving ≤ best.saving ∧
      (∀ index ∈ indices, downgradable items current index = true →
        (currentSize : Int) - size (withFile items current index) ≤ best.saving) ∧
      (best = start ∨ start.saving < best.saving ∧ ∃ index,
        downgradable items current index = true ∧ best.index = some index ∧
        best.size = size (withFile items current index) ∧
        best.saving = currentSize - size (withFile items current index)) := by
  induction indices generalizing start with
  | nil => exact ⟨start, rfl, le_refl _, by simp, .inl rfl⟩
  | cons index indices ih =>
    obtain ⟨best, folded, more, all, origin⟩ :=
      ih (consider size items current currentSize start index)
    refine ⟨best, folded, ?_⟩
    rw [consider] at more origin
    by_cases blob : downgradable items current index = true
    · rw [if_pos blob] at more origin
      by_cases better : (currentSize : Int) - size (withFile items current index) > start.saving
      · rw [if_pos better] at more origin
        refine ⟨le_of_lt (lt_of_lt_of_le better more), ?_, .inr ?_⟩
        · rintro other (_ | ⟨_, member⟩) isBlob
          · exact more
          · exact all other member isBlob
        · rcases origin with rfl | ⟨larger, found⟩
          · exact ⟨better, index, blob, rfl, rfl, rfl⟩
          · exact ⟨lt_trans better larger, found⟩
      · rw [if_neg better] at more origin
        refine ⟨more, ?_, origin⟩
        rintro other (_ | ⟨_, member⟩) isBlob
        · exact (not_lt.mp better).trans more
        · exact all other member isBlob
    · rw [if_neg blob] at more origin
      refine ⟨more, ?_, origin⟩
      rintro other (_ | ⟨_, member⟩) isBlob
      · exact absurd isBlob blob
      · exact all other member isBlob

theorem downgradable_lt {index : Nat} (blob : downgradable items current index = true) :
    index < items.length ∧ index < current.length := by
  simp only [downgradable, decide_eq_true_eq, Option.any_eq_true] at blob
  obtain ⟨inItems, value, found, _⟩ := blob
  exact ⟨inItems, (List.getElem?_eq_some_iff.mp found).1⟩

theorem bestDowngrade_some {index : Nat}
    (found : (bestDowngrade size items current currentSize).index = some index) :
    downgradable items current index = true ∧
      (bestDowngrade size items current currentSize).size = size (withFile items current index) ∧
      size (withFile items current index) < currentSize ∧
      ∀ other, downgradable items current other = true →
        size (withFile items current index) ≤ size (withFile items current other) := by
  obtain ⟨best, folded, _, all, origin⟩ :=
    foldl_consider size items current currentSize (List.range current.length)
      { index := none, size := currentSize, saving := 0 }
  rw [bestDowngrade, folded] at found ⊢
  rcases origin with rfl | ⟨positive, chosen, blob, same, measured, saved⟩
  · cases found
  · rw [found] at same
    cases same
    have less : size (withFile items current index) < currentSize := by
      dsimp only at positive
      omega
    refine ⟨blob, measured, less, ?_⟩
    intro other isBlob
    have bound := all other (List.mem_range.mpr (downgradable_lt isBlob).2) isBlob
    omega

theorem bestDowngrade_none
    (none : (bestDowngrade size items current currentSize).index = none) {other : Nat}
    (isBlob : downgradable items current other = true) :
    currentSize ≤ size (withFile items current other) := by
  obtain ⟨best, folded, _, all, origin⟩ :=
    foldl_consider size items current currentSize (List.range current.length)
      { index := .none, size := currentSize, saving := 0 }
  rw [bestDowngrade, folded] at none
  rcases origin with rfl | ⟨_, chosen, _, same, _⟩
  · have bound := all other (List.mem_range.mpr (downgradable_lt isBlob).2) isBlob
    dsimp only at bound
    omega
  · rw [none] at same
    cases same

theorem withFile_blobs {index : Nat} (blob : downgradable items current index = true) :
    (withFile items current index).countP SdkAttachment.isBlob <
      current.countP SdkAttachment.isBlob := by
  obtain ⟨inItems, inCurrent⟩ := downgradable_lt blob
  simp only [downgradable, decide_eq_true_eq, Option.any_eq_true] at blob
  obtain ⟨_, value, found, isBlob⟩ := blob
  have counted := Pool.countP_set found (loadFileAttachment items[index]) SdkAttachment.isBlob
  have file : (loadFileAttachment items[index]).isBlob = false := rfl
  rw [isBlob, file] at counted
  have replaced : withFile items current index =
      current.set index (loadFileAttachment items[index]) := by
    unfold withFile
    rw [List.getElem?_eq_getElem inItems]
  rw [replaced]
  simp only [if_true, Bool.false_eq_true, if_false] at counted
  omega

variable (size items)

/-- The `while` loop. -/
def downgradeLoop (budget : Int) (current : List SdkAttachment) (currentSize : Nat) :
    List SdkAttachment × Nat :=
  if currentSize ≤ budget then (current, currentSize)
  else
    match _found : (bestDowngrade size items current currentSize).index with
    | none => (current, currentSize)
    | some index =>
      downgradeLoop budget (withFile items current index)
        (bestDowngrade size items current currentSize).size
termination_by current.countP SdkAttachment.isBlob
decreasing_by exact withFile_blobs (bestDowngrade_some _found).1

def downgradeBlobsBySavings (values : List SdkAttachment) (budget : Int) :
    List SdkAttachment × Nat :=
  downgradeLoop size items budget values (size values)

end

/-- The error of `sdk_attachments_for_send`. -/
def frameLimitError : String := "complete serialized session.send frame exceeds the runtime limit"

/-- `sdk_attachments_for_send`, with the verified items and the resolved frame limit. -/
def sdkAttachmentsForSend (items : List StoredItem) (send : Send)
    (serializedFrameMaxBytes : Int) : Except String (List SdkAttachment) := do
  let attachments ← items.mapM fun item =>
    if item.sdkAttachmentKind = "blob" then loadInlineBlob readBytes item
    else .ok (loadFileAttachment item)
  let fullFrameSize := fun values => sdkSendFrameSize send (some values)
  let (attachments, frameSize) :=
    downgradeBlobsBySavings fullFrameSize items attachments serializedFrameMaxBytes
  if frameSize > serializedFrameMaxBytes then .error frameLimitError
  else .ok attachments

end Copilotd.Source.Core.AttachmentFrames
