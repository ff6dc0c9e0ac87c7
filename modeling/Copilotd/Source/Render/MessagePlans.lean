import Copilotd.Source.Render.Markdown

/-!
# `render/markdown.py`: `plan_markdown_messages` and `MarkdownAssembler`

The blocks are merged into segments, a block that is too long becomes an attachment
with a summary.  A table candidate has no `raw`, so `_node_raw` raises for it.
-/
namespace Copilotd.Source.Render.MessagePlans
open Base.PlainText Source.Render.Markdown

def continuationMarker : Text := "… continued …\n".toList

structure MarkdownAttachmentPlan where
  filename : Text
  mediaType : String
  content : Text
  blockKind : String
  span : MarkdownSpan
  deriving DecidableEq

structure MarkdownMessageSegment where
  content : Text
  spans : List MarkdownSpan
  attachments : List MarkdownAttachmentPlan
  deriving DecidableEq

structure MarkdownMessagePlan where
  segments : List MarkdownMessageSegment
  sourceHash : Text
  blockCount : Nat
  truncated : Bool
  deriving DecidableEq

def nodeRaw : MarkdownAstNode → Except String Text
  | .paragraph _ raw _ | .listBlock _ _ raw _ | .blockquote _ raw _ | .fence _ _ _ raw _
  | .thematicBreak raw _ => .ok raw
  | .tableCandidate _ => .error "'MarkdownTableCandidate' object has no attribute 'raw'"

/-- `node.__class__.__name__` -/
def className : MarkdownAstNode → String
  | .paragraph .. => "MarkdownParagraph"
  | .listBlock .. => "MarkdownListBlock"
  | .blockquote .. => "MarkdownBlockquote"
  | .fence .. => "MarkdownFence"
  | .thematicBreak .. => "MarkdownThematicBreak"
  | .tableCandidate .. => "MarkdownTableCandidate"

def summarizeBlock : MarkdownAstNode → Text
  | .fence fence .. => "[".toList ++ fence.take 3 ++ " fence block]".toList
  | .blockquote .. => "[blockquote attached]".toList
  | .listBlock .. => "[list attached]".toList
  | .tableCandidate .. => "[table attached]".toList
  | .thematicBreak .. => "[thematic break attached]".toList
  | .paragraph .. => "[markdown block attached]".toList

/-- `f"markdown-block-{block_index:03d}.md"` -/
def blockFilename (blockIndex : Nat) : Text :=
  let digits := Nat.toDigits 10 blockIndex
  "markdown-block-".toList ++ List.replicate (3 - digits.length) '0' ++ digits ++ ".md".toList

/-- The text of a segment whose block is attached. -/
def attachedContent (blockIndex : Nat) (block : MarkdownAstNode) : Text :=
  summarizeBlock block ++ " [".toList ++ blockFilename blockIndex ++ "]".toList

/-- The local variables of the loop. -/
structure Planner where
  segments : List MarkdownMessageSegment
  currentContent : Text
  currentSpans : List MarkdownSpan
  currentAttachments : List MarkdownAttachmentPlan

def Planner.flush (planner : Planner) : Planner where
  segments :=
    if planner.currentContent ≠ [] ∨ planner.currentAttachments ≠ [] then
      planner.segments ++ [⟨planner.currentContent.rdropWhile isSpace, planner.currentSpans,
        planner.currentAttachments⟩]
    else planner.segments
  currentContent := []
  currentSpans := []
  currentAttachments := []

def Planner.continuation (planner : Planner) : Text :=
  if planner.segments ≠ [] ∨ planner.currentContent ≠ [] then continuationMarker else []

def Planner.candidate (planner : Planner) (raw : Text) : Text :=
  if planner.currentContent = [] then planner.continuation ++ raw
  else planner.currentContent ++ '\n' :: raw

/-- A block that is too long is attached to a segment of its own. -/
def Planner.attach (planner : Planner) (blockIndex : Nat) (block : MarkdownAstNode) (raw : Text) :
    Planner :=
  { planner.flush with
    segments := planner.flush.segments ++ [{
      content := attachedContent blockIndex block
      spans := [block.span]
      attachments :=
        [⟨blockFilename blockIndex, "text/markdown", raw, className block, block.span⟩] }] }

/-- A block that does not fit into the open segment begins the next one. -/
def Planner.begin (planner : Planner) (block : MarkdownAstNode) (raw : Text) : Planner :=
  { planner.flush with
    currentContent := planner.continuation ++ raw
    currentSpans := [block.span] }

def Planner.extend (planner : Planner) (block : MarkdownAstNode) (raw : Text) : Planner :=
  { planner with
    currentContent :=
      if planner.currentContent = [] ∧ planner.continuation ≠ [] then planner.continuation ++ raw
      else planner.candidate raw
    currentSpans := planner.currentSpans ++ [block.span] }

/-- One round of the loop over the blocks. -/
def placeBlock (maxChars blockIndex : Nat) (planner : Planner) (block : MarkdownAstNode) :
    Except String Planner :=
  (nodeRaw block).map fun raw =>
    let raw := raw.rdropWhile (· = '\n')
    if raw.length > maxChars then planner.attach blockIndex block raw
    else if (planner.candidate raw).length > maxChars then planner.begin block raw
    else planner.extend block raw

/-- The loop over the blocks from the given number on. -/
def placeBlocks (maxChars : Nat) : Nat → Planner → List MarkdownAstNode → Except String Planner
  | _, planner, [] => .ok planner
  | blockIndex, planner, block :: blocks => do
    let planner ← placeBlock maxChars blockIndex planner block
    placeBlocks maxChars (blockIndex + 1) planner blocks

def planMarkdownMessages (library : Library) (source : Text) (maxChars : Nat) :
    Except String MarkdownMessagePlan := do
  if maxChars < 1 then throw "max_chars must be positive"
  let blocks ← parseMarkdownBlocks library source
  let planner ← placeBlocks maxChars 1 ⟨[], [], [], []⟩ blocks
  let segments := planner.flush.segments
  return {
    segments
    sourceHash := library.sha256 source
    blockCount := blocks.length
    truncated := segments.any fun segment => segment.attachments ≠ [] }

/-! ## `MarkdownAssembler` -/

/-- `TextBlock` and `TableBlock` -/
inductive MarkdownBlock where
  | text (content : Text) (span : MarkdownSpan)
  | table (markdown : Text) (span : MarkdownSpan) (sourceHash : Text) (rawLines : List Text)

/-- The block of a node; `_node_raw` raises for tables only. -/
def MarkdownBlock.ofNode : MarkdownAstNode → Option MarkdownBlock
  | .tableCandidate candidate =>
    some (.table candidate.markdown candidate.span candidate.sourceHash
      (splitlines candidate.markdown))
  | node => (nodeRaw node).toOption.bind fun raw =>
      if raw = [] then none else some (.text raw node.span)

/-- `content`, or `markdown` of a table -/
def MarkdownBlock.content : MarkdownBlock → Text
  | .text content _ => content
  | .table markdown .. => markdown

structure MarkdownAssembler where
  source : Text := []
  finalized : Bool := false

/-- `append`, which returns no blocks. -/
def MarkdownAssembler.append (assembler : MarkdownAssembler) (delta : Text) :
    Except String MarkdownAssembler :=
  if assembler.finalized then .error "markdown assembler is already finalized"
  else .ok { assembler with source := assembler.source ++ delta }

def MarkdownAssembler.finalize (library : Library) (assembler : MarkdownAssembler)
    (canonicalContent : Option Text) : Except String (List MarkdownBlock × MarkdownAssembler) := do
  if assembler.finalized then return ([], assembler)
  let source ← match canonicalContent with
    | none => pure assembler.source
    | some content =>
      -- the source and its suffix; a text that does not go on with it is another one
      if assembler.source <+: content then pure content
      else throw "canonical content diverged from already streamed markdown"
  let nodes ← parseMarkdownBlocks library source
  return (nodes.filterMap MarkdownBlock.ofNode, ⟨source, true⟩)

end Copilotd.Source.Render.MessagePlans
