import Copilotd.Base.PlainText

/-!
# `render/markdown.py`: block parsing and message planning

`parse_markdown_blocks` with its consumers, the table grammar, and
`plan_markdown_messages`.  The consumers take the lines from the block's first line
on and return the number of lines they consumed; the regular expressions are
written out.  `\d` and SHA-256 come from Python's library.  A string is a list of
Unicode scalar values.
-/
namespace Copilotd.Source.Render.Markdown
open Base.PlainText

/-- What the code takes from Python's library: `\d`, and `hashlib.sha256`. -/
structure Library where
  isDecimal : Char → Bool
  sha256 : Text → Text

structure MarkdownSpan where
  startLine : Nat
  endLine : Nat
  deriving DecidableEq

structure MarkdownListItem where
  marker : Text
  body : Text
  raw : Text
  span : MarkdownSpan
  continuationLines : List Text
  deriving DecidableEq

structure MarkdownTableCandidate where
  markdown : Text
  span : MarkdownSpan
  headers : List Text
  alignments : List String
  rows : List (List Text)
  rawHeaders : List Text
  rawRows : List (List Text)
  sourceHash : Text
  deriving DecidableEq

inductive MarkdownAstNode where
  | paragraph (text raw : Text) (span : MarkdownSpan)
  | listBlock (ordered : Bool) (items : List MarkdownListItem) (raw : Text) (span : MarkdownSpan)
  | blockquote (lines : List Text) (raw : Text) (span : MarkdownSpan)
  | fence (fence info code raw : Text) (span : MarkdownSpan)
  | thematicBreak (raw : Text) (span : MarkdownSpan)
  | tableCandidate (table : MarkdownTableCandidate)
  deriving DecidableEq

/-- `_node_span` -/
def MarkdownAstNode.span : MarkdownAstNode → MarkdownSpan
  | .paragraph _ _ span | .listBlock _ _ _ span | .blockquote _ _ span | .fence _ _ _ _ span
  | .thematicBreak _ span => span
  | .tableCandidate table => table.span

/-- `isinstance(node, MarkdownTableCandidate)` -/
def MarkdownAstNode.isTable : MarkdownAstNode → Bool
  | .tableCandidate _ => true
  | _ => false

/-! ## Lines -/

/-- `"\n".join(lines)` -/
def joinLines (lines : List Text) : Text := ['\n'].intercalate lines

def stripNewline (value : Text) : Text :=
  if value.getLast? = some '\n' then value.dropLast else value

/-- `_indent_width`: the length after `expandtabs(4)`, of a text without line ends. -/
def indentWidth (value : Text) : Nat :=
  value.foldl (fun width c => if c = '\t' then width + (4 - width % 4) else width + 1) 0

/-- `_LIST_ITEM_RE`: the indent, the marker and the body. -/
def listItem (library : Library) (text : Text) : Option (Text × Text × Text) :=
  let rest := text.dropWhile isBlank
  let marked := match rest with
    | [] => none
    | c :: after =>
      if c ∈ ['*', '+', '-'] then some ([c], after)
      else
        let digits := rest.takeWhile library.isDecimal
        match rest.dropWhile library.isDecimal with
        | d :: after =>
          if digits ≠ [] ∧ d ∈ ['.', ')'] then some (digits ++ [d], after) else none
        | [] => none
  marked.bind fun (marker, after) =>
    if after.takeWhile isBlank = [] then none
    else some (text.takeWhile isBlank, marker, after.dropWhile isBlank)

/-- `_FENCE_RE`: the fence and the info. -/
def fenceOpening (text : Text) : Option (Text × Text) :=
  match text.dropWhile isBlank with
  | c :: rest =>
    let fence := (c :: rest).takeWhile (· = c)
    if (c = '`' ∨ c = '~') ∧ 3 ≤ fence.length then
      some (fence, (c :: rest).dropWhile (· = c))
    else none
  | [] => none

/-- The line that ends a fence: as many of its characters or more, and blanks. -/
def closesFence (character : Char) (length : Nat) (text : Text) : Bool :=
  let rest := text.dropWhile isBlank
  length ≤ (rest.takeWhile (· = character)).length ∧
    (rest.dropWhile (· = character)).all isBlank = true

/-- `_BLOCKQUOTE_RE`: the body. -/
def blockquoteBody (text : Text) : Option Text :=
  match text.dropWhile isBlank with
  | '>' :: c :: body => if isBlank c then some body else some (c :: body)
  | ['>'] => some []
  | _ => none

/-- `_THEMATIC_BREAK_RE` -/
def isThematicBreak (text : Text) : Bool :=
  match text.dropWhile isBlank with
  | c :: rest =>
    c ∈ ['*', '-', '_'] ∧ 3 ≤ ((c :: rest).takeWhile (· = c)).length ∧
      ((c :: rest).dropWhile (· = c)).all isBlank = true
  | [] => false

/-! ## Tables -/

/-- `_DELIMITER_CELL` -/
def isDelimiterCell (cell : Text) : Bool :=
  let rest := if cell.head? = some ':' then cell.tail else cell
  3 ≤ (rest.takeWhile (· = '-')).length ∧
    (rest.dropWhile (· = '-') = [] ∨ rest.dropWhile (· = '-') = [':'])

/-- The character loop of `split_table_row`; `skip` ticks of a run are already done. -/
def splitCells : Text → (current : Text) → (escaped : Bool) → (codeTicks skip : Nat) → List Text
  | [], current, _, _, _ => [strip current]
  | _ :: rest, current, escaped, codeTicks, skip + 1 =>
    splitCells rest current escaped codeTicks skip
  | c :: rest, current, escaped, codeTicks, 0 =>
    if escaped then splitCells rest (current ++ [c]) false codeTicks 0
    else if c = '\\' then splitCells rest (current ++ [c]) true codeTicks 0
    else if c = '`' then
      let run := 1 + (rest.takeWhile (· = '`')).length
      let ticks := if codeTicks = 0 then run else if codeTicks = run then 0 else codeTicks
      splitCells rest (current ++ List.replicate run '`') false ticks (run - 1)
    else if c = '|' ∧ codeTicks = 0 then strip current :: splitCells rest [] false codeTicks 0
    else splitCells rest (current ++ [c]) false codeTicks 0

def splitTableRow (line : Text) : List Text :=
  let value := strip line
  let value := if value.head? = some '|' then value.tail else value
  let value := if ['|'] <:+ value ∧ ¬ ['\\', '|'] <:+ value then value.dropLast else value
  splitCells value [] false 0 0

def looksLikeTableHeader (header delimiter : Text) : Bool :=
  2 ≤ (splitTableRow header).length ∧
    (splitTableRow header).length = (splitTableRow delimiter).length ∧
    (splitTableRow delimiter).all (fun cell => isDelimiterCell (strip cell)) = true

def looksLikeTableRow (line : Text) : Bool := ¬ Blank line ∧ 2 ≤ (splitTableRow line).length

def parseTableAlignment (cell : Text) : Except String String :=
  let value := strip cell
  if ¬ isDelimiterCell value then
    .error ("invalid table delimiter cell: " ++ String.ofList cell)
  else if [':'] <+: value ∧ [':'] <:+ value then .ok "center"
  else if [':'] <:+ value then .ok "right"
  else .ok "left"

/-- `cell.replace("\\|", "|")` -/
def replaceEscapedPipes : Text → Text
  | '\\' :: '|' :: rest => '|' :: replaceEscapedPipes rest
  | c :: rest => c :: replaceEscapedPipes rest
  | [] => []

def displayCell (cell : Text) : Text := strip (replaceEscapedPipes cell)

/-- `cells + ["" for _ in range(len(headers) - len(cells))]` -/
def padRow (width : Nat) (cells : List Text) : List Text :=
  cells ++ List.replicate (width - cells.length) []

/-- The lines behind the delimiter that go on with the table. -/
def tableRows : List Text → Nat
  | [] => 0
  | line :: rest => if looksLikeTableRow (stripNewline line) then 1 + tableRows rest else 0

/-- `_try_peek_table` -/
def peekTable : List Text → Bool
  | header :: delimiter :: _ => looksLikeTableHeader (stripNewline header) (stripNewline delimiter)
  | _ => false

def tryConsumeTable (library : Library) (index : Nat) (lines : List Text) :
    Except String (Option (MarkdownTableCandidate × Nat)) :=
  match lines with
  | header :: delimiter :: rest =>
    if looksLikeTableHeader (stripNewline header) (stripNewline delimiter) then do
      let count := 2 + tableRows rest
      let rawLines := (lines.take count).map stripNewline
      let markdown := joinLines rawLines
      let headers := splitTableRow (stripNewline header)
      let alignments ← (splitTableRow (stripNewline delimiter)).mapM parseTableAlignment
      -- the loop over the rows breaks at the first row that is too wide
      let rows := ((rawLines.drop 2).map splitTableRow).takeWhile fun cells =>
        ¬ cells.length > headers.length
      return some ({
        markdown
        span := ⟨index + 1, index + count⟩
        headers := headers.map displayCell
        alignments
        rows := rows.map fun cells => (padRow headers.length cells).map displayCell
        rawHeaders := headers
        rawRows := rows
        sourceHash := library.sha256 markdown }, count)
    else .ok none
  | _ => .ok none

/-! ## The other blocks -/

/-- The lines behind a fence's opening that belong to it, and those of them that are code. -/
def fenceLines (character : Char) (length : Nat) : List Text → Nat × List Text
  | [] => (0, [])
  | line :: rest =>
    if closesFence character length (stripNewline line) then (1, [])
    else
      let (count, code) := fenceLines character length rest
      (1 + count, stripNewline line :: code)

def tryConsumeFence (index : Nat) (line : Text) (rest : List Text) :
    Option (MarkdownAstNode × Nat) :=
  (fenceOpening (stripNewline line)).map fun (fence, info) =>
    let (count, code) := fenceLines (fence.head?.getD '`') fence.length rest
    let raw := joinLines (((line :: rest).take (1 + count)).map stripNewline)
    (.fence fence (strip info) (joinLines code) raw ⟨index + 1, index + 1 + count⟩, 1 + count)

def quotedLines : List Text → List Text
  | [] => []
  | line :: rest =>
    if Blank (stripNewline line) then
      match (rest.dropWhile fun line => Blank (stripNewline line)).head? with
      | some next =>
        if (blockquoteBody (stripNewline next)).isSome then stripNewline line :: quotedLines rest
        else []
      | none => []
    else
      match blockquoteBody (stripNewline line) with
      | some body => body :: quotedLines rest
      | none => []

def tryConsumeBlockquote (index : Nat) (line : Text) (rest : List Text) :
    Option (MarkdownAstNode × Nat) :=
  if (blockquoteBody (stripNewline line)).isSome then
    let quoted := quotedLines (line :: rest)
    let raw := joinLines (((line :: rest).take quoted.length).map stripNewline)
    some (.blockquote quoted raw ⟨index + 1, index + quoted.length⟩, quoted.length)
  else none

def makeListItem (library : Library) (lines : List Text) (startIndex : Nat) :
    Except String MarkdownListItem :=
  match lines with
  | [] => .error "list index out of range"
  | first :: rest =>
    match listItem library (stripNewline first) with
    | none => .error "list item does not start with a list marker"
    | some (_, marker, body) =>
      let continuation := rest.map stripNewline
      .ok {
        marker
        body := (joinLines (body :: continuation)).rdropWhile isSpace
        raw := lines.flatten
        span := ⟨startIndex + 1, startIndex + lines.length⟩
        continuationLines := continuation }

/-- The loop of `_try_consume_list` over the lines from `stop` on; all offsets are from
the first line of the block, whose lines are `lines`. -/
def listLoop (library : Library) (index firstIndent : Nat) (lines : List Text) :
    List Text → (stop itemStart : Nat) → List MarkdownListItem →
      Except String (Nat × Nat × List MarkdownListItem)
  | [], stop, itemStart, items => .ok (stop, itemStart, items)
  | line :: rest, stop, itemStart, items =>
    let text := stripNewline line
    if Blank text then listLoop library index firstIndent lines rest (stop + 1) itemStart items
    else
      match listItem library text with
      | some (indent, _) =>
        if indentWidth indent < firstIndent ∧ items ≠ [] then .ok (stop, itemStart, items)
        else if stop > itemStart then do
          let item ← makeListItem library ((lines.drop itemStart).take (stop - itemStart))
            (index + itemStart)
          listLoop library index firstIndent lines rest (stop + 1) stop (items ++ [item])
        else listLoop library index firstIndent lines rest (stop + 1) stop items
      | none =>
        if indentWidth (text.takeWhile isBlank) ≤ firstIndent ∧ text.takeWhile isBlank = [] then
          .ok (stop, itemStart, items)
        else listLoop library index firstIndent lines rest (stop + 1) itemStart items

def tryConsumeList (library : Library) (index : Nat) (line : Text) (rest : List Text) :
    Except String (Option (MarkdownAstNode × Nat)) :=
  match listItem library (stripNewline line) with
  | none => .ok none
  | some (indent, marker, _) => do
    let lines := line :: rest
    let (stop, itemStart, items) ←
      listLoop library index (indentWidth indent) lines lines 0 0 []
    let items ←
      if itemStart < stop then do
        let item ← makeListItem library ((lines.drop itemStart).take (stop - itemStart))
          (index + itemStart)
        pure (items ++ [item])
      else pure items
    let ordered := marker.head?.any library.isDecimal
    return some (.listBlock ordered items (lines.take stop).flatten ⟨index + 1, index + stop⟩, stop)

def isBlockStart (library : Library) (line : Text) (rest : List Text) : Bool :=
  let text := stripNewline line
  Blank text ∨ isThematicBreak text ∨ peekTable (line :: rest) ∨ (fenceOpening text).isSome ∨
    (blockquoteBody text).isSome ∨ (listItem library text).isSome

def paragraphLines (library : Library) : List Text → Nat
  | [] => 0
  | line :: rest => if isBlockStart library line rest then 0 else 1 + paragraphLines library rest

def consumeParagraph (library : Library) (index : Nat) (line : Text) (rest : List Text) :
    MarkdownAstNode × Nat :=
  let count := 1 + paragraphLines library rest
  let raw := ((line :: rest).take count).flatten
  (.paragraph (raw.rdropWhile (· = '\n')) raw ⟨index + 1, index + count⟩, count)

def consumeMarkdownBlock (library : Library) (index : Nat) (line : Text) (rest : List Text) :
    Except String (MarkdownAstNode × Nat) := do
  if let some (table, count) ← tryConsumeTable library index (line :: rest) then
    return (.tableCandidate table, count)
  if let some fence := tryConsumeFence index line rest then
    return fence
  if let some quote := tryConsumeBlockquote index line rest then
    return quote
  if let some list ← tryConsumeList library index line rest then
    return list
  if isThematicBreak (stripNewline line) then
    return (.thematicBreak (stripNewline line) ⟨index + 1, index + 1⟩, 1)
  return consumeParagraph library index line rest

/-- The loop of `parse_markdown_blocks`, with a bound on its rounds; a bound that is
too small is an error. -/
def parseLoop (library : Library) : Nat → (index : Nat) → List Text →
    Except String (List MarkdownAstNode)
  | _, _, [] => .ok []
  | 0, _, _ :: _ => .error "too few rounds"
  | rounds + 1, index, line :: rest =>
    if Blank (stripNewline line) then parseLoop library rounds (index + 1) rest
    else do
      let (node, count) ← consumeMarkdownBlock library index line rest
      let blocks ← parseLoop library rounds (index + count) ((line :: rest).drop count)
      return node :: blocks

def parseMarkdownBlocks (library : Library) (source : Text) :
    Except String (List MarkdownAstNode) :=
  let lines := linesWithEnds source
  parseLoop library lines.length 0 lines

end Copilotd.Source.Render.Markdown
