import Copilotd.Source.Render.TableLayout

/-!
# `render/tables.py`: `render_table`

The plan of a table's rendering, with the code table, the PNG pages and the attachments.
Text measurement, the float product that shrinks a column, and the drawing and encoding
of a page come from Pillow and the fonts; drawing gets what `_draw_row` gets.  A table
of `parse_table` has two headers and rows of their length, so an index into a row is
never out of range.
-/
namespace Copilotd.Source.Render.TablePages
open Base.PlainText Source.Render.Markdown Source.Render.Tables Source.Render.TableLayout

inductive Raised where
  | osError (message : String)
  | unicodeError
  | valueError (message : String)
  | indexError

/-- A piece of a line: whether it is code, and its text. -/
abbrev Piece := Bool × Text

/-- The lines of each cell of a row. -/
abbrev WrappedRow := List (List (List Piece))

/-- The arguments of `_draw_row`. -/
structure DrawnRow where
  cells : WrappedRow
  y : Nat
  height : Nat
  fill : String

structure PageImage where
  width : Nat
  height : Nat
  alignments : List TableAlignment
  widths : List Nat
  rows : List DrawnRow

structure Pillow where
  /-- `_FontResolver(scale=2).line_height` -/
  lineHeight : Except Raised Nat
  /-- `text_width` -/
  textWidth : Text → (code : Bool) → Except Raised Nat
  /-- `int(width * ratio)` -/
  shrink : (width totalWidth : Nat) → Nat
  /-- the image, saved as PNG -/
  save : PageImage → Except Raised ByteArray

structure TableAsset where
  filename : String
  mediaType : String
  content : ByteArray

/-- The dictionary `source_contract`. -/
structure SourceContract where
  sourceHash : Text
  pageCount : Nat
  previewPages : Option Nat
  previewOnly : Bool
  reason : Option String
  fullSourceFilename : String

inductive Carrier where
  | code | codeFallback | attachmentFallback | image
  deriving DecidableEq

structure TableRenderPlan where
  carrier : Carrier
  previewText : Option Text
  assets : List TableAsset
  rowCount : Nat
  columnCount : Nat
  sourceHash : Text
  previewTruncated : Bool
  sourceContract : Option SourceContract

/-! ## Wrapping -/

def tokenizeLoop : (rounds : Nat) → Text → List Piece
  | 0, _ | _, [] => []
  | rounds + 1, c :: rest =>
    if c ≠ '`' then
      (false, (c :: rest).takeWhile (· ≠ '`')) ::
        tokenizeLoop rounds ((c :: rest).dropWhile (· ≠ '`'))
    else if '`' ∉ rest then [(false, c :: rest)]
    else
      (true, rest.takeWhile (· ≠ '`')) :: tokenizeLoop rounds (rest.dropWhile (· ≠ '`')).tail

/-- `_tokenize_inline`; a round takes a character or more. -/
def tokenizeInline (value : Text) : List Piece :=
  (tokenizeLoop value.length value).filter fun piece => piece.2 ≠ []

/-- `re.findall(r"\s+|\S+\s*", segment)`: a token ends where a word begins behind space. -/
def findTokens : Text → List Text
  | [] => []
  | c :: rest =>
    match findTokens rest with
    | [] => [[c]]
    | token :: tokens =>
      if isSpace c ∧ ¬ token.head?.any isSpace then [c] :: token :: tokens
      else (c :: token) :: tokens

/-- The loop of `_text_clusters`, whose last cluster is `cluster`. -/
def clusterLoop (unicode : UnicodeData) : (cluster : Text) → Text → List Text
  | cluster, [] => [cluster]
  | cluster, c :: rest =>
    if c ∈ zeroWidthCharacters ∨ unicode.combining c ≠ 0 ∨ isEmojiModifier c = true ∨
        ['\u200d'] <:+ cluster then
      clusterLoop unicode (cluster ++ [c]) rest
    else cluster :: clusterLoop unicode [c] rest

def textClusters (unicode : UnicodeData) : Text → List Text
  | [] => []
  | c :: rest => (clusterLoop unicode [c] rest).map unicode.normalizeNFC

/-- `raw_pieces` and `current_width`. -/
abbrev Wrapping := List Piece × Nat

/-- A break first if the text does not fit behind what the line has. -/
def breakLine (state : Wrapping) (width maxWidth : Nat) : Wrapping :=
  if state.2 ≠ 0 ∧ state.2 + width > maxWidth then (state.1 ++ [(false, ['\n'])], 0) else state

def wrapCluster (pillow : Pillow) (isCode : Bool) (maxWidth : Nat) (state : Wrapping)
    (cluster : Text) : Except Raised Wrapping := do
  let width ← pillow.textWidth cluster isCode
  let state := breakLine state width maxWidth
  return (state.1 ++ [(isCode, cluster)], state.2 + width)

def wrapToken (pillow : Pillow) (unicode : UnicodeData) (isCode : Bool) (maxWidth : Nat)
    (state : Wrapping) (token : Text) : Except Raised Wrapping := do
  let width ← pillow.textWidth token isCode
  let state := if Blank token then state else breakLine state width maxWidth
  if width ≤ maxWidth ∨ Blank token then return (state.1 ++ [(isCode, token)], state.2 + width)
  else (textClusters unicode token).foldlM (wrapCluster pillow isCode maxWidth) state

/-- The second loop of `_wrap_cell_text`, with the lines before `line`. -/
def cutLines : (line : List Piece) → List Piece → List (List Piece)
  | line, [] => [line]
  | line, piece :: pieces =>
    if piece.2 = ['\n'] then
      if line = [] then cutLines line pieces else line :: cutLines [] pieces
    else cutLines (line ++ [piece]) pieces

def wrapCellText (pillow : Pillow) (unicode : UnicodeData) (value : Text) (maxWidth : Nat) :
    Except Raised (List (List Piece)) := do
  let wrapped ← (tokenizeInline value).foldlM (fun state segment =>
    (if segment.1 then [segment.2] else findTokens segment.2).foldlM
      (wrapToken pillow unicode segment.1 maxWidth) state) ([], 0)
  return (cutLines [] wrapped.1).filter (· ≠ [])

def wrapRow (pillow : Pillow) (unicode : UnicodeData) (row : List Text) (widths : List Nat) :
    Except Raised WrappedRow :=
  (row.zip widths).mapM fun (cell, width) =>
    wrapCellText pillow unicode cell (max (width - 48) 1)

/-! ## Pages -/

/-- The measures of `_render_png_pages`. -/
structure PageLayout where
  widths : List Nat
  header : WrappedRow
  rows : List WrappedRow
  headerHeight : Nat
  rowHeights : List Nat

def naturalWidth (pillow : Pillow) (values : List Text) : Except Raised Nat := do
  let measured ← values.mapM (pillow.textWidth · false)
  return min (max (measured.foldl max 0 + 48) 240) 1040

def columnWidths (pillow : Pillow) (table : ParsedTable) : Except Raised (List Nat) := do
  let natural ← (List.range table.headers.length).mapM fun index =>
    naturalWidth pillow ((table.headers :: table.rows).map fun row => row[index]?.getD [])
  let totalWidth := natural.sum + 1
  let widths := if totalWidth > 4096 then
    natural.map fun width => max (pillow.shrink width totalWidth) 160 else natural
  if widths.sum + 1 > 4096 then .error (.osError "table is too wide for the PNG renderer")
  else .ok widths

def rowHeight (lineHeight : Nat) (wrapped : WrappedRow) : Nat :=
  (wrapped.map List.length).foldl max 0 * lineHeight + 32

def layOut (pillow : Pillow) (unicode : UnicodeData) (table : ParsedTable) :
    Except Raised PageLayout := do
  let lineHeight ← pillow.lineHeight
  let widths ← columnWidths pillow table
  let header ← wrapRow pillow unicode table.headers widths
  let rows ← table.rows.mapM (wrapRow pillow unicode · widths)
  return {
    widths, header, rows
    headerHeight := rowHeight lineHeight header
    rowHeights := rows.map (rowHeight lineHeight) }

/-- The inner loop of the page loop: how many rows the page takes. -/
def fillPage : (height : Nat) → (rowHeights : List Nat) → Nat
  | _, [] => 0
  | height, rowHeight :: rest =>
    if height + rowHeight ≤ 4096 then 1 + fillPage (height + rowHeight) rest else 0

def pageLoop (headerHeight : Nat) (rowHeights : List Nat) :
    (rounds start : Nat) → (pages : List (Nat × Nat)) → List (Nat × Nat)
  | 0, _, pages => pages
  | rounds + 1, start, pages =>
    if start < rowHeights.length ∨ (rowHeights = [] ∧ pages = []) then
      let filled := start + fillPage (headerHeight + 1) (rowHeights.drop start)
      let stop := if filled = start ∧ filled < rowHeights.length then filled + 1 else filled
      pageLoop headerHeight rowHeights rounds stop (pages ++ [(start, stop)])
    else pages

def pageRanges (layout : PageLayout) : List (Nat × Nat) :=
  pageLoop layout.headerHeight layout.rowHeights (layout.rows.length + 1) 0 []

/-- The rows of a page from `y` on, the first of which has the number `index`. -/
def drawRows : (y index : Nat) → List (WrappedRow × Nat) → List DrawnRow
  | _, _, [] => []
  | y, index, (cells, height) :: rest =>
    ⟨cells, y, height, if index % 2 = 1 then "#f7f9fc" else "#ffffff"⟩ ::
      drawRows (y + height) (index + 1) rest

def renderPage (pillow : Pillow) (table : ParsedTable) (sourceHash : Text) (layout : PageLayout)
    (page : (Nat × Nat) × Nat) : Except Raised TableAsset := do
  let ((start, stop), pageIndex) := page
  let rows := ((layout.rows.zip layout.rowHeights).take stop).drop start
  let content ← pillow.save {
    width := layout.widths.sum + 1
    height := layout.headerHeight + (rows.map Prod.snd).sum + 1
    alignments := table.alignments
    widths := layout.widths
    rows := ⟨layout.header, 0, layout.headerHeight, "#e8eef8"⟩ ::
      drawRows layout.headerHeight start rows }
  return {
    filename :=
      "table-" ++ String.ofList (sourceHash.take 12) ++ "-" ++ toString pageIndex ++ ".png"
    mediaType := "image/png"
    content }

def renderPngPages (pillow : Pillow) (unicode : UnicodeData) (table : ParsedTable)
    (sourceHash : Text) : Except Raised (List TableAsset × Bool) := do
  let layout ← layOut pillow unicode table
  let pages := pageRanges layout
  let truncated := 10 < pages.length
  let pages := if truncated then pages.take 1 else pages
  let assets ← (pages.zipIdx 1).mapM (renderPage pillow table sourceHash layout)
  return (assets, truncated)

/-! ## The plan -/

def encode (text : Text) : ByteArray := (String.ofList text).toUTF8

/-- A field of `csv.writer`, quoted where it has to be; rows have two fields or more. -/
def csvField (field : Text) : Text :=
  if field.any (fun c => c = ',' ∨ c = '"' ∨ c = '\r' ∨ c = '\n') then
    '"' :: field.flatMap (fun c => if c = '"' then ['"', '"'] else [c]) ++ ['"']
  else field

def csvRow (row : List Text) : Text :=
  [','].intercalate (row.map csvField) ++ ['\r', '\n']

def assetName (sourceHash : Text) (extension : String) : String :=
  "table-" ++ String.ofList (sourceHash.take 12) ++ extension

def csvAsset (table : ParsedTable) : TableAsset where
  filename := assetName table.sourceHash ".csv"
  mediaType := "text/csv"
  content := encode ('\ufeff' :: (table.headers :: table.rows).flatMap csvRow)

def markdownAsset (table : ParsedTable) : TableAsset where
  filename := assetName table.sourceHash ".md"
  mediaType := "text/markdown"
  content := encode table.markdown

/-- `_NON_SCALAR_MARKDOWN` finds nothing. -/
def isScalarTable (table : ParsedTable) : Bool :=
  (table.headers :: table.rows).all fun row => row.all fun cell =>
    cell.all fun c => c ∉ "*_`<>\n".toList

def isLarge (table : ParsedTable) : Bool := 8 < table.headers.length ∨ 50 < table.rows.length

/-- The Markdown, and the CSV of a large table of scalars. -/
def attachments (table : ParsedTable) : List TableAsset :=
  markdownAsset table :: if isScalarTable table ∧ isLarge table then [csvAsset table] else []

/-- `len(content) > max_upload_bytes` -/
def exceeds (maxUploadBytes : Option Int) (content : ByteArray) : Bool :=
  maxUploadBytes.any fun bytes => bytes < (content.size : Int)

/-- The table that is rendered as pages. -/
def previewTable (table : ParsedTable) : ParsedTable :=
  if isLarge table then { table with
    rows := table.rows.take 20, rowRaw := table.rowRaw.take 20, rowSpans := table.rowSpans.take 20 }
  else table

def fenced (code : Text) : Text := "```\n".toList ++ code ++ "\n```".toList

def orIndexError {α : Type} : Option α → Except Raised α
  | some value => .ok value
  | none => .error .indexError

/-- The plan of a small table, if the upload limit allows it. -/
def codePlan (unicode : UnicodeData) (table : ParsedTable) (maxUploadBytes : Option Int) :
    Except Raised (Option TableRenderPlan) := do
  let width ← orIndexError (formattedWidth unicode table)
  if table.headers.length ≤ 4 ∧ table.rows.length ≤ 12 ∧ width ≤ 88 then
    let code ← orIndexError (formatCodeTable unicode table)
    return if exceeds maxUploadBytes (encode (fenced code)) then none else some {
      carrier := .code
      previewText := some (fenced code)
      assets := []
      rowCount := table.rows.length
      columnCount := table.headers.length
      sourceHash := table.sourceHash
      previewTruncated := false
      sourceContract := none }
  else return none

/-- The plan when the pages cannot be rendered. -/
def fallbackPlan (unicode : UnicodeData) (table : ParsedTable) (maxUploadBytes : Option Int) :
    Except Raised TableRenderPlan := do
  let code ← orIndexError (formatCodeTable unicode (previewTable table))
  let previewText := if (encode code).size ≤ 1800 then some (fenced code) else none
  let assets := attachments table
  return {
    carrier := if previewText.isSome then .codeFallback else .attachmentFallback
    previewText
    assets := if assets.any fun asset => exceeds maxUploadBytes asset.content then
      [markdownAsset table] else assets
    rowCount := table.rows.length
    columnCount := table.headers.length
    sourceHash := table.sourceHash
    previewTruncated := isLarge table || previewText.isNone
    sourceContract := some {
      sourceHash := table.sourceHash
      pageCount := 1
      previewPages := none
      previewOnly := true
      reason := none
      fullSourceFilename := (markdownAsset table).filename } }

def pagesPlan (table : ParsedTable) (maxUploadBytes : Option Int) (pngPages : List TableAsset)
    (paginationTruncated : Bool) : TableRenderPlan :=
  let tooLarge := pngPages.any fun asset => exceeds maxUploadBytes asset.content
  let previewOnly := !tooLarge && decide (10 < pngPages.length)
  { carrier := if tooLarge then .attachmentFallback else .image
    previewText := none
    assets := if tooLarge then attachments table
      else (if previewOnly then pngPages.take 1 else pngPages) ++ attachments table
    rowCount := table.rows.length
    columnCount := table.headers.length
    sourceHash := table.sourceHash
    previewTruncated := tooLarge || previewOnly || isLarge table || paginationTruncated
    sourceContract := some {
      sourceHash := table.sourceHash
      pageCount := pngPages.length
      previewPages := if previewOnly then some 1 else none
      previewOnly
      reason := if tooLarge then some "upload-limit" else none
      fullSourceFilename := (markdownAsset table).filename } }

def renderTable (library : Library) (unicode : UnicodeData) (pillow : Pillow) (markdown : Text)
    (maxUploadBytes : Option Int) : Except Raised TableRenderPlan := do
  let table ← (parseTable library markdown 1).mapError .valueError
  match ← codePlan unicode table maxUploadBytes with
  | some plan => return plan
  | none =>
    match renderPngPages pillow unicode (previewTable table) table.sourceHash with
    | .ok (pngPages, paginationTruncated) =>
      return pagesPlan table maxUploadBytes pngPages paginationTruncated
    | .error (.osError _) | .error .unicodeError => fallbackPlan unicode table maxUploadBytes
    | .error raised => .error raised

end Copilotd.Source.Render.TablePages
