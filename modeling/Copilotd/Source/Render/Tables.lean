import Copilotd.Source.Render.Markdown

/-!
# `render/tables.py`: `parse_table`

The table parser of the renderer, which reads a table's Markdown for itself.  What
renders the parsed table is left out.
-/
namespace Copilotd.Source.Render.Tables
open Base.PlainText Source.Render.Markdown

inductive TableAlignment where
  | left | center | right
  deriving DecidableEq

def TableAlignment.value : TableAlignment → String
  | .left => "left"
  | .center => "center"
  | .right => "right"

structure ParsedTable where
  headers : List Text
  alignments : List TableAlignment
  rows : List (List Text)
  markdown : Text
  sourceHash : Text
  sourceSpan : MarkdownSpan
  headerRaw : List Text
  rowRaw : List (List Text)
  headerSpan : MarkdownSpan
  rowSpans : List MarkdownSpan
  deriving DecidableEq

/-- `_parse_alignment`; `_DELIMITER` has the language of `_DELIMITER_CELL`. -/
def parseAlignment (cell : Text) : Except String TableAlignment :=
  let value := strip cell
  if ¬ isDelimiterCell value then
    .error ("invalid table delimiter cell: " ++ String.ofList cell)
  else if [':'] <+: value ∧ [':'] <:+ value then .ok .center
  else if [':'] <:+ value then .ok .right
  else .ok .left

def parseRow (width : Nat) (line : Text) : Except String (List Text) :=
  let cells := splitTableRow line
  if cells.length > width then .error "table row has more cells than its header" else .ok cells

def parseTable (library : Library) (markdown : Text) (startLine : Nat) :
    Except String ParsedTable :=
  let lines := (splitlines (strip markdown)).filter fun line => ¬ Blank line
  match lines with
  | header :: delimiter :: rest =>
    let headersRaw := splitTableRow header
    let delimiterCells := splitTableRow delimiter
    if headersRaw.length < 2 ∨ headersRaw.length ≠ delimiterCells.length then
      .error "table header and delimiter widths differ"
    else do
      let alignments ← delimiterCells.mapM parseAlignment
      let rowsRaw ← rest.mapM (parseRow headersRaw.length)
      let source := joinLines lines ++ ['\n']
      return {
        headers := headersRaw.map displayCell
        alignments
        rows := rowsRaw.map fun cells => (padRow headersRaw.length cells).map displayCell
        markdown := source
        sourceHash := library.sha256 source
        sourceSpan := ⟨startLine, startLine + lines.length - 1⟩
        headerRaw := headersRaw
        rowRaw := rowsRaw
        headerSpan := ⟨startLine, startLine⟩
        rowSpans := (List.range' 2 rest.length).map fun offset =>
          ⟨startLine + offset, startLine + offset⟩ }
  | _ => .error "table requires a header and delimiter row"

end Copilotd.Source.Render.Tables
