import Mathlib.Algebra.Order.Ring.Nat
import Copilotd.Source.Render.Tables

/-!
# `render/tables.py`: the code table

`_formatted_width` and `_format_code_table`, over the display width of a text.  What the
display width takes from `unicodedata` is a parameter.  An index that is out of range
gives `none`.
-/
namespace Copilotd.Source.Render.TableLayout
open Base.PlainText Source.Render.Markdown Source.Render.Tables

inductive EastAsianWidth where
  | fullwidth | halfwidth | wide | narrow | ambiguous | neutral
  deriving DecidableEq

/-- The tables of `unicodedata`, with what they say about ASCII. -/
structure UnicodeData where
  combining : Char → Nat
  eastAsianWidth : Char → EastAsianWidth
  normalizeNFC : Text → Text
  combining_ascii : ∀ c : Char, c.toNat < 128 → combining c = 0
  eastAsianWidth_ascii : ∀ c : Char, c.toNat < 128 →
    eastAsianWidth c = .narrow ∨ eastAsianWidth c = .neutral

def zeroWidthCharacters : List Char := ['\u200d', '\ufe0e', '\ufe0f']

def isEmojiModifier (character : Char) : Bool :=
  0x1F3FB ≤ character.toNat ∧ character.toNat ≤ 0x1F3FF

/-- The width of one character in `_display_width`. -/
def characterWidth (unicode : UnicodeData) (character : Char) : Nat :=
  if character ∈ zeroWidthCharacters ∨ unicode.combining character ≠ 0 ∨
      isEmojiModifier character = true then 0
  else if unicode.eastAsianWidth character = .wide ∨
      unicode.eastAsianWidth character = .fullwidth then 2
  else 1

def displayWidth (unicode : UnicodeData) (value : Text) : Nat :=
  (value.map (characterWidth unicode)).sum

/-- A negative number of blanks is none. -/
def alignDisplay (unicode : UnicodeData) (value : Text) (width : Nat)
    (alignment : TableAlignment) : Text :=
  let missing := width - displayWidth unicode value
  match alignment with
  | .right => List.replicate missing ' ' ++ value
  | .center =>
    let left := missing / 2
    List.replicate left ' ' ++ value ++ List.replicate (missing - left) ' '
  | .left => value ++ List.replicate missing ' '

/-- The inner loop of `_formatted_width`. -/
def widenRow (unicode : UnicodeData) : (widths : List Nat) → (row : List Text) →
    Option (List Nat)
  | widths, [] => some widths
  | [], _ :: _ => none
  | width :: widths, cell :: row =>
    (widenRow unicode widths row).map (max width (displayWidth unicode cell) :: ·)

def formattedWidth (unicode : UnicodeData) (table : ParsedTable) : Option Int := do
  let widths ← table.rows.foldlM (widenRow unicode) (table.headers.map (displayWidth unicode))
  return (widths.sum : Int) + 3 * ((widths.length : Int) - 1)

/-- `max(_display_width(row[index]) for row in all_rows)` -/
def columnWidth (unicode : UnicodeData) (allRows : List (List Text)) (index : Nat) :
    Option Nat := do
  let cells ← allRows.mapM fun row => row[index]?
  return (cells.map (displayWidth unicode)).foldl max 0

def formatRow (unicode : UnicodeData) (widths : List Nat) (alignments : List TableAlignment)
    (row : List Text) : Option Text := do
  let cells ← (List.range widths.length).mapM fun index => do
    return alignDisplay unicode (← row[index]?) (← widths[index]?) (← alignments[index]?)
  return ([' ', '|', ' '].intercalate cells).rdropWhile isSpace

/-- The lines of `_format_code_table`: of the header, of the separator and of the rows. -/
def codeTableLines (unicode : UnicodeData) (table : ParsedTable) :
    Option (Text × Text × List Text) := do
  let allRows := table.headers :: table.rows
  let widths ← (List.range table.headers.length).mapM (columnWidth unicode allRows)
  let separator := ['-', '+', '-'].intercalate (widths.map fun width => List.replicate width '-')
  let header ← formatRow unicode widths table.alignments table.headers
  let rows ← table.rows.mapM (formatRow unicode widths table.alignments)
  return (header, separator, rows)

def formatCodeTable (unicode : UnicodeData) (table : ParsedTable) : Option Text := do
  let (header, separator, rows) ← codeTableLines unicode table
  return joinLines (header :: separator :: rows)

end Copilotd.Source.Render.TableLayout
