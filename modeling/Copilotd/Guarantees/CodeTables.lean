import Copilotd.Base.Checked
import Copilotd.Guarantees.TableGrammars
import Copilotd.Source.Render.TableLayout
import Mathlib.Data.List.Forall2

/-!
# The code table

`_formatted_width` and `_format_code_table` measure the columns apart from each other,
the one by widening the header's widths row after row, the other column by column; the
widths are the same.  A cell is padded to its column's width, so the bars of a line
stand where the separator line has its crosses, and `rstrip` stops at the last bar.
-/
namespace Copilotd.Guarantees.CodeTables
open Base Base.PlainText Source.Render.Markdown Source.Render.Tables
open Source.Render.TableLayout Guarantees.TableGrammars

variable {unicode : UnicodeData} {widths : List Nat} {row : List Text}
  {alignments : List TableAlignment}

/-! ## Display widths -/

theorem displayWidth_append (unicode : UnicodeData) (front back : Text) :
    displayWidth unicode (front ++ back) =
      displayWidth unicode front + displayWidth unicode back := by
  rw [displayWidth, List.map_append, List.sum_append_nat]
  rfl

theorem characterWidth_ascii (unicode : UnicodeData) {c : Char} (ascii : c.toNat < 128) :
    characterWidth unicode c = 1 := by
  have visible : ¬ (c ∈ zeroWidthCharacters ∨ unicode.combining c ≠ 0 ∨
      isEmojiModifier c = true) := by
    rintro (zero | combines | modifier)
    · have bound : ∀ d ∈ zeroWidthCharacters, 128 ≤ d.toNat := by simp [zeroWidthCharacters]
      exact absurd (bound c zero) (by omega)
    · exact combines (unicode.combining_ascii c ascii)
    · rw [isEmojiModifier, decide_eq_true_eq] at modifier
      omega
  have slim : ¬ (unicode.eastAsianWidth c = .wide ∨ unicode.eastAsianWidth c = .fullwidth) := by
    rcases unicode.eastAsianWidth_ascii c ascii with narrow | neutral
    · simp [narrow]
    · simp [neutral]
  rw [characterWidth, if_neg visible, if_neg slim]

theorem displayWidth_replicate (unicode : UnicodeData) {c : Char} (ascii : c.toNat < 128)
    (count : Nat) : displayWidth unicode (List.replicate count c) = count := by
  rw [displayWidth, List.map_replicate, characterWidth_ascii unicode ascii,
    List.sum_replicate_nat, Nat.mul_one]

theorem displayWidth_ascii (unicode : UnicodeData) {text : Text}
    (ascii : ∀ c ∈ text, c.toNat < 128) : displayWidth unicode text = text.length := by
  induction text with
  | nil => rfl
  | cons c text ih =>
    rw [← List.singleton_append, displayWidth_append, List.length_append,
      ih fun d member => ascii d (List.mem_cons_of_mem c member)]
    congr 1
    exact displayWidth_replicate unicode (ascii c List.mem_cons_self) 1

theorem displayWidth_rdropWhile_le (unicode : UnicodeData) (text : Text) :
    displayWidth unicode (text.rdropWhile isSpace) ≤ displayWidth unicode text := by
  have whole := congrArg (displayWidth unicode) (@List.rdropWhile_append_rtakeWhile _ isSpace text)
  rw [displayWidth_append] at whole
  omega

theorem displayWidth_alignDisplay {value : Text} {width : Nat}
    (fits : displayWidth unicode value ≤ width) (alignment : TableAlignment) :
    displayWidth unicode (alignDisplay unicode value width alignment) = width := by
  cases alignment <;>
    simp only [alignDisplay, displayWidth_append, displayWidth_replicate unicode
      (show ' '.toNat < 128 by decide)] <;>
    omega

theorem displayWidth_intercalate (unicode : UnicodeData) (mark : Text) (cells : List Text) :
    displayWidth unicode (mark.intercalate cells) =
      (cells.map (displayWidth unicode)).sum + displayWidth unicode mark * (cells.length - 1) := by
  induction cells with
  | nil => rfl
  | cons cell cells ih =>
    cases cells with
    | nil => simp [List.intercalate_singleton]
    | cons next cells =>
      rw [List.intercalate_cons_cons, displayWidth_append, displayWidth_append, ih]
      simp only [List.map_cons, List.sum_cons, List.length_cons, Nat.add_sub_cancel,
        Nat.mul_succ]
      omega

/-! ## Joined cells -/

theorem intercalate_take_drop (mark : Text) {cells : List Text} {k : Nat} (positive : 0 < k)
    (inside : k < cells.length) :
    mark.intercalate cells =
      mark.intercalate (cells.take k) ++ (mark ++ mark.intercalate (cells.drop k)) := by
  induction cells generalizing k with
  | nil => cases inside
  | cons cell cells ih =>
    obtain ⟨next, rest, rfl⟩ := List.exists_cons_of_length_pos (l := cells)
      (by rw [List.length_cons] at inside; omega)
    cases k with
    | zero => cases positive
    | succ k =>
      rw [List.take_succ_cons, List.drop_succ_cons, List.intercalate_cons_cons]
      cases k with
      | zero =>
        rw [List.take_zero, List.drop_zero, List.intercalate_singleton, List.append_assoc]
      | succ k =>
        rw [ih (Nat.succ_pos k) (by rw [List.length_cons] at inside; omega), List.take_succ_cons,
          List.intercalate_cons_cons]
        simp only [List.append_assoc]

theorem rdropWhile_append_kept {c : Char} (kept : isSpace c = false) (front back : Text) :
    (front ++ [c] ++ back).rdropWhile isSpace = front ++ [c] ++ back.rdropWhile isSpace := by
  induction back using List.reverseRecOn with
  | nil => rw [List.append_nil, List.rdropWhile_nil, List.append_nil,
      List.rdropWhile_concat_neg _ _ _ (by simp [kept])]
  | append_singleton back d ih =>
    rw [← List.append_assoc]
    by_cases space : isSpace d = true
    · rw [List.rdropWhile_concat_pos _ _ _ space, List.rdropWhile_concat_pos _ _ _ space, ih]
    · rw [List.rdropWhile_concat_neg _ _ _ space, List.rdropWhile_concat_neg _ _ _ space,
        List.append_assoc]

/-! ## The widths of the columns -/

/-- The widths the rows need together, from those of the header on. -/
def widest (unicode : UnicodeData) (widths : List Nat) (rows : List (List Text)) : List Nat :=
  rows.foldl (fun widths row => List.zipWith max widths (row.map (displayWidth unicode))) widths

theorem widenRow_eq (same : row.length = widths.length) :
    widenRow unicode widths row =
      some (List.zipWith max widths (row.map (displayWidth unicode))) := by
  induction widths generalizing row with
  | nil =>
    rw [List.length_eq_zero_iff.mp same]
    rfl
  | cons width widths ih =>
    cases row with
    | nil => cases same
    | cons cell row =>
      rw [widenRow, ih (Nat.succ.inj same)]
      rfl

variable {rows : List (List Text)}

theorem widen_length (same : row.length = widths.length) :
    (List.zipWith max widths (row.map (displayWidth unicode))).length = widths.length := by
  rw [List.length_zipWith, List.length_map, same, Nat.min_self]

theorem widen_same (same : ∀ other ∈ row :: rows, other.length = widths.length) :
    ∀ other ∈ rows,
      other.length = (List.zipWith max widths (row.map (displayWidth unicode))).length := by
  rw [widen_length (same row List.mem_cons_self)]
  exact fun other member => same other (List.mem_cons_of_mem row member)

theorem widenRows_eq (same : ∀ row ∈ rows, row.length = widths.length) :
    rows.foldlM (widenRow unicode) widths = some (widest unicode widths rows) := by
  induction rows generalizing widths with
  | nil => rfl
  | cons row rows ih =>
    rw [List.foldlM_cons, widenRow_eq (same row List.mem_cons_self)]
    exact ih (widen_same same)

theorem widest_length (same : ∀ row ∈ rows, row.length = widths.length) :
    (widest unicode widths rows).length = widths.length := by
  induction rows generalizing widths with
  | nil => rfl
  | cons row rows ih =>
    exact (ih (widen_same same)).trans (widen_length (same row List.mem_cons_self))

theorem widest_getElem? {index : Nat}
    (same : ∀ row ∈ rows, row.length = widths.length) (inside : index < widths.length) :
    ∃ cells, rows.mapM (fun row => row[index]?) = some cells ∧
      (widest unicode widths rows)[index]? =
        some ((cells.map (displayWidth unicode)).foldl max widths[index]) := by
  induction rows generalizing widths with
  | nil => exact ⟨[], rfl, List.getElem?_eq_getElem inside⟩
  | cons row rows ih =>
    have first := same row List.mem_cons_self
    obtain ⟨cells, found, column⟩ := ih (widen_same same) (widen_length first ▸ inside)
    refine ⟨row[index] :: cells, ?_, ?_⟩
    · rw [List.mapM_cons, found, List.getElem?_eq_getElem (first ▸ inside)]
      rfl
    · rw [widest, List.foldl_cons, ← widest, column, List.getElem_zipWith, List.getElem_map]
      rfl

theorem mapM_range {β : Type} (items : List β) {f : Nat → Option β}
    (each : ∀ index, index < items.length → f index = items[index]?) :
    (List.range items.length).mapM f = some items := by
  induction items generalizing f with
  | nil => rfl
  | cons item items ih =>
    have later := @ih (f ∘ Nat.succ) fun index inside => each (index + 1) (Nat.succ_lt_succ inside)
    rw [List.length_cons, List.range_succ_eq_map, List.mapM_cons, each 0 (Nat.succ_pos _),
      List.mapM_map, later]
    rfl

/-- The cells of a row fit into the widths. -/
def Fits (unicode : UnicodeData) (row : List Text) (widths : List Nat) : Prop :=
  List.Forall₂ (fun cell width => displayWidth unicode cell ≤ width) row widths

theorem forall₂_mono {α : Type} {R : α → Nat → Prop} {items : List α} {wider : List Nat}
    (up : ∀ item width wide, R item width → width ≤ wide → R item wide)
    (all : List.Forall₂ R items widths) (grows : List.Forall₂ (· ≤ ·) widths wider) :
    List.Forall₂ R items wider := by
  induction all generalizing wider with
  | nil =>
    cases grows
    exact .nil
  | cons first _ ih =>
    cases grows with
    | cons grow grows => exact .cons (up _ _ _ first grow) (ih grows)

theorem Fits.mono {wider : List Nat} (fits : Fits unicode row widths)
    (grows : List.Forall₂ (· ≤ ·) widths wider) : Fits unicode row wider :=
  forall₂_mono (fun _ _ _ => le_trans) fits grows

theorem fits_zipWith_max (same : row.length = widths.length) :
    Fits unicode row (List.zipWith max widths (row.map (displayWidth unicode))) ∧
      List.Forall₂ (· ≤ ·) widths (List.zipWith max widths (row.map (displayWidth unicode))) := by
  induction widths generalizing row with
  | nil =>
    rw [List.length_eq_zero_iff.mp same]
    exact ⟨.nil, .nil⟩
  | cons width widths ih =>
    cases row with
    | nil => cases same
    | cons cell row =>
      obtain ⟨fits, grows⟩ := ih (Nat.succ.inj same)
      exact ⟨.cons (le_max_right _ _) fits, .cons (le_max_left _ _) grows⟩

theorem widest_grows (same : ∀ row ∈ rows, row.length = widths.length) :
    List.Forall₂ (· ≤ ·) widths (widest unicode widths rows) ∧
      ∀ row ∈ rows, Fits unicode row (widest unicode widths rows) := by
  induction rows generalizing widths with
  | nil => exact ⟨List.forall₂_same.mpr fun _ _ => le_rfl, fun _ member => by cases member⟩
  | cons row rows ih =>
    have first := same row List.mem_cons_self
    obtain ⟨fits, grows⟩ := @fits_zipWith_max unicode _ _ first
    obtain ⟨onward, others⟩ := ih (widen_same same)
    refine ⟨?_, ?_⟩
    · exact forall₂_mono (fun _ _ _ => le_trans) grows onward
    · intro other member
      rcases List.mem_cons.mp member with rfl | later
      · exact fits.mono onward
      · exact others other later

/-! ## Tables of one width -/

/-- What `parse_table` promises of a table's shape, of the two headers it asks for one. -/
structure Rectangular (table : ParsedTable) : Prop where
  headers : table.headers ≠ []
  alignments : table.alignments.length = table.headers.length
  rows : ∀ row ∈ table.rows, row.length = table.headers.length

theorem parseTable_rectangular {library : Library} {markdown : Text} {startLine : Nat}
    {table : ParsedTable} (parsed : parseTable library markdown startLine = .ok table) :
    Rectangular table := by
  unfold parseTable at parsed
  dsimp only at parsed
  split at parsed
  next header delimiter rest _ =>
    split at parsed
    · cases parsed
    next wide =>
      cases aligned : (splitTableRow delimiter).mapM parseAlignment with
      | error message =>
        rw [aligned] at parsed
        cases parsed
      | ok alignments =>
        rw [aligned, mapM_parseRow] at parsed
        split at parsed
        next narrow =>
          cases parsed
          refine ⟨?_, ?_, ?_⟩
          · intro none
            rw [List.map_eq_nil_iff] at none
            rw [none] at wide
            exact wide (.inl (by decide))
          · rw [Encodings.mapM_length aligned, List.length_map]
            exact (not_not.mp fun other => wide (.inr other)).symm
          · intro row member
            obtain ⟨cells, isRow, rfl⟩ := List.mem_map.mp member
            have short := narrow cells isRow
            rw [List.length_map, List.length_map, padRow, List.length_append,
              List.length_replicate]
            omega
        · cases parsed
  · cases parsed

def tableWidths (unicode : UnicodeData) (table : ParsedTable) : List Nat :=
  widest unicode (table.headers.map (displayWidth unicode)) table.rows

section
variable {table : ParsedTable} (rectangular : Rectangular table)
include rectangular

theorem rows_same : ∀ row ∈ table.rows,
    row.length = (table.headers.map (displayWidth unicode)).length := by
  intro row member
  rw [List.length_map]
  exact rectangular.rows row member

theorem tableWidths_length : (tableWidths unicode table).length = table.headers.length := by
  rw [tableWidths, widest_length (rows_same rectangular), List.length_map]

theorem formattedWidth_eq : formattedWidth unicode table =
    some ((tableWidths unicode table).sum + 3 * (table.headers.length - 1) : Nat) := by
  have positive := List.length_pos_iff.mpr rectangular.headers
  rw [formattedWidth, widenRows_eq (rows_same rectangular), ← tableWidths]
  simp only [Option.bind_eq_bind, Option.bind_some, tableWidths_length rectangular, Option.pure_def,
    Option.some.injEq]
  omega

theorem columnWidths_eq :
    (List.range table.headers.length).mapM (columnWidth unicode (table.headers :: table.rows)) =
      some (tableWidths unicode table) := by
  rw [← @tableWidths_length unicode _ rectangular]
  refine mapM_range _ fun index inside => ?_
  rw [tableWidths_length rectangular] at inside
  obtain ⟨cells, found, column⟩ := widest_getElem? (@rows_same unicode _ rectangular)
    (by rwa [List.length_map] : index < _)
  rw [tableWidths, column, columnWidth, List.mapM_cons, found, List.getElem?_eq_getElem inside,
    List.getElem_map]
  simp

theorem fits_tableWidths :
    ∀ row ∈ table.headers :: table.rows, Fits unicode row (tableWidths unicode table) := by
  obtain ⟨grows, fits⟩ := widest_grows (@rows_same unicode _ rectangular)
  have header : Fits unicode table.headers (table.headers.map (displayWidth unicode)) :=
    List.forall₂_map_right_iff.mpr (List.forall₂_same.mpr fun _ _ => le_rfl)
  intro row member
  rcases List.mem_cons.mp member with rfl | later
  · exact header.mono grows
  · exact fits row later

end

/-! ## The lines -/

def paddedCells (unicode : UnicodeData) :
    (widths : List Nat) → List TableAlignment → (row : List Text) → List Text
  | width :: widths, alignment :: alignments, cell :: row =>
    alignDisplay unicode cell width alignment :: paddedCells unicode widths alignments row
  | _, _, _ => []

theorem paddedCells_length (aligned : alignments.length = widths.length)
    (same : row.length = widths.length) :
    (paddedCells unicode widths alignments row).length = widths.length := by
  induction widths generalizing alignments row with
  | nil => rfl
  | cons width widths ih =>
    cases alignments with
    | nil => cases aligned
    | cons alignment alignments =>
      cases row with
      | nil => cases same
      | cons cell row =>
        exact congrArg Nat.succ (ih (Nat.succ.inj aligned) (Nat.succ.inj same))

theorem paddedCells_getElem? (widths : List Nat) (alignments : List TableAlignment)
    (row : List Text) (index : Nat) :
    (do return alignDisplay unicode (← row[index]?) (← widths[index]?) (← alignments[index]?)) =
      (paddedCells unicode widths alignments row)[index]? := by
  induction widths generalizing alignments row index with
  | nil => cases row[index]? <;> rfl
  | cons width widths ih =>
    cases alignments with
    | nil => cases row[index]? <;> cases (width :: widths)[index]? <;> rfl
    | cons alignment alignments =>
      cases row with
      | nil => rfl
      | cons cell row =>
        cases index with
        | zero => rfl
        | succ index => exact ih alignments row index

def rowLine (unicode : UnicodeData) (widths : List Nat) (alignments : List TableAlignment)
    (row : List Text) : Text :=
  ([' ', '|', ' '].intercalate (paddedCells unicode widths alignments row)).rdropWhile isSpace

def separatorLine (widths : List Nat) : Text :=
  ['-', '+', '-'].intercalate (widths.map fun width => List.replicate width '-')

theorem formatRow_eq
    (aligned : alignments.length = widths.length) (same : row.length = widths.length) :
    formatRow unicode widths alignments row = some (rowLine unicode widths alignments row) := by
  have cells := mapM_range (paddedCells unicode widths alignments row)
    fun index _ => paddedCells_getElem? widths alignments row index
  rw [paddedCells_length aligned same] at cells
  rw [formatRow, cells]
  rfl

theorem displayWidth_paddedCells (aligned : alignments.length = widths.length)
    (fits : Fits unicode row widths) :
    (paddedCells unicode widths alignments row).map (displayWidth unicode) = widths := by
  induction fits generalizing alignments with
  | nil => rfl
  | cons fit _ ih =>
    cases alignments with
    | nil => cases aligned
    | cons alignment alignments =>
      rw [paddedCells, List.map_cons, displayWidth_alignDisplay fit, ih (Nat.succ.inj aligned)]

/-- A cell with blanks around it. -/
def Padded (cell shown : Text) : Prop :=
  ∃ before after, shown = List.replicate before ' ' ++ (cell ++ List.replicate after ' ')

theorem padded_alignDisplay (cell : Text) (width : Nat) (alignment : TableAlignment) :
    Padded cell (alignDisplay unicode cell width alignment) := by
  cases alignment with
  | left => exact ⟨0, _, rfl⟩
  | right => exact ⟨_, 0, congrArg _ (List.append_nil cell).symm⟩
  | center => exact ⟨_, _, List.append_assoc _ _ _⟩

theorem padded_paddedCells (aligned : alignments.length = widths.length)
    (same : row.length = widths.length) :
    List.Forall₂ Padded row (paddedCells unicode widths alignments row) := by
  induction widths generalizing alignments row with
  | nil =>
    rw [List.length_eq_zero_iff.mp same]
    exact .nil
  | cons width widths ih =>
    cases alignments with
    | nil => cases aligned
    | cons alignment alignments =>
      cases row with
      | nil => cases same
      | cons cell row =>
        exact .cons (padded_alignDisplay cell width alignment)
          (ih (Nat.succ.inj aligned) (Nat.succ.inj same))

/-! ## The separators -/

/-- The separator before column `k` of a line, which stands behind the first `k` of the
texts that `mark` joins, starts at display column `column`; a blank at its end may have been at the
end of the line. -/
structure SeparatorAt (unicode : UnicodeData) (mark : Text) (shown : List Text) (line : Text)
    (k column : Nat) : Prop where
  stands : mark.intercalate (shown.take k) ++ mark.rdropWhile isSpace <+: line
  starts : displayWidth unicode (mark.intercalate (shown.take k)) = column

/-- A row's line: its padded cells with bars between them, which start where the
separator line, of dashes with crosses between them, has its crosses. -/
def Aligned (unicode : UnicodeData) (separator : Text) (row : List Text) (line : Text) : Prop :=
  ∃ dashes shown, dashes.length = row.length ∧ (∀ dash ∈ dashes, ∀ c ∈ dash, c = '-') ∧
    separator = ['-', '+', '-'].intercalate dashes ∧ List.Forall₂ Padded row shown ∧
    line = ([' ', '|', ' '].intercalate shown).rdropWhile isSpace ∧
    ∀ k, 0 < k → k < row.length → ∃ column,
      SeparatorAt unicode ['-', '+', '-'] dashes separator k column ∧
      SeparatorAt unicode [' ', '|', ' '] shown line k column

/-- The layout of a code table that is `width` wide. -/
structure CodeTableLayout (unicode : UnicodeData) (table : ParsedTable) (width : Nat)
    (header separator : Text) (rows : List Text) : Prop where
  formatted : formattedWidth unicode table = some (width : Int)
  text : formatCodeTable unicode table = some (joinLines (header :: separator :: rows))
  /-- The lines are those of the text if no cell has a line feed. -/
  lines : (∀ row ∈ table.headers :: table.rows, ∀ cell ∈ row, '\n' ∉ cell) →
    (joinLines (header :: separator :: rows)).splitOn '\n' = header :: separator :: rows
  fits : ∀ line ∈ header :: separator :: rows, displayWidth unicode line ≤ width
  full : displayWidth unicode separator = width
  aligned : List.Forall₂ (Aligned unicode separator) (table.headers :: table.rows) (header :: rows)

variable {shown : List Text}

theorem starts_eq (mark : Text) (ascii : ∀ c ∈ mark, c.toNat < 128) (three : mark.length = 3)
    (exact : shown.map (displayWidth unicode) = widths) (k : Nat) :
    displayWidth unicode (mark.intercalate (shown.take k)) =
      (widths.take k).sum + 3 * ((widths.take k).length - 1) := by
  rw [displayWidth_intercalate, displayWidth_ascii unicode ascii, three, List.map_take, exact,
    ← exact, List.length_take, List.length_take, List.length_map]

theorem separatorAt_dashes {dashes : List Text} {k : Nat} (positive : 0 < k)
    (inside : k < dashes.length) :
    SeparatorAt unicode ['-', '+', '-'] dashes (['-', '+', '-'].intercalate dashes) k
      (displayWidth unicode (['-', '+', '-'].intercalate (dashes.take k))) := by
  refine ⟨⟨['-', '+', '-'].intercalate (dashes.drop k), ?_⟩, rfl⟩
  rw [intercalate_take_drop _ positive inside, List.append_assoc]
  rfl

theorem separatorAt_bars {k : Nat} (positive : 0 < k) (inside : k < shown.length) :
    SeparatorAt unicode [' ', '|', ' '] shown
      (([' ', '|', ' '].intercalate shown).rdropWhile isSpace) k
      (displayWidth unicode ([' ', '|', ' '].intercalate (shown.take k))) := by
  refine ⟨⟨(' ' :: [' ', '|', ' '].intercalate (shown.drop k)).rdropWhile isSpace, ?_⟩, rfl⟩
  have kept := rdropWhile_append_kept (c := '|') rfl
    ([' ', '|', ' '].intercalate (shown.take k) ++ [' '])
    (' ' :: [' ', '|', ' '].intercalate (shown.drop k))
  have mark : [' ', '|', ' '].rdropWhile isSpace = [' ', '|'] := rfl
  rw [intercalate_take_drop _ positive inside, mark]
  simpa using kept.symm

theorem displayWidth_dashes (unicode : UnicodeData) (widths : List Nat) :
    (widths.map fun width => List.replicate width '-').map (displayWidth unicode) = widths := by
  rw [List.map_map]
  calc widths.map (displayWidth unicode ∘ fun width => List.replicate width '-')
      = widths.map id := List.map_congr_left fun width _ =>
        displayWidth_replicate unicode (by decide) width
    _ = widths := List.map_id widths

theorem aligned_paddedCells (aligned : alignments.length = widths.length)
    (fits : Fits unicode row widths) :
    Aligned unicode (separatorLine widths) row (rowLine unicode widths alignments row) := by
  have same : row.length = widths.length := fits.length_eq
  refine ⟨_, _, by rw [List.length_map, same], ?_, rfl, padded_paddedCells aligned same, rfl, ?_⟩
  · intro dash member c inside
    obtain ⟨width, _, rfl⟩ := List.mem_map.mp member
    exact List.eq_of_mem_replicate inside
  · intro k positive inside
    refine ⟨_, separatorAt_dashes positive (by rwa [List.length_map, ← same]), ?_⟩
    rw [starts_eq _ (by simp) rfl (displayWidth_dashes unicode widths),
      ← starts_eq [' ', '|', ' '] (by simp) rfl (displayWidth_paddedCells aligned fits)]
    exact separatorAt_bars positive (by rwa [paddedCells_length aligned same, ← same])

theorem displayWidth_rowLine_le (aligned : alignments.length = widths.length)
    (fits : Fits unicode row widths) :
    displayWidth unicode (rowLine unicode widths alignments row) ≤
      widths.sum + 3 * (widths.length - 1) := by
  refine (displayWidth_rdropWhile_le unicode _).trans (le_of_eq ?_)
  rw [displayWidth_intercalate, displayWidth_paddedCells aligned fits,
    paddedCells_length aligned fits.length_eq, displayWidth_ascii unicode (by simp)]
  rfl

theorem displayWidth_separatorLine (unicode : UnicodeData) (widths : List Nat) :
    displayWidth unicode (separatorLine widths) = widths.sum + 3 * (widths.length - 1) := by
  rw [separatorLine, displayWidth_intercalate, displayWidth_dashes, List.length_map,
    displayWidth_ascii unicode (by simp)]
  rfl

/-! ## Line feeds -/

theorem mem_intercalate {mark : Text} {texts : List Text} {c : Char}
    (member : c ∈ mark.intercalate texts) : c ∈ mark ∨ ∃ text ∈ texts, c ∈ text := by
  induction texts with
  | nil => cases member
  | cons text texts ih =>
    cases texts with
    | nil =>
      rw [List.intercalate_singleton] at member
      exact .inr ⟨text, List.mem_cons_self, member⟩
    | cons next texts =>
      rw [List.intercalate_cons_cons, List.mem_append, List.mem_append] at member
      rcases member with (first | joins) | later
      · exact .inr ⟨text, List.mem_cons_self, first⟩
      · exact .inl joins
      · rcases ih later with joins | ⟨other, isText, inside⟩
        · exact .inl joins
        · exact .inr ⟨other, List.mem_cons_of_mem text isText, inside⟩

theorem no_feed_of_padded (padded : List.Forall₂ Padded row shown)
    (whole : ∀ cell ∈ row, '\n' ∉ cell) : ∀ text ∈ shown, '\n' ∉ text := by
  induction padded with
  | nil => exact fun _ member => by cases member
  | cons first _ ih =>
    intro text member feed
    rcases List.mem_cons.mp member with rfl | later
    · obtain ⟨before, after, rfl⟩ := first
      rw [List.mem_append, List.mem_append] at feed
      rcases feed with blank | inside | blank
      · exact absurd (List.eq_of_mem_replicate blank) (by decide)
      · exact whole _ List.mem_cons_self inside
      · exact absurd (List.eq_of_mem_replicate blank) (by decide)
    · exact ih (fun cell inRow => whole cell (List.mem_cons_of_mem _ inRow)) text later feed

theorem no_feed_of_aligned {separator line : Text}
    (aligned : Aligned unicode separator row line) (whole : ∀ cell ∈ row, '\n' ∉ cell) :
    '\n' ∉ line ∧ '\n' ∉ separator := by
  obtain ⟨dashes, shown, _, dashed, rfl, padded, rfl, _⟩ := aligned
  constructor
  · intro feed
    rcases mem_intercalate ((List.rdropWhile_prefix isSpace _).mem feed) with joins | inside
    · exact absurd joins (by decide)
    · obtain ⟨text, member, feed⟩ := inside
      exact no_feed_of_padded padded whole text member feed
  · intro feed
    rcases mem_intercalate feed with joins | ⟨dash, member, feed⟩
    · exact absurd joins (by decide)
    · exact absurd (dashed dash member _ feed) (by decide)

/-! ## The whole table -/

theorem mapM_eq_map {α β : Type} {f : α → Option β} {g : α → β} {items : List α}
    (each : ∀ item ∈ items, f item = some (g item)) : items.mapM f = some (items.map g) := by
  induction items with
  | nil => rfl
  | cons item items ih =>
    rw [List.mapM_cons, each item List.mem_cons_self,
      ih fun other member => each other (List.mem_cons_of_mem item member)]
    rfl

section
variable {table : ParsedTable} (rectangular : Rectangular table)
include rectangular

theorem alignments_length : table.alignments.length = (tableWidths unicode table).length := by
  rw [tableWidths_length rectangular, rectangular.alignments]

theorem aligned_rows : ∀ row ∈ table.headers :: table.rows,
    Aligned unicode (separatorLine (tableWidths unicode table)) row
      (rowLine unicode (tableWidths unicode table) table.alignments row) :=
  fun row member =>
    aligned_paddedCells (alignments_length rectangular) (fits_tableWidths rectangular row member)

theorem codeTableLines_eq : codeTableLines unicode table =
    some (rowLine unicode (tableWidths unicode table) table.alignments table.headers,
      separatorLine (tableWidths unicode table),
      table.rows.map (rowLine unicode (tableWidths unicode table) table.alignments)) := by
  have formatted : ∀ row ∈ table.headers :: table.rows,
      formatRow unicode (tableWidths unicode table) table.alignments row =
        some (rowLine unicode (tableWidths unicode table) table.alignments row) :=
    fun row member => formatRow_eq (alignments_length rectangular)
      (fits_tableWidths rectangular row member).length_eq
  have rows := mapM_eq_map fun row member => formatted row (List.mem_cons_of_mem _ member)
  rw [codeTableLines, columnWidths_eq rectangular]
  simp only [Option.bind_eq_bind, Option.bind_some, rows, formatted _ List.mem_cons_self,
    Option.pure_def]
  rfl

end

theorem formatCodeTable_layout (unicode : UnicodeData) (table : ParsedTable)
    (rectangular : Rectangular table) :
    ∃ width header separator rows,
      CodeTableLayout unicode table width header separator rows := by
  have aligned := @aligned_rows unicode _ rectangular
  have length := @tableWidths_length unicode _ rectangular
  refine ⟨_, rowLine unicode (tableWidths unicode table) table.alignments table.headers,
    separatorLine (tableWidths unicode table),
    table.rows.map (rowLine unicode (tableWidths unicode table) table.alignments),
    formattedWidth_eq rectangular, ?_, ?_, ?_, ?_, ?_⟩
  · rw [formatCodeTable, codeTableLines_eq rectangular]
    rfl
  · intro whole
    refine List.splitOn_intercalate '\n' (fun line member => ?_) (List.cons_ne_nil _ _)
    have header := no_feed_of_aligned (aligned _ List.mem_cons_self) (whole _ List.mem_cons_self)
    rcases List.mem_cons.mp member with rfl | member
    · exact header.1
    · rcases List.mem_cons.mp member with rfl | member
      · exact header.2
      · obtain ⟨row, inTable, rfl⟩ := List.mem_map.mp member
        have later := List.mem_cons_of_mem table.headers inTable
        exact (no_feed_of_aligned (aligned row later) (whole row later)).1
  · have bound : ∀ row ∈ table.headers :: table.rows, displayWidth unicode
        (rowLine unicode (tableWidths unicode table) table.alignments row) ≤
          (tableWidths unicode table).sum + 3 * (table.headers.length - 1) := by
      intro row member
      rw [← length]
      exact displayWidth_rowLine_le (alignments_length rectangular)
        (fits_tableWidths rectangular row member)
    intro line member
    rcases List.mem_cons.mp member with rfl | member
    · exact bound _ List.mem_cons_self
    · rcases List.mem_cons.mp member with rfl | member
      · rw [displayWidth_separatorLine, length]
      · obtain ⟨row, inTable, rfl⟩ := List.mem_map.mp member
        exact bound row (List.mem_cons_of_mem _ inTable)
  · rw [displayWidth_separatorLine, length]
  · exact List.forall₂_map_right_iff.mpr (List.forall₂_same.mpr aligned)

/-! ## A table with wide and combining characters -/

def sampleCombining (c : Char) : Nat := if c.toNat = 0x301 then 230 else 0

def sampleEastAsianWidth (c : Char) : EastAsianWidth :=
  if 0x4e00 ≤ c.toNat ∧ c.toNat ≤ 0x9fff then .wide else .narrow

theorem sampleCombining_ascii (c : Char) (ascii : c.toNat < 128) : sampleCombining c = 0 :=
  if_neg (by omega)

theorem sampleEastAsianWidth_ascii (c : Char) (ascii : c.toNat < 128) :
    sampleEastAsianWidth c = .narrow ∨ sampleEastAsianWidth c = .neutral :=
  .inl (if_neg (by omega))

/-- `unicodedata` for ASCII, ideographs and the acute accent. -/
def sampleUnicode : UnicodeData where
  combining := sampleCombining
  eastAsianWidth := sampleEastAsianWidth
  normalizeNFC := id
  combining_ascii := sampleCombining_ascii
  eastAsianWidth_ascii := sampleEastAsianWidth_ascii

def sampleTable : ParsedTable where
  headers := ["名".toList, "n".toList, "x".toList]
  alignments := [.center, .right, .left]
  rows := [["e\u0301".toList, "100".toList, []], ["name".toList, "2".toList, "y".toList]]
  markdown := []
  sourceHash := []
  sourceSpan := ⟨1, 4⟩
  headerRaw := []
  rowRaw := []
  headerSpan := ⟨1, 1⟩
  rowSpans := [⟨3, 3⟩, ⟨4, 4⟩]

theorem sampleTable_layout : ∃ width header separator rows,
    CodeTableLayout sampleUnicode sampleTable width header separator rows :=
  formatCodeTable_layout sampleUnicode sampleTable ⟨by decide, by decide, by decide⟩

example : codeTableLines sampleUnicode sampleTable = some (" 名  |   n | x".toList,
    "-----+-----+--".toList, [" e\u0301   | 100 |".toList, "name |   2 | y".toList]) := by
  decide +kernel

end Copilotd.Guarantees.CodeTables
