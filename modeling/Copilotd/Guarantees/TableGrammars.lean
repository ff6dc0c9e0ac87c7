import Copilotd.Guarantees.MarkdownBlocks
import Copilotd.Source.Render.Tables

/-!
# The two table grammars

A table candidate's Markdown is read again by `parse_table`.  Both split the same
stripped lines into cells, whatever ends them, so they differ at one place only: the
block parser stops at a row that is too wide, keeps it in the Markdown, and
`parse_table` raises there.
-/
namespace Copilotd.Guarantees.TableGrammars
open Base.PlainText Source.Render.Markdown Source.Render.Tables Guarantees.MarkdownBlocks

variable {library : Library}

/-! ## Cells do not depend on line ends -/

theorem strip_strip (text : Text) : strip (strip text) = strip text := by
  obtain ⟨front, back, blankFront, blankBack, whole⟩ := strip_spec text
  have same := congrArg strip whole
  rw [strip_blank_append blankFront, strip_append_blank blankBack] at same
  exact same.symm

theorem splitTableRow_strip (text : Text) : splitTableRow (strip text) = splitTableRow text := by
  unfold splitTableRow
  rw [strip_strip]

theorem map_splitTableRow {lines others : List Text} (same : lines.map strip = others.map strip) :
    lines.map splitTableRow = others.map splitTableRow := by
  have split : ∀ lines : List Text,
      lines.map splitTableRow = (lines.map strip).map splitTableRow := by
    intro lines
    rw [List.map_map]
    exact List.map_congr_left fun line _ => (splitTableRow_strip line).symm
  rw [split, same, ← split]

theorem content_stripNewline {source line : Text} (member : line ∈ linesWithEnds source)
    (filled : ¬ Blank (stripNewline line)) :
    content (stripNewline line) = [strip (stripNewline line)] := by
  have shape : ∃ body tail, stripNewline line = body ++ tail ∧ (∀ c ∈ body, isLineBreak c = false) ∧
      (tail = [] ∨ ∃ c, isLineBreak c = true ∧ tail = [c]) := by
    obtain ⟨⟨body, tail⟩, isEntry, rfl⟩ := List.mem_map.mp member
    obtain ⟨whole, ends⟩ := splitLines_shape [] source (fun _ absurd => by cases absurd) _ isEntry
    dsimp only at whole ends ⊢
    unfold stripNewline
    rcases ends with rfl | rfl | ⟨c, breaks, rfl⟩
    · rw [List.append_nil]
      split
      next feed =>
        have inside := whole '\n' (List.mem_of_mem_getLast? feed)
        cases inside
      · exact ⟨body, [], by simp, whole, .inl rfl⟩
    · refine ⟨body, ['\r'], ?_, whole, .inr ⟨'\r', by decide, rfl⟩⟩
      simp [List.dropLast_append_of_ne_nil]
    · split
      · exact ⟨body, [], by simp, whole, .inl rfl⟩
      · exact ⟨body, [c], rfl, whole, .inr ⟨c, breaks, rfl⟩⟩
  obtain ⟨body, tail, isText, whole, ends⟩ := shape
  have blank : Blank tail := by
    rcases ends with rfl | ⟨c, breaks, rfl⟩
    · rfl
    · simpa [Blank] using isSpace_of_isLineBreak breaks
  have some_ : strip body ≠ [] := by
    intro empty
    exact filled (isText ▸ blank_append.mpr ⟨strip_eq_nil.mp empty, blank⟩)
  rw [isText, content_append_blank blank, strip_append_blank blank, content_of_line whole,
    List.filter_singleton, decide_eq_true some_]
  rfl

theorem content_joinLines (texts : List Text) :
    content (joinLines texts) = (texts.map content).flatten := by
  induction texts with
  | nil => rfl
  | cons text texts ih =>
    cases texts with
    | nil => simp [joinLines, List.intercalate]
    | cons next texts =>
      have joined :
        joinLines (text :: next :: texts) = text ++ '\n' :: joinLines (next :: texts) := by
        simp [joinLines, List.intercalate]
      rw [joined, content_append_break _ _ (by decide), ih]
      rfl

theorem cells_of_joinLines {texts : List Text}
    (each : ∀ text ∈ texts, content text = [strip text]) :
    ((splitlines (strip (joinLines texts))).filter fun line => ¬ Blank line).map splitTableRow =
      texts.map splitTableRow := by
  apply map_splitTableRow
  have found := content_splitlines (strip (joinLines texts))
  have pieces : (texts.map content).flatten = texts.map strip := by
    rw [List.map_congr_left each]
    exact (List.flatMap_def ..).symm.trans (List.flatMap_pure_eq_map ..)
  rw [content_strip, content_joinLines, pieces, List.filter_map] at found
  rw [← found]
  congr 1
  apply List.filter_congr
  intro line _
  simp [strip_eq_nil]

/-! ## Candidates -/

theorem parseLoop_tables {rounds index : Nat} {lines : List Text} {blocks : List MarkdownAstNode}
    {candidate : MarkdownTableCandidate}
      (parsed : parseLoop library rounds index lines = .ok blocks)
    (member : .tableCandidate candidate ∈ blocks) : ∃ offset count,
      tryConsumeTable library (index + offset) (lines.drop offset) =
        .ok (some (candidate, count)) := by
  induction rounds generalizing index lines blocks with
  | zero =>
    cases lines with
    | nil =>
      cases parsed
      cases member
    | cons => cases parsed
  | succ rounds ih =>
    cases lines with
    | nil =>
      cases parsed
      cases member
    | cons line rest =>
      unfold parseLoop at parsed
      split at parsed
      · obtain ⟨offset, count, taken⟩ := ih parsed member
        refine ⟨offset + 1, count, ?_⟩
        rw [List.drop_succ_cons, Nat.add_comm offset, ← Nat.add_assoc]
        exact taken
      next filled =>
        obtain ⟨node, count, consumed, takes, tables⟩ :=
          @consumeMarkdownBlock_takes library index line rest filled
        rw [consumed] at parsed
        dsimp only [bind, Except.bind] at parsed
        split at parsed
        · cases parsed
        next later isLater =>
          cases parsed
          rcases List.mem_cons.mp member with same | later
          · exact ⟨0, count, tables candidate same.symm⟩
          · obtain ⟨offset, size, taken⟩ := ih isLater later
            refine ⟨count + offset, size, ?_⟩
            rw [← List.drop_drop, ← Nat.add_assoc]
            exact taken

/-- `parse_table` reads the candidate's Markdown as the same table. -/
def Agrees (library : Library) (candidate : MarkdownTableCandidate) : Prop :=
  ∃ parsed, parseTable library candidate.markdown 1 = .ok parsed ∧
    parsed.headers = candidate.headers ∧
    parsed.alignments.map TableAlignment.value = candidate.alignments ∧
    parsed.rows = candidate.rows

/-- No line behind the delimiter splits into more cells than the header. -/
def NoWideRow (source : Text) (span : MarkdownSpan) : Prop :=
  ∀ header row, (linesWithEnds source)[span.startLine - 1]? = some header →
    row ∈ ((linesWithEnds source).take span.endLine).drop (span.startLine + 1) →
    (splitTableRow (stripNewline row)).length ≤ (splitTableRow (stripNewline header)).length

theorem parseTableAlignment_eq (cell : Text) :
    parseTableAlignment cell = (parseAlignment cell).map TableAlignment.value := by
  simp only [parseTableAlignment, parseAlignment]
  split
  · rfl
  · split
    · rfl
    · split <;> rfl

theorem mapM_alignments_eq (cells : List Text) : cells.mapM parseTableAlignment =
    (cells.mapM parseAlignment).map fun alignments => alignments.map TableAlignment.value := by
  induction cells with
  | nil => rfl
  | cons cell cells ih =>
    rw [List.mapM_cons, List.mapM_cons, parseTableAlignment_eq, ih]
    cases parseAlignment cell with
    | error => rfl
    | ok alignment =>
      cases cells.mapM parseAlignment with
      | error => rfl
      | ok alignments => rfl

theorem mapM_parseRow (width : Nat) (lines : List Text) :
    lines.mapM (parseRow width) =
      if ∀ cells ∈ lines.map splitTableRow, cells.length ≤ width then
        .ok (lines.map splitTableRow) else .error "table row has more cells than its header" := by
  induction lines with
  | nil => rfl
  | cons line lines ih =>
    rw [List.mapM_cons, ih, List.map_cons]
    simp only [List.forall_mem_cons]
    by_cases wide : (splitTableRow line).length > width
    · have one : parseRow width line = .error "table row has more cells than its header" :=
        if_pos wide
      rw [one]
      exact (if_neg fun both => absurd both.1 (not_le.mpr wide)).symm
    · have one : parseRow width line = .ok (splitTableRow line) := if_neg wide
      rw [one]
      by_cases all : ∀ cells ∈ lines.map splitTableRow, cells.length ≤ width
      · rw [if_pos all, if_pos ⟨not_lt.mp wide, all⟩]
        rfl
      · rw [if_neg all, if_neg fun both => all both.2]
        rfl

theorem filled_of_cells {line : Text} (cells : 2 ≤ (splitTableRow line).length) : ¬ Blank line := by
  intro blank
  rw [← splitTableRow_strip, strip_eq_nil.mpr blank] at cells
  exact absurd cells (by decide)

theorem tableRows_look (lines : List Text) : ∀ line ∈ lines.take (tableRows lines),
    looksLikeTableRow (stripNewline line) = true := by
  induction lines with
  | nil => exact fun _ member => by cases member
  | cons line rest ih =>
    unfold tableRows
    split
    next looks =>
      rw [Nat.add_comm, List.take_succ_cons]
      exact List.forall_mem_cons.mpr ⟨looks, ih⟩
    · exact fun _ member => by cases member

theorem agrees_of_taken {source header delimiter : Text} {rest : List Text} {index count : Nat}
    {candidate : MarkdownTableCandidate}
    (known : ∀ line ∈ header :: delimiter :: rest, line ∈ linesWithEnds source)
    (taken : tryConsumeTable library index (header :: delimiter :: rest) =
      .ok (some (candidate, count))) :
    candidate.span = ⟨index + 1, index + (2 + tableRows rest)⟩ ∧
    (Agrees library candidate ↔ ∀ row ∈ rest.take (tableRows rest),
      (splitTableRow (stripNewline row)).length ≤
        (splitTableRow (stripNewline header)).length) := by
  unfold tryConsumeTable at taken
  dsimp only at taken
  split at taken
  next looks =>
    simp only [looksLikeTableHeader, decide_eq_true_eq] at looks
    obtain ⟨two, widths, delimits⟩ := looks
    obtain ⟨alignments, aligned⟩ := mapM_alignments delimits
    rw [aligned] at taken
    cases taken
    refine ⟨rfl, ?_⟩
    have lines : (header :: delimiter :: rest).take (2 + tableRows rest) =
        header :: delimiter :: rest.take (tableRows rest) := by
      rw [Nat.add_comm]
      rfl
    have each : ∀ text ∈ ((header :: delimiter :: rest).take (2 + tableRows rest)).map stripNewline,
        content text = [strip text] := by
      intro text member
      obtain ⟨line, isLine, rfl⟩ := List.mem_map.mp member
      apply content_stripNewline (known line (List.mem_of_mem_take isLine))
      rw [lines] at isLine
      rcases List.mem_cons.mp isLine with rfl | isLine
      · exact filled_of_cells two
      · rcases List.mem_cons.mp isLine with rfl | isLine
        · exact filled_of_cells (widths ▸ two)
        · have row := tableRows_look rest line isLine
          simp only [looksLikeTableRow, decide_eq_true_eq] at row
          exact row.1
    have cells := cells_of_joinLines each
    have rowCells : ∀ width, (∀ cells ∈ ((rest.take (tableRows rest)).map stripNewline).map
        splitTableRow, cells.length ≤ width) ↔ ∀ row ∈ rest.take (tableRows rest),
          (splitTableRow (stripNewline row)).length ≤ width := by
      intro width
      simp only [List.forall_mem_map]
    rw [lines] at cells ⊢
    simp only [List.map_cons] at cells ⊢
    rw [← rowCells]
    unfold Agrees parseTable
    generalize (splitlines (strip (joinLines _))).filter _ = read at cells ⊢
    obtain ⟨first, read, rfl, isHeader, cells⟩ := List.map_eq_cons_iff.mp cells
    obtain ⟨second, read, rfl, isDelimiter, cells⟩ := List.map_eq_cons_iff.mp cells
    rw [mapM_alignments_eq] at aligned
    dsimp only
    rw [isHeader, isDelimiter, if_neg (by omega), mapM_parseRow, cells]
    cases parsed : (splitTableRow (stripNewline delimiter)).mapM parseAlignment with
    | error =>
      rw [parsed] at aligned
      cases aligned
    | ok others =>
      rw [parsed] at aligned
      cases aligned
      constructor
      · rintro ⟨table, isTable, _⟩
        by_contra wide
        rw [if_neg wide] at isTable
        cases isTable
      · intro narrow
        rw [if_pos narrow]
        refine ⟨_, rfl, rfl, rfl, ?_⟩
        rw [List.takeWhile_eq_self_iff.mpr]
        · rfl
        · intro cells member
          exact decide_eq_true (not_lt.mpr (narrow cells member))
  · cases taken

/-- `parse_table` reads a candidate as the same table exactly if the source has no row
that is too wide in its span. -/
theorem table_grammars_agree_iff (library : Library) (source : Text) : ∃ blocks,
    parseMarkdownBlocks library source = .ok blocks ∧
    ∀ candidate, .tableCandidate candidate ∈ blocks →
      (Agrees library candidate ↔ NoWideRow source candidate.span) := by
  obtain ⟨blocks, parsed, _⟩ := @parseLoop_covers library _ 0 (linesWithEnds source) le_rfl
  refine ⟨blocks, parsed, ?_⟩
  intro candidate member
  obtain ⟨offset, count, taken⟩ := parseLoop_tables parsed member
  rw [Nat.zero_add] at taken
  cases isLines : (linesWithEnds source).drop offset with
  | nil =>
    rw [isLines] at taken
    cases taken
  | cons header rest =>
    cases rest with
    | nil =>
      rw [isLines] at taken
      cases taken
    | cons delimiter rest =>
      rw [isLines] at taken
      obtain ⟨span, agrees⟩ := agrees_of_taken
        (fun line member => List.mem_of_mem_drop (isLines ▸ member)) taken
      have isHeader : (linesWithEnds source)[offset]? = some header := by
        rw [← Nat.add_zero offset, ← List.getElem?_drop, isLines]
        rfl
      have rows : ((linesWithEnds source).take (offset + (2 + tableRows rest))).drop (offset + 2) =
          rest.take (tableRows rest) := by
        rw [← List.drop_drop, List.drop_take, isLines, Nat.add_sub_cancel_left, Nat.add_comm 2]
        rfl
      rw [agrees, NoWideRow, span]
      dsimp only
      rw [Nat.add_sub_cancel, Nat.add_assoc offset 1 1, rows, isHeader]
      constructor
      · rintro narrow _ row ⟨⟩ inRows
        exact narrow row inRows
      · exact fun narrow row inRows => narrow header row rfl inRows

def asciiLibrary : Library := ⟨fun c => '0' ≤ c ∧ c ≤ '9', fun text => text⟩

def wideTable : Text := "| a | b |\n| --- | --- |\n| 1 | 2 | 3 |".toList

/-- What the block parser makes of it: the row is in the Markdown and in no other field. -/
def wideCandidate : MarkdownTableCandidate where
  markdown := wideTable
  span := ⟨1, 3⟩
  headers := ["a".toList, "b".toList]
  alignments := ["left", "left"]
  rows := []
  rawHeaders := ["a".toList, "b".toList]
  rawRows := []
  sourceHash := wideTable

theorem wide_row_is_refused :
    parseMarkdownBlocks asciiLibrary wideTable = .ok [.tableCandidate wideCandidate] ∧
    ¬ Agrees asciiLibrary wideCandidate := by
  refine ⟨by decide +kernel, ?_⟩
  rintro ⟨table, parsed, _⟩
  have refused : parseTable asciiLibrary wideCandidate.markdown 1 =
      .error "table row has more cells than its header" := by decide +kernel
  rw [refused] at parsed
  cases parsed

end Copilotd.Guarantees.TableGrammars
