import Copilotd.Source.Render.Markdown

/-!
# The blocks cover the document

Every consumer takes between one line and all lines that are left, never raises, and
reports the lines it took as the span of its block.  So the main loop advances, the
spans follow each other, and only blank lines lie between them.
-/
namespace Copilotd.Guarantees.MarkdownBlocks
open Base.PlainText Source.Render.Markdown

variable {library : Library} {index : Nat} {line : Text} {rest : List Text}

theorem blank_of_stripNewline {text : Text} (blank : Blank (stripNewline text)) : Blank text := by
  unfold stripNewline at blank
  split at blank
  next ends =>
    obtain ⟨front, rfl⟩ := List.getLast?_eq_some_iff.mp ends
    rw [List.dropLast_concat] at blank
    exact blank_append.mpr ⟨blank, rfl⟩
  · exact blank

/-! ## Consumers -/

/-- A block of the first `count` of the given lines. -/
def Takes (index : Nat) (lines : List Text) (node : MarkdownAstNode) (count : Nat) : Prop :=
  1 ≤ count ∧ count ≤ lines.length ∧ node.span = ⟨index + 1, index + count⟩

theorem tableRows_le (lines : List Text) : tableRows lines ≤ lines.length := by
  induction lines with
  | nil => exact le_rfl
  | cons line rest ih =>
    unfold tableRows
    rw [List.length_cons]
    split <;> omega

theorem mapM_alignments {cells : List Text}
    (delimits : cells.all (fun cell => isDelimiterCell (strip cell)) = true) :
    ∃ alignments, cells.mapM parseTableAlignment = .ok alignments := by
  induction cells with
  | nil => exact ⟨[], rfl⟩
  | cons cell cells ih =>
    rw [List.all_cons, Bool.and_eq_true] at delimits
    obtain ⟨alignments, parsed⟩ := ih delimits.2
    have one : ∃ alignment, parseTableAlignment cell = .ok alignment := by
      simp only [parseTableAlignment, delimits.1, not_true_eq_false, ↓reduceIte]
      split
      · exact ⟨_, rfl⟩
      · split <;> exact ⟨_, rfl⟩
    obtain ⟨alignment, first⟩ := one
    exact ⟨alignment :: alignments, by rw [List.mapM_cons, first, parsed]; rfl⟩

theorem tryConsumeTable_takes : ∃ table, tryConsumeTable library index (line :: rest) = .ok table ∧
    ∀ node count, table = some (node, count) →
      Takes index (line :: rest) (.tableCandidate node) count := by
  unfold tryConsumeTable
  cases rest with
  | nil => exact ⟨none, rfl, fun _ _ absurd => by cases absurd⟩
  | cons delimiter rest =>
    dsimp only
    split
    next header =>
      simp only [looksLikeTableHeader, decide_eq_true_eq] at header
      obtain ⟨alignments, parsed⟩ := mapM_alignments header.2.2
      rw [parsed]
      refine ⟨_, rfl, ?_⟩
      intro node count isSome
      cases isSome
      have short := tableRows_le rest
      exact ⟨by omega, by simp only [List.length_cons]; omega, rfl⟩
    · exact ⟨none, rfl, fun _ _ absurd => by cases absurd⟩

theorem fenceLines_le (character : Char) (length : Nat) (lines : List Text) :
    (fenceLines character length lines).1 ≤ lines.length := by
  induction lines with
  | nil => exact le_rfl
  | cons line rest ih =>
    unfold fenceLines
    rw [List.length_cons]
    split
    · dsimp only
      omega
    · dsimp only
      omega

variable {node : MarkdownAstNode}

theorem tryConsumeFence_takes {count : Nat}
    (taken : tryConsumeFence index line rest = some (node, count)) :
    Takes index (line :: rest) node count ∧ node.isTable = false := by
  obtain ⟨⟨fence, info⟩, _, taken⟩ := Option.map_eq_some_iff.mp taken
  cases taken
  have short := fenceLines_le (fence.head?.getD '`') fence.length rest
  refine ⟨⟨by omega, by rw [List.length_cons]; omega, ?_⟩, rfl⟩
  rw [MarkdownAstNode.span, Nat.add_assoc]

theorem quotedLines_le (lines : List Text) : (quotedLines lines).length ≤ lines.length := by
  induction lines with
  | nil => exact le_rfl
  | cons line rest ih =>
    unfold quotedLines
    split
    · split
      · split
        · simpa using ih
        · exact Nat.zero_le _
      · exact Nat.zero_le _
    · split
      · simpa using ih
      · exact Nat.zero_le _

theorem tryConsumeBlockquote_takes {count : Nat} (filled : ¬ Blank (stripNewline line))
    (quote : tryConsumeBlockquote index line rest = some (node, count)) :
    Takes index (line :: rest) node count ∧ node.isTable = false := by
  unfold tryConsumeBlockquote at quote
  split at quote
  next quoted =>
    cases quote
    refine ⟨⟨?_, quotedLines_le _, rfl⟩, rfl⟩
    obtain ⟨body, isBody⟩ := Option.isSome_iff_exists.mp quoted
    rw [quotedLines, if_neg filled, isBody]
    exact Nat.succ_pos _
  · cases quote

/-- The line at the offset begins a list item. -/
def Item (library : Library) (lines : List Text) (offset : Nat) : Prop :=
  ∃ first, lines[offset]? = some first ∧ (listItem library (stripNewline first)).isSome

theorem makeListItem_ok {lines : List Text} {itemStart stop : Nat}
    (item : Item library lines itemStart)
    (later : itemStart < stop) : ∃ made, makeListItem library
      ((lines.drop itemStart).take (stop - itemStart)) (index + itemStart) = .ok made := by
  obtain ⟨first, isFirst, matched⟩ := item
  obtain ⟨inside, rfl⟩ := List.getElem?_eq_some_iff.mp isFirst
  obtain ⟨⟨indent, marker, body⟩, isItem⟩ := Option.isSome_iff_exists.mp matched
  obtain ⟨size, more⟩ := Nat.exists_eq_add_of_lt later
  have length : stop - itemStart = size + 1 := by omega
  rw [List.drop_eq_getElem_cons inside, length, List.take_succ_cons, makeListItem]
  rw [isItem]
  exact ⟨_, rfl⟩

theorem listLoop_ok {firstIndent : Nat} {lines : List Text} (left : List Text)
    (stop itemStart : Nat) (items : List MarkdownListItem) (isLeft : left = lines.drop stop)
    (bound : stop ≤ lines.length) (item : Item library lines itemStart) :
    ∃ stop' itemStart' items',
      listLoop library index firstIndent lines left stop itemStart items =
        .ok (stop', itemStart', items') ∧
      stop ≤ stop' ∧ stop' ≤ lines.length ∧ Item library lines itemStart' := by
  induction left generalizing stop itemStart items with
  | nil => exact ⟨stop, itemStart, items, rfl, le_rfl, bound, item⟩
  | cons line rest ih =>
    have inside : stop < lines.length := by
      by_contra outside
      rw [List.drop_eq_nil_of_le (not_lt.mp outside)] at isLeft
      cases isLeft
    rw [List.drop_eq_getElem_cons inside] at isLeft
    obtain ⟨isLine, isRest⟩ := List.cons.inj isLeft
    have go : ∀ itemStart items, Item library lines itemStart → ∃ stop' itemStart' items',
        listLoop library index firstIndent lines rest (stop + 1) itemStart items =
          .ok (stop', itemStart', items') ∧
        stop ≤ stop' ∧ stop' ≤ lines.length ∧ Item library lines itemStart' := by
      intro itemStart items item
      obtain ⟨stop', itemStart', items', done, le, bounds⟩ :=
        ih _ itemStart items isRest inside item
      exact ⟨stop', itemStart', items', done, by omega, bounds⟩
    unfold listLoop
    dsimp only
    split
    · exact go itemStart items item
    · split
      next indent marked isItem =>
        have here : Item library lines stop := by
          refine ⟨line, ?_, by rw [isItem]; rfl⟩
          rw [isLine]
          exact List.getElem?_eq_getElem inside
        split
        · exact ⟨stop, itemStart, items, rfl, le_rfl, bound, item⟩
        · split
          next later =>
            obtain ⟨made, isMade⟩ := @makeListItem_ok library index _ _ _ item later
            rw [isMade]
            exact go stop (items ++ [made]) here
          · exact go stop items here
      · split
        · exact ⟨stop, itemStart, items, rfl, le_rfl, bound, item⟩
        · exact go itemStart items item

theorem tryConsumeList_takes : ∃ list, tryConsumeList library index line rest = .ok list ∧
    ∀ node count, list = some (node, count) →
      Takes index (line :: rest) node count ∧ node.isTable = false := by
  unfold tryConsumeList
  split
  · exact ⟨none, rfl, fun _ _ absurd => by cases absurd⟩
  next indent marker body isItem =>
    have first : Item library (line :: rest) 0 := ⟨line, rfl, by rw [isItem]; rfl⟩
    -- the first line is blank or an item of the same indent, so the loop passes it
    have passes : listLoop library index (indentWidth indent) (line :: rest) (line :: rest) 0 0 [] =
        listLoop library index (indentWidth indent) (line :: rest) rest 1 0 [] := by
      rw [listLoop, isItem]
      simp
    obtain ⟨stop, itemStart, items, done, later, bound, item⟩ :=
      @listLoop_ok library index (indentWidth indent) _ rest 1 0 [] rfl (by simp) first
    dsimp only
    rw [passes, done]
    by_cases ends : itemStart < stop
    · obtain ⟨made, isMade⟩ := @makeListItem_ok library index _ _ _ item ends
      refine ⟨some (.listBlock (marker.head?.any library.isDecimal) (items ++ [made])
        ((line :: rest).take stop).flatten ⟨index + 1, index + stop⟩, stop), ?_, ?_⟩
      · dsimp only [bind, Except.bind]
        rw [if_pos ends, isMade]
        rfl
      · intro node count isSome
        cases isSome
        exact ⟨⟨later, bound, rfl⟩, rfl⟩
    · refine ⟨some (.listBlock (marker.head?.any library.isDecimal) items
        ((line :: rest).take stop).flatten ⟨index + 1, index + stop⟩, stop), ?_, ?_⟩
      · dsimp only [bind, Except.bind]
        rw [if_neg ends]
        rfl
      · intro node count isSome
        cases isSome
        exact ⟨⟨later, bound, rfl⟩, rfl⟩

theorem paragraphLines_le (lines : List Text) : paragraphLines library lines ≤ lines.length := by
  induction lines with
  | nil => exact le_rfl
  | cons line rest ih =>
    unfold paragraphLines
    rw [List.length_cons]
    split <;> omega

theorem consumeMarkdownBlock_takes (filled : ¬ Blank (stripNewline line)) : ∃ node count,
    consumeMarkdownBlock library index line rest = .ok (node, count) ∧
      Takes index (line :: rest) node count ∧
      ∀ table, node = .tableCandidate table →
        tryConsumeTable library index (line :: rest) = .ok (some (table, count)) := by
  unfold consumeMarkdownBlock
  have other : ∀ {node : MarkdownAstNode} {count : Nat}, node.isTable = false →
      ∀ table, node = .tableCandidate table →
        tryConsumeTable library index (line :: rest) = .ok (some (table, count)) := by
    rintro _ _ plain table rfl
    cases plain
  obtain ⟨table, isTable, tableTakes⟩ := @tryConsumeTable_takes library index line rest
  cases table with
  | some table =>
    refine ⟨.tableCandidate table.1, table.2, ?_, tableTakes _ _ rfl, ?_⟩
    · rw [isTable]
      rfl
    · rintro _ ⟨⟩
      exact isTable
  | none =>
    rw [isTable]
    cases isFence : tryConsumeFence index line rest with
    | some fence =>
      obtain ⟨takes, plain⟩ := tryConsumeFence_takes isFence
      exact ⟨fence.1, fence.2, rfl, takes, isTable ▸ other plain⟩
    | none =>
      cases isQuote : tryConsumeBlockquote index line rest with
      | some quote =>
        obtain ⟨takes, plain⟩ := tryConsumeBlockquote_takes filled isQuote
        exact ⟨quote.1, quote.2, rfl, takes, isTable ▸ other plain⟩
      | none =>
        obtain ⟨list, isList, listTakes⟩ := @tryConsumeList_takes library index line rest
        rw [isList]
        cases list with
        | some list =>
          obtain ⟨takes, plain⟩ := listTakes list.1 list.2 rfl
          exact ⟨list.1, list.2, rfl, takes, isTable ▸ other plain⟩
        | none =>
          dsimp only
          split
          · exact ⟨_, _, rfl, ⟨le_rfl, by simp, rfl⟩, isTable ▸ other rfl⟩
          · have short := @paragraphLines_le library rest
            refine ⟨_, _, rfl, ⟨by simp, ?_, rfl⟩, isTable ▸ other rfl⟩
            rw [List.length_cons]
            omega

/-! ## The main loop -/

/-- The line number lies in the span of the block. -/
def Holds (number : Nat) (node : MarkdownAstNode) : Prop :=
  node.span.startLine ≤ number ∧ number ≤ node.span.endLine

instance (number : Nat) : DecidablePred (Holds number) := fun node =>
  inferInstanceAs (Decidable (node.span.startLine ≤ number ∧ number ≤ node.span.endLine))

/-- The blocks follow each other on the lines behind the index and leave blank lines only. -/
structure Covers (index : Nat) (lines : List Text) (blocks : List MarkdownAstNode) : Prop where
  increasing : blocks.Pairwise fun earlier later => earlier.span.endLine < later.span.startLine
  within : ∀ node ∈ blocks, index < node.span.startLine ∧
    node.span.startLine ≤ node.span.endLine ∧ node.span.endLine ≤ index + lines.length
  filled : ∀ offset line, lines[offset]? = some line → ¬ Blank line →
    ∃ node ∈ blocks, Holds (index + offset + 1) node

theorem Covers.nil (index : Nat) : Covers index [] [] :=
  ⟨List.Pairwise.nil, fun _ member => (List.not_mem_nil member).elim,
    fun _ _ isLine => by cases isLine⟩

variable {blocks : List MarkdownAstNode}

theorem Covers.skip (blank : Blank line)
    (covers : Covers (index + 1) rest blocks) : Covers index (line :: rest) blocks := by
  refine ⟨covers.increasing, ?_, ?_⟩
  · intro node member
    obtain ⟨start, order, stop⟩ := covers.within node member
    rw [List.length_cons]
    omega
  · intro offset other isLine filled
    cases offset with
    | zero =>
      cases isLine
      exact absurd blank filled
    | succ offset =>
      obtain ⟨node, member, holds⟩ := covers.filled offset other isLine filled
      rw [Nat.add_right_comm index 1 offset] at holds
      exact ⟨node, member, holds⟩

theorem Covers.take {lines : List Text} {count : Nat} (takes : Takes index lines node count)
    (covers : Covers (index + count) (lines.drop count) blocks) :
    Covers index lines (node :: blocks) := by
  obtain ⟨some_, bound, span⟩ := takes
  have within := covers.within
  rw [List.length_drop] at within
  refine ⟨List.pairwise_cons.mpr ⟨?_, covers.increasing⟩, ?_, ?_⟩
  · intro later member
    rw [span]
    exact (within later member).1
  · intro other member
    rcases List.mem_cons.mp member with rfl | later
    · rw [span]
      dsimp only
      omega
    · have inside := within other later
      omega
  · intro offset line isLine filled
    by_cases taken : offset < count
    · refine ⟨node, List.mem_cons_self .., ?_⟩
      rw [Holds, span]
      dsimp only
      omega
    · have isLater : (lines.drop count)[offset - count]? = some line := by
        rw [List.getElem?_drop, Nat.add_sub_cancel' (not_lt.mp taken)]
        exact isLine
      obtain ⟨other, member, holds⟩ := covers.filled _ line isLater filled
      refine ⟨other, List.mem_cons_of_mem node member, ?_⟩
      have same : index + count + (offset - count) + 1 = index + offset + 1 := by omega
      rw [← same]
      exact holds

theorem parseLoop_covers (rounds index : Nat) (lines : List Text) (enough : lines.length ≤ rounds) :
    ∃ blocks, parseLoop library rounds index lines = .ok blocks ∧ Covers index lines blocks := by
  induction rounds generalizing index lines with
  | zero =>
    rw [List.length_eq_zero_iff.mp (Nat.le_zero.mp enough)]
    exact ⟨[], rfl, .nil index⟩
  | succ rounds ih =>
    cases lines with
    | nil => exact ⟨[], rfl, .nil index⟩
    | cons line rest =>
      rw [List.length_cons] at enough
      unfold parseLoop
      by_cases blank : Blank (stripNewline line)
      · rw [if_pos blank]
        obtain ⟨blocks, parsed, covers⟩ := ih (index + 1) rest (by omega)
        exact ⟨blocks, parsed, covers.skip (blank_of_stripNewline blank)⟩
      · rw [if_neg blank]
        obtain ⟨node, count, consumed, takes, _⟩ :=
          @consumeMarkdownBlock_takes library index line rest blank
        obtain ⟨blocks, parsed, covers⟩ := ih (index + count) ((line :: rest).drop count) (by
          have some_ := takes.1
          rw [List.length_drop, List.length_cons]
          omega)
        refine ⟨node :: blocks, ?_, covers.take takes⟩
        rw [consumed]
        dsimp only [bind, Except.bind]
        rw [parsed]
        rfl

theorem countP_holds_le
    (increasing : blocks.Pairwise fun earlier later => earlier.span.endLine < later.span.startLine)
    (number : Nat) : blocks.countP (fun node => Holds number node) ≤ 1 := by
  induction blocks with
  | nil => exact Nat.zero_le 1
  | cons node blocks ih =>
    obtain ⟨before, increasing⟩ := List.pairwise_cons.mp increasing
    by_cases holds : Holds number node
    · have none_ : blocks.countP (fun node => Holds number node) = 0 := by
        rw [List.countP_eq_zero]
        intro other member both
        have less := before other member
        have also := of_decide_eq_true both
        unfold Holds at holds also
        omega
      rw [List.countP_cons, none_]
      split <;> omega
    · rw [List.countP_cons, if_neg (by simpa using holds)]
      exact ih increasing

/-- Parsing ends without an error, with spans that increase within the document and
hold every nonblank line once. -/
theorem blocks_cover_document (library : Library) (source : Text) : ∃ blocks,
    parseMarkdownBlocks library source = .ok blocks ∧
    blocks.Pairwise (fun earlier later => earlier.span.endLine < later.span.startLine) ∧
    (∀ node ∈ blocks, 1 ≤ node.span.startLine ∧ node.span.startLine ≤ node.span.endLine ∧
      node.span.endLine ≤ (linesWithEnds source).length) ∧
    ∀ number line, (linesWithEnds source)[number]? = some line → ¬ Blank line →
      blocks.countP (fun node => Holds (number + 1) node) = 1 := by
  obtain ⟨blocks, parsed, covers⟩ :=
    @parseLoop_covers library _ 0 (linesWithEnds source) le_rfl
  refine ⟨blocks, parsed, covers.increasing, ?_, ?_⟩
  · intro node member
    obtain ⟨start, order, stop⟩ := covers.within node member
    omega
  · intro number line isLine filled
    obtain ⟨node, member, holds⟩ := covers.filled number line isLine filled
    rw [Nat.zero_add] at holds
    apply le_antisymm (countP_holds_le covers.increasing _)
    exact List.countP_pos_iff.mpr ⟨node, member, decide_eq_true holds⟩

end Copilotd.Guarantees.MarkdownBlocks
