import Copilotd.Guarantees.MessagePlans

/-!
# No text is lost

Blocks and messages change the whitespace between lines and nothing else: what is printed of a
text arrives once, in its order.
-/
namespace Copilotd.Guarantees.MarkdownText
open Base.PlainText Source.Render.Markdown Source.Render.MessagePlans Guarantees.MarkdownBlocks

/-- The characters that are no whitespace. -/
def ink (text : Text) : Text := text.filter fun c => ¬ isSpace c

@[simp] theorem ink_append (front back : Text) : ink (front ++ back) = ink front ++ ink back :=
  List.filter_append ..

@[simp] theorem ink_lineFeed (text : Text) : ink ('\n' :: text) = ink text := rfl

theorem ink_of_blank {text : Text} (blank : Blank text) : ink text = [] := by
  simpa [ink, Blank] using blank

theorem ink_rdropWhile {p : Char → Bool} (space : ∀ c, p c = true → isSpace c = true)
    (text : Text) :
    ink (text.rdropWhile p) = ink text := by
  have rest : Blank (text.rtakeWhile p) :=
    List.all_eq_true.mpr fun c member => space c (List.mem_rtakeWhile_imp member)
  conv_rhs => rw [← List.rdropWhile_append_rtakeWhile (p := p) (l := text), ink_append,
    ink_of_blank rest, List.append_nil]

theorem ink_stripNewline (line : Text) : ink (stripNewline line) = ink line := by
  induction line using List.reverseRecOn with
  | nil => rfl
  | append_singleton front c _ =>
    by_cases feed : c = '\n' <;> simp +decide [stripNewline, feed, ink]

theorem ink_joinLines (lines : List Text) :
    ink (joinLines (lines.map stripNewline)) = ink lines.flatten := by
  induction lines with
  | nil => rfl
  | cons line lines ih =>
    cases lines <;> simp_all [joinLines, List.intercalate, ink_stripNewline]

/-! ## Blocks -/

/-- The text of a block: `raw`, or the Markdown of a table. -/
def blockText : MarkdownAstNode → Text
  | .paragraph _ raw _ | .listBlock _ _ raw _ | .blockquote _ raw _ | .fence _ _ _ raw _
  | .thematicBreak raw _ => raw
  | .tableCandidate table => table.markdown

variable {library : Library} {index count : Nat} {line : Text} {rest : List Text}
  {node : MarkdownAstNode} {blocks : List MarkdownAstNode}

theorem consumed_text
    (consumed : consumeMarkdownBlock library index line rest = .ok (node, count)) :
    blockText node = ((line :: rest).take count).flatten ∨
      blockText node = joinLines (((line :: rest).take count).map stripNewline) := by
  unfold consumeMarkdownBlock at consumed
  dsimp only [bind, Except.bind, pure, Except.pure] at consumed
  split at consumed
  · cases consumed
  next table isTable =>
  cases table with
  | some table =>
    cases consumed
    unfold tryConsumeTable at isTable
    dsimp only [bind, Except.bind, pure, Except.pure] at isTable
    repeat' split at isTable
    all_goals cases isTable
    exact .inr rfl
  | none =>
    dsimp only at consumed
    split at consumed
    next fence isFence =>
      obtain ⟨_, _, is⟩ := Option.map_eq_some_iff.mp isFence
      cases consumed
      cases is
      exact .inr rfl
    split at consumed
    next quote isQuote =>
      unfold tryConsumeBlockquote at isQuote
      cases consumed
      split at isQuote <;> cases isQuote
      exact .inr rfl
    split at consumed
    · cases consumed
    next list isList =>
    cases list with
    | some list =>
      cases consumed
      unfold tryConsumeList at isList
      dsimp only [bind, Except.bind, pure, Except.pure] at isList
      repeat' split at isList
      all_goals cases isList
      all_goals exact .inl rfl
    | none =>
      dsimp only at consumed
      split at consumed <;> cases consumed
      · exact .inr (by simp [blockText, joinLines])
      · exact .inl rfl

theorem parseLoop_ink {rounds : Nat} {lines : List Text}
    (parsed : parseLoop library rounds index lines = .ok blocks) :
    ink (blocks.flatMap blockText) = ink lines.flatten := by
  induction rounds generalizing index lines blocks with
  | zero =>
    cases lines <;> cases parsed
    rfl
  | succ rounds ih =>
    cases lines with
    | nil =>
      cases parsed
      rfl
    | cons line rest =>
      unfold parseLoop at parsed
      split at parsed
      next blank =>
        rw [ih parsed, List.flatten_cons, ink_append, ink_of_blank (blank_of_stripNewline blank)]
        rfl
      · dsimp only [bind, Except.bind] at parsed
        split at parsed
        · cases parsed
        next taken consumed =>
        split at parsed <;> cases parsed
        next isLater =>
        have own : ink (blockText taken.1) = ink ((line :: rest).take taken.2).flatten := by
          rcases consumed_text consumed with is | is <;> rw [is]
          exact ink_joinLines _
        rw [List.flatMap_cons, ink_append, ih isLater, own, ← ink_append, ← List.flatten_append,
          List.take_append_drop]

theorem parse_ink {source : Text} (parsed : parseMarkdownBlocks library source = .ok blocks) :
    ink (blocks.flatMap blockText) = ink source := by
  rw [parseLoop_ink parsed, linesWithEnds_flatten]

/-! ## The assembler -/

theorem ofNode_text (nodes : List MarkdownAstNode) :
    (nodes.filterMap MarkdownBlock.ofNode).flatMap MarkdownBlock.content =
      nodes.flatMap blockText := by
  induction nodes with
  | nil => rfl
  | cons node nodes ih =>
    have one :
      (MarkdownBlock.ofNode node).toList.flatMap MarkdownBlock.content = blockText node := by
      cases node with
      | tableCandidate => simp [MarkdownBlock.ofNode, MarkdownBlock.content, blockText]
      | _ =>
        simp only [MarkdownBlock.ofNode, nodeRaw, Except.toOption, Option.bind_some]
        split <;> simp_all [MarkdownBlock.content, blockText]
    rw [List.flatMap_cons, ← one, ← ih]
    cases isBlock : MarkdownBlock.ofNode node <;> simp [isBlock]

theorem finalize_keeps_text (library : Library) (source : Text) (canonical : Option Text)
    (onward : ∀ content ∈ canonical, source <+: content) :
    ∃ blocks after, MarkdownAssembler.finalize library ⟨source, false⟩ canonical =
        .ok (blocks, after) ∧
      ink (blocks.flatMap MarkdownBlock.content) = ink (canonical.getD source) := by
  have parses (source : Text) : ∃ blocks, parseMarkdownBlocks library source = .ok blocks ∧
      ink ((blocks.filterMap MarkdownBlock.ofNode).flatMap MarkdownBlock.content) = ink source := by
    obtain ⟨blocks, parsed, -⟩ := blocks_cover_document library source
    exact ⟨blocks, parsed, by rw [ofNode_text, parse_ink parsed]⟩
  cases canonical with
  | none =>
    obtain ⟨blocks, parsed, same⟩ := parses source
    simp [MarkdownAssembler.finalize, parsed, same, bind, Except.bind, pure, Except.pure]
  | some content =>
    obtain ⟨blocks, parsed, same⟩ := parses content
    have onward : source <+: content := onward content rfl
    simp [MarkdownAssembler.finalize, parsed, same, onward, bind, Except.bind, pure, Except.pure]

theorem finalize_diverged (library : Library) (source : Text) (canonical : Option Text)
    (diverged : ¬ ∀ content ∈ canonical, source <+: content) :
    MarkdownAssembler.finalize library ⟨source, false⟩ canonical =
      .error "canonical content diverged from already streamed markdown" := by
  cases canonical with
  | none => exact absurd nofun diverged
  | some content =>
    have diverged : ¬ source <+: content := by simpa using diverged
    unfold MarkdownAssembler.finalize
    simp only [Bool.false_eq_true, if_false, if_neg diverged]
    rfl

/-- However a text is streamed, the assembler takes it and gives it back in blocks, together with
what a final text adds to it; it raises exactly if the final text is no continuation. -/
theorem assembler_keeps_text (library : Library) (deltas : List Text) (canonical : Option Text) :
    ∃ assembler, deltas.foldlM MarkdownAssembler.append {} = .ok assembler ∧
      ((∃ blocks after, assembler.finalize library canonical = .ok (blocks, after) ∧
          ink (blocks.flatMap MarkdownBlock.content) = ink (canonical.getD deltas.flatten)) ↔
        ∀ content ∈ canonical, deltas.flatten <+: content) ∧
      ((∃ error, assembler.finalize library canonical = .error error) ↔
        ¬ ∀ content ∈ canonical, deltas.flatten <+: content) := by
  have streams (source : Text) : deltas.foldlM MarkdownAssembler.append ⟨source, false⟩ =
      .ok ⟨source ++ deltas.flatten, false⟩ := by
    induction deltas generalizing source with
    | nil => simp [pure, Except.pure]
    | cons delta deltas ih =>
      rw [List.foldlM_cons, List.flatten_cons, ← List.append_assoc, ← ih]
      rfl
  refine ⟨_, streams [], ?_⟩
  rw [List.nil_append]
  by_cases onward : ∀ content ∈ canonical, deltas.flatten <+: content
  · have kept := finalize_keeps_text library _ canonical onward
    have ⟨blocks, after, done, _⟩ := kept
    refine ⟨iff_of_true kept onward, iff_of_false ?_ (not_not.mpr onward)⟩
    rintro ⟨error, raised⟩
    rw [done] at raised
    cases raised
  · have raised := finalize_diverged library _ canonical onward
    refine ⟨iff_of_false ?_ onward, iff_of_true ⟨_, raised⟩ onward⟩
    rintro ⟨blocks, after, done, -⟩
    rw [raised] at done
    cases done

/-! ## Message plans -/

/-- What a segment prints of the source: its text behind the marker, or its attachments. -/
def segmentInk (first : Bool) (segment : MarkdownMessageSegment) : Text :=
  if segment.attachments = [] then
    if first then ink segment.content
    else (ink segment.content).drop (ink continuationMarker).length
  else segment.attachments.flatMap fun file => ink file.content

def planInk : List MarkdownMessageSegment → Text
  | [] => []
  | first :: later => segmentInk true first ++ later.flatMap (segmentInk false)

theorem planInk_concat (segments : List MarkdownMessageSegment) (last : MarkdownMessageSegment) :
    planInk (segments ++ [last]) = planInk segments ++ segmentInk segments.isEmpty last := by
  cases segments <;> simp [planInk]

/-- The segments and the open one print the text. -/
def Prints (planner : Planner) (text : Text) : Prop :=
  planner.currentAttachments = [] ∧ ∃ body, text = planInk planner.segments ++ body ∧
    ink planner.currentContent =
      if planner.segments = [] ∨ planner.currentContent = [] then body
      else ink continuationMarker ++ body

variable {planner : Planner} {text raw : Text} {maxChars : Nat}

theorem flush_prints (prints : Prints planner text) : planInk planner.flush.segments = text := by
  obtain ⟨files, body, rfl, content⟩ := prints
  have space : ink (planner.currentContent.rdropWhile isSpace) = ink planner.currentContent :=
    ink_rdropWhile (fun _ is => is) _
  by_cases empty : planner.currentContent = []
  · simp only [empty, or_true, if_true] at content
    simp [Planner.flush, empty, files, ← content, ink]
  · cases isSegments : planner.segments with
    | nil => simp_all [Planner.flush, planInk, segmentInk]
    | cons =>
      rw [← isSegments, Planner.flush, if_pos (.inl empty), planInk_concat]
      simp_all [segmentInk]

theorem continuationMarker_ne_nil : continuationMarker ≠ [] := by decide

theorem begin_prints (block : MarkdownAstNode) (prints : Prints planner text) :
    Prints (planner.begin block raw) (text ++ ink raw) := by
  refine ⟨rfl, ink raw, by rw [← flush_prints prints]; rfl, ?_⟩
  simp only [Planner.begin, Planner.flush, prints.1, Planner.continuation]
  by_cases empty : planner.currentContent = [] <;>
    by_cases first : planner.segments = [] <;> simp [empty, first, continuationMarker_ne_nil]

theorem extend_prints (block : MarkdownAstNode) (prints : Prints planner text) :
    Prints (planner.extend block raw) (text ++ ink raw) := by
  obtain ⟨files, body, rfl, content⟩ := prints
  refine ⟨files, body ++ ink raw, by simp [Planner.extend], ?_⟩
  by_cases empty : planner.currentContent = []
  · have bare : body = [] := by simpa [empty, ink] using content.symm
    by_cases first : planner.segments = [] <;>
      simp [Planner.extend, Planner.candidate, Planner.continuation, empty, first, bare,
        continuationMarker_ne_nil]
  · by_cases first : planner.segments = [] <;>
      simp_all [Planner.extend, Planner.candidate]

theorem placeBlock_prints {blockIndex : Nat} {block : MarkdownAstNode} {next : Planner}
    (prints : Prints planner text)
      (placed : placeBlock maxChars blockIndex planner block = .ok next) :
    Prints next (text ++ ink (blockText block)) := by
  obtain ⟨raw, isRaw, placed⟩ : ∃ raw, ink raw = ink (blockText block) ∧ next =
      if raw.length > maxChars then planner.attach blockIndex block raw
      else if (planner.candidate raw).length > maxChars then planner.begin block raw
      else planner.extend block raw := by
    have feed c (is : decide (c = '\n') = true) : isSpace c = true :=
      of_decide_eq_true is ▸ by decide
    cases block <;> cases placed <;> exact ⟨_, ink_rdropWhile feed _, rfl⟩
  rw [← isRaw, placed]
  split
  · refine ⟨rfl, [], ?_, by simp [Planner.attach, Planner.flush, ink]⟩
    simp [Planner.attach, planInk_concat, flush_prints prints, segmentInk]
  · split
    · exact begin_prints block prints
    · exact extend_prints block prints

theorem placeBlocks_prints {blockIndex : Nat} {last : Planner} (prints : Prints planner text)
    (placed : placeBlocks maxChars blockIndex planner blocks = .ok last) :
    Prints last (text ++ ink (blocks.flatMap blockText)) := by
  induction blocks generalizing blockIndex planner text with
  | nil =>
    cases placed
    simpa [ink] using prints
  | cons block blocks ih =>
    unfold placeBlocks at placed
    cases isNext : placeBlock maxChars blockIndex planner block with
    | error => rw [isNext] at placed; cases placed
    | ok next =>
      rw [isNext] at placed
      have kept := ih (placeBlock_prints prints isNext) placed
      simpa using kept

/-- The messages of a plan print the source: behind the markers and in the attachments stands
every printed character once, in its order. -/
theorem plan_keeps_text {library : Library} {source : Text} {plan : MarkdownMessagePlan}
    (planned : planMarkdownMessages library source maxChars = .ok plan) :
    planInk plan.segments = ink source := by
  obtain ⟨blocks, parsed, -⟩ := blocks_cover_document library source
  unfold planMarkdownMessages at planned
  split at planned
  · cases planned
  · rw [parsed] at planned
    cases placed : placeBlocks maxChars 1 ⟨[], [], [], []⟩ blocks with
    | error => simp [placed, bind, Except.bind] at planned
    | ok last =>
      simp only [placed, bind, Except.bind, pure, Except.pure] at planned
      cases planned
      have fresh : Prints ⟨[], [], [], []⟩ [] := ⟨rfl, [], rfl, rfl⟩
      exact (flush_prints (placeBlocks_prints fresh placed)).trans (parse_ink parsed)

/-- The long paragraph stands behind a marker. -/
theorem plan_keeps_text_marked : ∃ plan,
    planMarkdownMessages MessagePlans.asciiDigits MessagePlans.longParagraph 60 = .ok plan ∧
      planInk plan.segments = 'a' :: List.replicate 60 'x' := by
  have planned :
      (planMarkdownMessages MessagePlans.asciiDigits MessagePlans.longParagraph 60).isOk := by
    decide +kernel
  cases is : planMarkdownMessages MessagePlans.asciiDigits MessagePlans.longParagraph 60 with
  | error => simp [is, Except.isOk, Except.toBool] at planned
  | ok plan => exact ⟨plan, rfl, (plan_keeps_text is).trans (by decide)⟩

end Copilotd.Guarantees.MarkdownText
