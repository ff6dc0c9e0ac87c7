import Copilotd.Guarantees.MarkdownBlocks
import Copilotd.Source.Render.MessagePlans

/-!
# The bound of the segments

A block keeps the segments within the bound exactly if it has room for the marker
where it begins a segment behind the first.  A segment that is over the bound takes
no further block, so it is still over when it is closed.
-/
namespace Copilotd.Guarantees.MessagePlans
open Base.PlainText Source.Render.Markdown Source.Render.MessagePlans Guarantees.MarkdownBlocks

variable {maxChars : Nat}

/-- The closed segments, and the open one when it is closed, are within the bound. -/
def Bounded (maxChars : Nat) (planner : Planner) : Prop :=
  (∀ segment ∈ planner.segments, segment.content.length ≤ maxChars) ∧
    (planner.currentContent.rdropWhile isSpace).length ≤ maxChars

/-- The block has room for the marker where it begins a segment behind the first. -/
def Roomy (maxChars : Nat) (planner : Planner) (raw : Text) : Prop :=
  raw.length ≤ maxChars → maxChars < (planner.candidate raw).length →
    ((continuationMarker ++ raw).rdropWhile isSpace).length ≤ maxChars

/-- No block is a table, and every block finds room when it is placed. -/
def Fits (maxChars : Nat) : Nat → Planner → List MarkdownAstNode → Prop
  | _, _, [] => True
  | blockIndex, planner, block :: blocks =>
    ∃ raw, nodeRaw block = .ok raw ∧ Roomy maxChars planner (raw.rdropWhile (· = '\n')) ∧
      ∀ next, placeBlock maxChars blockIndex planner block = .ok next →
        Fits maxChars (blockIndex + 1) next blocks

theorem length_rstrip_le (text : Text) : (text.rdropWhile isSpace).length ≤ text.length :=
  (List.rdropWhile_prefix isSpace text).length_le

theorem flush_bounded (planner : Planner) : (∀ segment ∈ planner.flush.segments,
    segment.content.length ≤ maxChars) ↔ Bounded maxChars planner := by
  unfold Bounded Planner.flush
  split
  · rw [List.forall_mem_append, List.forall_mem_singleton]
  next empty =>
    rw [not_or, not_not] at empty
    rw [empty.1]
    simp

section Placed

variable {planner : Planner} {block : MarkdownAstNode} {raw : Text}

theorem attach_bounded {blockIndex : Nat}
    (summary : (attachedContent blockIndex block).length ≤ maxChars) :
    Bounded maxChars (planner.attach blockIndex block raw) ↔ Bounded maxChars planner := by
  rw [← flush_bounded planner]
  unfold Bounded Planner.attach
  rw [List.forall_mem_append, List.forall_mem_singleton]
  constructor
  · exact fun bounded => bounded.1.1
  · exact fun bounded => ⟨⟨bounded, summary⟩, Nat.zero_le _⟩

/-- The marker is in front of every block that does not fit into the open segment. -/
theorem begin_bounded (short : raw.length ≤ maxChars)
    (long : maxChars < (planner.candidate raw).length) :
    Bounded maxChars (planner.begin block raw) ↔ Bounded maxChars planner ∧
      ((continuationMarker ++ raw).rdropWhile isSpace).length ≤ maxChars := by
  have marked : planner.continuation = continuationMarker := by
    unfold Planner.candidate at long
    unfold Planner.continuation at long ⊢
    split at long
    · split at long
      next later => exact if_pos later
      · exact absurd long (not_lt.mpr short)
    next filled => exact if_pos (.inr filled)
  rw [← flush_bounded planner, ← marked]
  exact Iff.rfl

theorem extend_bounded (fits : (planner.candidate raw).length ≤ maxChars) :
    Bounded maxChars (planner.extend block raw) ↔ Bounded maxChars planner := by
  have before : (planner.currentContent.rdropWhile isSpace).length ≤ maxChars := by
    unfold Planner.candidate at fits
    split at fits
    next empty =>
      rw [empty]
      exact Nat.zero_le _
    · have less := length_rstrip_le planner.currentContent
      rw [List.length_append] at fits
      omega
  have after :
    ((planner.extend block raw).currentContent.rdropWhile isSpace).length ≤ maxChars := by
    have same : (planner.extend block raw).currentContent = planner.candidate raw := by
      unfold Planner.extend Planner.candidate
      split
      next both => rw [if_pos both.1]
      · rfl
    rw [same]
    exact (length_rstrip_le _).trans fits
  constructor
  · exact fun bounded => ⟨bounded.1, before⟩
  · exact fun bounded => ⟨bounded.1, after⟩

end Placed

theorem placeBlock_bounded {blockIndex : Nat} {planner : Planner} {block : MarkdownAstNode}
    {raw : Text} (isRaw : nodeRaw block = .ok raw)
    (summary : (attachedContent blockIndex block).length ≤ maxChars) :
    ∃ next, placeBlock maxChars blockIndex planner block = .ok next ∧
      (Bounded maxChars next ↔
        Bounded maxChars planner ∧ Roomy maxChars planner (raw.rdropWhile (· = '\n'))) := by
  unfold placeBlock
  rw [isRaw]
  refine ⟨_, rfl, ?_⟩
  dsimp only
  generalize raw.rdropWhile (· = '\n') = text
  split
  next long =>
    rw [attach_bounded summary]
    exact (and_iff_left fun short => absurd long (not_lt.mpr short)).symm
  next short =>
    rw [not_lt] at short
    split
    next exceeds =>
      rw [begin_bounded short exceeds]
      exact and_congr_right fun _ => ⟨fun room _ _ => room, fun room => room short exceeds⟩
    next fits =>
      rw [extend_bounded (not_lt.mp fits)]
      exact (and_iff_left fun _ exceeds => absurd exceeds fits).symm

theorem placeBlocks_bounded (blockIndex : Nat) (planner : Planner) (blocks : List MarkdownAstNode)
    (summaries : ∀ offset block, blocks[offset]? = some block →
      (attachedContent (blockIndex + offset) block).length ≤ maxChars) :
    (∃ last, placeBlocks maxChars blockIndex planner blocks = .ok last ∧ Bounded maxChars last) ↔
      Bounded maxChars planner ∧ Fits maxChars blockIndex planner blocks := by
  induction blocks generalizing blockIndex planner with
  | nil =>
    constructor
    · rintro ⟨_, ⟨⟩, bounded⟩
      exact ⟨bounded, trivial⟩
    · exact fun bounded => ⟨planner, rfl, bounded.1⟩
  | cons block blocks ih =>
    unfold placeBlocks Fits
    cases isRaw : nodeRaw block with
    | error reason =>
      have raises : placeBlock maxChars blockIndex planner block = .error reason := by
        rw [placeBlock, isRaw]
        rfl
      rw [raises]
      constructor
      · rintro ⟨_, absurd, _⟩
        cases absurd
      · rintro ⟨_, _, absurd, _⟩
        cases absurd
    | ok raw =>
      obtain ⟨next, placed, bounded⟩ :=
        @placeBlock_bounded maxChars blockIndex planner block raw isRaw
        (summaries 0 block rfl)
      have rest := ih (blockIndex + 1) next fun offset block isBlock => by
        have summary := summaries (offset + 1) block isBlock
        rw [Nat.add_comm offset, ← Nat.add_assoc] at summary
        exact summary
      rw [placed]
      dsimp only [bind, Except.bind]
      rw [rest, bounded]
      constructor
      · rintro ⟨⟨bounded, room⟩, fits⟩
        refine ⟨bounded, raw, rfl, room, ?_⟩
        rintro _ ⟨⟩
        exact fits
      · rintro ⟨bounded, _, ⟨⟩, room, fits⟩
        exact ⟨⟨bounded, room⟩, fits next rfl⟩

/-- A plan is made and bounded exactly if no block is a table and every block that
begins a segment behind the first has room for the marker. -/
theorem plans_are_bounded_iff (library : Library) (source : Text)
    (marker : continuationMarker.length ≤ maxChars)
    (summaries : ∀ blocks, parseMarkdownBlocks library source = .ok blocks →
      ∀ offset block, blocks[offset]? = some block →
        (attachedContent (1 + offset) block).length ≤ maxChars) :
    ∃ blocks, parseMarkdownBlocks library source = .ok blocks ∧
      ((∃ plan, planMarkdownMessages library source maxChars = .ok plan ∧
        ∀ segment ∈ plan.segments, segment.content.length ≤ maxChars) ↔
      Fits maxChars 1 ⟨[], [], [], []⟩ blocks) := by
  obtain ⟨blocks, parsed, _⟩ := blocks_cover_document library source
  refine ⟨blocks, parsed, ?_⟩
  have positive : ¬ maxChars < 1 := by
    intro small
    have size : continuationMarker.length = 14 := by decide
    omega
  have loop := placeBlocks_bounded 1 ⟨[], [], [], []⟩ blocks (summaries blocks parsed)
  have fresh : Bounded maxChars ⟨[], [], [], []⟩ :=
    ⟨fun _ member => (List.not_mem_nil member).elim, Nat.zero_le _⟩
  rw [and_iff_right fresh] at loop
  rw [← loop]
  unfold planMarkdownMessages
  rw [if_neg positive, parsed]
  dsimp only [bind, Except.bind, pure, Except.pure]
  cases placeBlocks maxChars 1 ⟨[], [], [], []⟩ blocks with
  | error reason =>
    constructor
    · rintro ⟨_, absurd, _⟩
      cases absurd
    · rintro ⟨_, absurd, _⟩
      cases absurd
  | ok last =>
    constructor
    · rintro ⟨_, ⟨⟩, bounded⟩
      exact ⟨last, rfl, (flush_bounded last).mp bounded⟩
    · rintro ⟨_, ⟨⟩, bounded⟩
      exact ⟨_, rfl, (flush_bounded last).mpr bounded⟩

def asciiDigits : Library := ⟨fun c => '0' ≤ c ∧ c ≤ '9', fun text => text⟩

def twoParagraphs : Text := "one\n\ntwo".toList

theorem plans_are_bounded_iff_twoParagraphs :
    ∃ blocks, parseMarkdownBlocks asciiDigits twoParagraphs = .ok blocks ∧
      ((∃ plan, planMarkdownMessages asciiDigits twoParagraphs 60 = .ok plan ∧
        ∀ segment ∈ plan.segments, segment.content.length ≤ 60) ↔
      Fits 60 1 ⟨[], [], [], []⟩ blocks) := by
  refine plans_are_bounded_iff asciiDigits twoParagraphs (by decide) ?_
  have parsed : parseMarkdownBlocks asciiDigits twoParagraphs =
      .ok [.paragraph "one".toList "one\n".toList ⟨1, 1⟩,
        .paragraph "two".toList "two".toList ⟨3, 3⟩] := by decide +kernel
  rintro blocks isBlocks offset block isBlock
  rw [parsed] at isBlocks
  cases isBlocks
  match offset, isBlock with
  | 0, rfl => decide
  | 1, rfl => decide

/-- A short paragraph, and one that fits into a message without the marker only. -/
def longParagraph : Text := 'a' :: '\n' :: '\n' :: List.replicate 60 'x'

/-- A table is no plan, and the marker makes a segment too long. -/
theorem table_raises_and_marker_overflows :
    planMarkdownMessages asciiDigits "|a|b|\n|---|---|".toList 60 =
      .error "'MarkdownTableCandidate' object has no attribute 'raw'" ∧
    (planMarkdownMessages asciiDigits longParagraph 60).toOption.map
      (fun plan => plan.segments.map fun segment => segment.content.length) = some [1, 74] := by
  decide +kernel

end Copilotd.Guarantees.MessagePlans
