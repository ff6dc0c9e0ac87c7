import Copilotd.Source.Render.Markdown

/-!
# Writing a table row

`split_table_row` reads back the row that is written from a list of cells.  A row is
written as `| c1 | ... | cn |`, with a backslash before each pipe that stands outside the
code spans of its cell.  The scanner has the state of the writer behind each character:
the run of ticks that is open, and the ticks of a run that are already done.
-/
namespace Copilotd.Guarantees.RowWriting
open Base.PlainText Source.Render.Markdown

/-- A run of ticks opens a code span, and a run of the same length closes it. -/
def toggle (codeTicks run : Nat) : Nat :=
  if codeTicks = 0 then run else if codeTicks = run then 0 else codeTicks

/-- The run that is open behind a cell; `skip` ticks belong to a run already counted. -/
def openTicks : Text → (codeTicks skip : Nat) → Nat
  | [], codeTicks, _ => codeTicks
  | _ :: rest, codeTicks, skip + 1 => openTicks rest codeTicks skip
  | c :: rest, codeTicks, 0 =>
    if c = '`' then
      let run := 1 + (rest.takeWhile (· = '`')).length
      openTicks rest (toggle codeTicks run) (run - 1)
    else openTicks rest codeTicks 0

/-- A cell with its pipes outside code spans escaped. -/
def writeCell : Text → (codeTicks skip : Nat) → Text
  | [], _, _ => []
  | c :: rest, codeTicks, skip + 1 => c :: writeCell rest codeTicks skip
  | c :: rest, codeTicks, 0 =>
    if c = '`' then
      let run := 1 + (rest.takeWhile (· = '`')).length
      c :: writeCell rest (toggle codeTicks run) (run - 1)
    else if c = '|' ∧ codeTicks = 0 then '\\' :: c :: writeCell rest codeTicks 0
    else c :: writeCell rest codeTicks 0

/-- One cell between its blanks. -/
def padded (cell : Text) : Text := ' ' :: (writeCell cell 0 0 ++ [' '])

def writeRow (cells : List Text) : Text := '|' :: cells.flatMap fun cell => padded cell ++ ['|']

/-- What a cell must be to be read back.  A cell with a line break may be written too. -/
structure Writable (cell : Text) : Prop where
  trimmed : strip cell = cell
  plain : '\\' ∉ cell
  balanced : openTicks cell 0 0 = 0

/-! ## One cell under the scanner -/

theorem ticks_writeCell (cell more : Text) (codeTicks skip : Nat) :
    (writeCell cell codeTicks skip ++ ' ' :: more).takeWhile (· = '`') =
      cell.takeWhile (· = '`') := by
  fun_induction writeCell cell codeTicks skip with
  | case1 => rfl
  | case2 c rest codeTicks skip ih =>
    rw [List.cons_append, List.takeWhile_cons, List.takeWhile_cons, ih]
  | case3 rest codeTicks run ih =>
    rw [List.cons_append, List.takeWhile_cons, List.takeWhile_cons, ih]
  | case4 c rest codeTicks other pipe ih =>
    rw [List.cons_append, List.takeWhile_cons, List.takeWhile_cons, pipe.1]
    rfl
  | case5 c rest codeTicks other inside ih =>
    rw [List.cons_append, List.takeWhile_cons, List.takeWhile_cons, ih]

variable {cell : Text}

theorem writeCell_skip {skip : Nat} (codeTicks : Nat)
    (inRun : skip ≤ (cell.takeWhile (· = '`')).length) :
    List.replicate skip '`' ++ (writeCell cell codeTicks skip).drop skip =
      writeCell cell codeTicks skip := by
  induction cell generalizing skip with
  | nil =>
    have none : skip = 0 := by simpa using inRun
    rw [none]
    rfl
  | cons c rest ih =>
    cases skip with
    | zero => rfl
    | succ skip =>
      by_cases tick : c = '`'
      · rw [tick, List.takeWhile_cons_of_pos (by decide), List.length_cons] at inRun
        rw [tick, writeCell, List.replicate_succ, List.cons_append, List.drop_succ_cons,
          ih (by omega)]
      · rw [List.takeWhile_cons_of_neg (by simpa using tick)] at inRun
        cases inRun

theorem splitCells_writeCell (plain : '\\' ∉ cell) (current more : Text)
    {codeTicks skip : Nat} (inRun : skip ≤ (cell.takeWhile (· = '`')).length) :
    splitCells (writeCell cell codeTicks skip ++ ' ' :: more) current false codeTicks skip =
      splitCells (' ' :: more) (current ++ (writeCell cell codeTicks skip).drop skip) false
        (openTicks cell codeTicks skip) 0 := by
  induction cell generalizing current codeTicks skip with
  | nil =>
    have none : skip = 0 := by simpa using inRun
    rw [none, writeCell, openTicks, List.drop_nil, List.append_nil, List.nil_append]
  | cons c rest ih =>
    have plainRest : '\\' ∉ rest := fun member => plain (List.mem_cons_of_mem c member)
    have notEscape : c ≠ '\\' := fun same => plain (same ▸ List.mem_cons_self)
    cases skip with
    | succ skip =>
      by_cases tick : c = '`'
      · rw [tick, List.takeWhile_cons_of_pos (by decide), List.length_cons] at inRun
        rw [writeCell, openTicks, List.cons_append, splitCells, List.drop_succ_cons,
          ih plainRest current (by omega)]
      · rw [List.takeWhile_cons_of_neg (by simpa using tick)] at inRun
        cases inRun
    | zero =>
      by_cases tick : c = '`'
      · -- the run as the scanner counts it is the run of the cell
        have run := ticks_writeCell rest more
          (toggle codeTicks (1 + (rest.takeWhile (· = '`')).length))
          (1 + (rest.takeWhile (· = '`')).length - 1)
        rw [writeCell, openTicks, if_pos tick, if_pos tick, List.cons_append, splitCells,
          if_neg Bool.false_ne_true, if_neg notEscape, if_pos tick, run]
        change splitCells _ _ false (toggle codeTicks _) _ = _
        dsimp only
        rw [Nat.add_sub_cancel_left, ih plainRest _ (Nat.le_refl _), List.append_assoc, tick,
          List.replicate_add, List.append_assoc, writeCell_skip _ (Nat.le_refl _)]
        rfl
      · by_cases pipe : c = '|' ∧ codeTicks = 0
        · rw [writeCell, openTicks, if_neg tick, if_neg tick, if_pos pipe, List.cons_append,
            List.cons_append, splitCells, if_neg Bool.false_ne_true, if_pos rfl, splitCells,
            if_pos rfl, ih plainRest _ (Nat.zero_le _), List.drop_zero, List.append_assoc,
            List.append_assoc]
          rfl
        · rw [writeCell, openTicks, if_neg tick, if_neg tick, if_neg pipe, List.cons_append,
            splitCells, if_neg Bool.false_ne_true, if_neg notEscape, if_neg tick, if_neg pipe,
            ih plainRest _ (Nat.zero_le _), List.drop_zero, List.append_assoc]
          rfl

/-! ## What is displayed -/

theorem replaceEscapedPipes_cons {c : Char} (other : c ≠ '\\') (rest : Text) :
    replaceEscapedPipes (c :: rest) = c :: replaceEscapedPipes rest := by
  rw [replaceEscapedPipes]
  intro _ same
  exact absurd same other

theorem replaceEscapedPipes_append {back : Text} (plain : '\\' ∉ back) (noPipe : '|' ∉ back)
    (text : Text) : replaceEscapedPipes (text ++ back) = replaceEscapedPipes text ++ back := by
  fun_induction replaceEscapedPipes text with
  | case1 rest ih =>
      rw [List.cons_append, List.cons_append, replaceEscapedPipes, ih, List.cons_append]
  | case2 c rest other ih =>
    rw [List.cons_append, replaceEscapedPipes, ih, List.cons_append]
    intro tail same after
    cases rest with
    | nil => exact noPipe (by rw [List.nil_append] at after; rw [after]; exact List.mem_cons_self)
    | cons d rest =>
      rw [List.cons_append] at after
      injection after with head
      exact other rest same (head ▸ rfl)
  | case3 =>
    rw [List.nil_append]
    induction back with
    | nil => rfl
    | cons c back ih =>
      rw [replaceEscapedPipes_cons (fun same => plain (same ▸ List.mem_cons_self)),
        ih (fun member => plain (List.mem_cons_of_mem c member))
          fun member => noPipe (List.mem_cons_of_mem c member)]

theorem blank_plain {text : Text} (blank : Blank text) {c : Char} (mark : isSpace c = false) :
    c ∉ text := by
  intro member
  have space := List.all_eq_true.mp blank c member
  rw [mark] at space
  cases space

theorem replaceEscapedPipes_blank_append {front : Text} (blank : Blank front) (text : Text) :
    replaceEscapedPipes (front ++ text) = front ++ replaceEscapedPipes text := by
  induction front with
  | nil => rfl
  | cons c front ih =>
    have other : c ≠ '\\' := fun same =>
      blank_plain blank (c := c) (same ▸ rfl) List.mem_cons_self
    rw [Blank, List.all_cons, Bool.and_eq_true] at blank
    rw [List.cons_append, replaceEscapedPipes_cons other, ih blank.2, List.cons_append]

theorem displayCell_strip (cell : Text) : displayCell (strip cell) = displayCell cell := by
  obtain ⟨front, back, blankFront, blankBack, whole⟩ := strip_spec cell
  have shown : replaceEscapedPipes cell =
      front ++ (replaceEscapedPipes (strip cell) ++ back) := by
    rw [← replaceEscapedPipes_append (blank_plain blankBack rfl) (blank_plain blankBack rfl),
      ← replaceEscapedPipes_blank_append blankFront, ← whole]
  rw [displayCell, displayCell, shown, strip_blank_append blankFront,
    strip_append_blank blankBack]

theorem replaceEscapedPipes_writeCell (plain : '\\' ∉ cell) (codeTicks skip : Nat) :
    replaceEscapedPipes (writeCell cell codeTicks skip) = cell := by
  fun_induction writeCell cell codeTicks skip with
  | case1 => rfl
  | case2 c rest codeTicks skip ih =>
    rw [replaceEscapedPipes_cons (fun same => plain (same ▸ List.mem_cons_self)),
      ih fun member => plain (List.mem_cons_of_mem c member)]
  | case3 rest codeTicks run ih =>
    rw [replaceEscapedPipes_cons (by decide),
      ih fun member => plain (List.mem_cons_of_mem _ member)]
  | case4 c rest codeTicks other pipe ih =>
    rw [pipe.1, replaceEscapedPipes, ih fun member => plain (List.mem_cons_of_mem c member)]
  | case5 c rest codeTicks other inside ih =>
    rw [replaceEscapedPipes_cons (fun same => plain (same ▸ List.mem_cons_self)),
      ih fun member => plain (List.mem_cons_of_mem c member)]

theorem displayCell_padded (writable : Writable cell) :
    displayCell (strip (padded cell)) = cell := by
  have blank : Blank [' '] := rfl
  rw [displayCell_strip, displayCell, padded, replaceEscapedPipes_cons (by decide),
    replaceEscapedPipes_append (by decide) (by decide),
    replaceEscapedPipes_writeCell writable.plain, ← List.singleton_append,
    strip_blank_append blank, strip_append_blank blank, writable.trimmed]

/-! ## The whole row -/

theorem splitCells_space (current more : Text) (codeTicks : Nat) :
    splitCells (' ' :: more) current false codeTicks 0 =
      splitCells more (current ++ [' ']) false codeTicks 0 := by
  rw [splitCells, if_neg Bool.false_ne_true, if_neg (by decide), if_neg (by decide),
    if_neg fun pipe => absurd pipe.1 (by decide)]

theorem splitCells_padded (writable : Writable cell) (more : Text) :
    splitCells (padded cell ++ more) [] false 0 0 = splitCells more (padded cell) false 0 0 := by
  rw [padded, List.cons_append, splitCells_space, List.append_assoc, List.singleton_append,
    splitCells_writeCell writable.plain _ _ (Nat.zero_le _), List.drop_zero, writable.balanced,
    splitCells_space]
  rfl

theorem splitCells_row (cell : Text) (rest : List Text)
    (writable : ∀ each ∈ cell :: rest, Writable each) :
    splitCells ((cell :: rest).flatMap fun cell => padded cell ++ ['|']).dropLast [] false 0 0 =
      (cell :: rest).map fun cell => strip (padded cell) := by
  induction rest generalizing cell with
  | nil =>
    have split := splitCells_padded (writable cell List.mem_cons_self) []
    rw [List.append_nil] at split
    rw [List.flatMap_singleton, List.dropLast_concat, split]
    rfl
  | cons next rest ih =>
    have more : ((next :: rest).flatMap fun cell => padded cell ++ ['|']) ≠ [] := by
      simp [padded]
    rw [List.flatMap_cons, List.dropLast_append_of_ne_nil more, List.append_assoc,
      splitCells_padded (writable cell List.mem_cons_self), List.singleton_append, splitCells,
      if_neg Bool.false_ne_true, if_neg (by decide), if_neg (by decide), if_pos ⟨rfl, rfl⟩,
      ih next fun each member => writable each (List.mem_cons_of_mem cell member)]
    rfl

theorem writeRow_ends {cells : List Text} (nonempty : cells ≠ []) :
    ∃ front, (cells.flatMap fun cell => padded cell ++ ['|']) = front ++ [' ', '|'] := by
  induction cells with
  | nil => exact absurd rfl nonempty
  | cons cell rest ih =>
    cases rest with
    | nil => exact ⟨' ' :: writeCell cell 0 0, by simp [padded]⟩
    | cons next rest =>
      obtain ⟨front, ends⟩ := ih (List.cons_ne_nil next rest)
      exact ⟨padded cell ++ ['|'] ++ front, by rw [List.flatMap_cons, ends, ← List.append_assoc]⟩

theorem strip_writeRow {cells : List Text} (nonempty : cells ≠ []) :
    strip (writeRow cells) = writeRow cells := by
  obtain ⟨front, ends⟩ := writeRow_ends nonempty
  rw [writeRow, ends, strip, List.dropWhile_cons_of_neg (by decide), List.append_cons,
    ← List.cons_append, List.rdropWhile_concat_neg _ _ _ (by decide)]

theorem splitTableRow_writeRow (cells : List Text) (nonempty : cells ≠ [])
    (writable : ∀ cell ∈ cells, Writable cell) :
    (splitTableRow (writeRow cells)).map displayCell = cells := by
  obtain ⟨front, ends⟩ := writeRow_ends nonempty
  have bare : ['|'] <:+ front ++ [' ', '|'] ∧ ¬ ['\\', '|'] <:+ front ++ [' ', '|'] := by
    constructor
    · exact ⟨front ++ [' '], by simp⟩
    · rintro ⟨before, same⟩
      have last := List.append_inj_right' same rfl
      cases last
  have split : splitTableRow (writeRow cells) = cells.map fun cell => strip (padded cell) := by
    obtain ⟨cell, rest, rfl⟩ := List.exists_cons_of_ne_nil nonempty
    rw [splitTableRow, strip_writeRow nonempty, writeRow, List.head?_cons, List.tail_cons,
      if_pos rfl, ends, if_pos bare, ← ends]
    exact splitCells_row cell rest writable
  rw [split, List.map_map]
  calc cells.map (displayCell ∘ fun cell => strip (padded cell))
      = cells.map id :=
        List.map_congr_left fun cell member => displayCell_padded (writable cell member)
    _ = cells := List.map_id cells

def shownCells : List Text := ["a|b".toList, "``x|`y`` |".toList, []]

theorem shownCells_read_back :
    (splitTableRow (writeRow shownCells)).map displayCell = shownCells :=
  splitTableRow_writeRow shownCells (List.cons_ne_nil _ _) fun cell member => by
    rcases List.mem_cons.mp member with rfl | member
    · exact ⟨by decide, by decide, by decide⟩
    rcases List.mem_cons.mp member with rfl | member
    · exact ⟨by decide, by decide, by decide⟩
    rcases List.mem_cons.mp member with rfl | member
    · exact ⟨by decide, by decide, by decide⟩
    · cases member

end Copilotd.Guarantees.RowWriting
