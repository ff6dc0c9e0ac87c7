import Mathlib.Data.List.DropRight

/-!
# Text as lists of characters

Whitespace, line boundaries, stripping and splitting as Python's `str` has them.
`content` is what is left of a text when only its nonblank lines count, without the
whitespace around them; it does not see how lines end.
-/
namespace Copilotd.Base.PlainText

abbrev Text := List Char

/-- `str.isspace` of one character. -/
def isSpace (c : Char) : Bool :=
  (9 ≤ c.toNat ∧ c.toNat ≤ 13) ∨ (28 ≤ c.toNat ∧ c.toNat ≤ 32) ∨ c.toNat = 0x85 ∨ c.toNat = 0xa0 ∨
    c.toNat = 0x1680 ∨ (0x2000 ≤ c.toNat ∧ c.toNat ≤ 0x200a) ∨ c.toNat = 0x2028 ∨
    c.toNat = 0x2029 ∨ c.toNat = 0x202f ∨ c.toNat = 0x205f ∨ c.toNat = 0x3000

/-- The line boundaries of `str.splitlines`. -/
def isLineBreak (c : Char) : Bool :=
  (10 ≤ c.toNat ∧ c.toNat ≤ 13) ∨ (28 ≤ c.toNat ∧ c.toNat ≤ 30) ∨ c.toNat = 0x85 ∨
    c.toNat = 0x2028 ∨ c.toNat = 0x2029

def isBlank (c : Char) : Bool := c = ' ' ∨ c = '\t'

def strip (text : Text) : Text := (text.dropWhile isSpace).rdropWhile isSpace

/-- `not text.strip()` -/
def Blank (text : Text) : Prop := text.all isSpace = true

instance (text : Text) : Decidable (Blank text) := inferInstanceAs (Decidable (_ = _))

/-- The lines of `line` and the text behind it, each with what ends it. -/
def splitLines : Text → Text → List (Text × Text)
  | line, [] => if line.isEmpty then [] else [(line, [])]
  | line, '\r' :: '\n' :: rest => (line, ['\r', '\n']) :: splitLines [] rest
  | line, c :: rest =>
    if isLineBreak c then (line, [c]) :: splitLines [] rest else splitLines (line ++ [c]) rest

/-- `str.splitlines()` -/
def splitlines (text : Text) : List Text := (splitLines [] text).map Prod.fst

/-- `str.splitlines(keepends=True)` -/
def linesWithEnds (text : Text) : List Text := (splitLines [] text).map fun line => line.1 ++ line.2

theorem splitLines_flatten (line text : Text) :
    ((splitLines line text).map fun entry => entry.1 ++ entry.2).flatten = line ++ text := by
  fun_induction splitLines line text with
  | case1 line empty => simp [List.isEmpty_iff.mp empty]
  | case2 line full => simp
  | case3 line rest ih => simp [ih]
  | case4 line c rest _ breaks ih => simp [ih]
  | case5 line c rest _ inside ih => simp [ih]

theorem linesWithEnds_flatten (text : Text) : (linesWithEnds text).flatten = text :=
  splitLines_flatten [] text

theorem isSpace_of_isLineBreak {c : Char} (breaks : isLineBreak c = true) : isSpace c = true := by
  simp only [isLineBreak, isSpace, decide_eq_true_eq] at breaks ⊢
  omega

/-! ## Stripping -/

variable {back : Text}

theorem blank_append {front : Text} : Blank (front ++ back) ↔ Blank front ∧ Blank back := by
  rw [Blank, List.all_append, Bool.and_eq_true]
  exact Iff.rfl

theorem strip_eq_nil {text : Text} : strip text = [] ↔ Blank text := by
  rw [strip, List.rdropWhile_eq_nil_iff, Blank, List.all_eq_true]
  constructor
  · intro rest
    by_contra mixed
    have nonempty : text.dropWhile isSpace ≠ [] := by
      rw [Ne, List.dropWhile_eq_nil_iff]
      exact mixed
    have head := List.head_dropWhile_not isSpace nonempty
    rw [rest _ (List.head_mem nonempty)] at head
    cases head
  · intro all c member
    exact all c ((List.dropWhile_suffix isSpace).mem member)

theorem strip_blank_append {front : Text} (blank : Blank front) (text : Text) :
    strip (front ++ text) = strip text := by
  rw [strip, strip, List.dropWhile_append_of_pos (List.all_eq_true.mp blank)]

theorem rdropWhile_append_blank (blank : Blank back) (text : Text) :
    (text ++ back).rdropWhile isSpace = text.rdropWhile isSpace := by
  rw [List.rdropWhile, List.rdropWhile, List.reverse_append, List.dropWhile_append_of_pos]
  intro c member
  exact List.all_eq_true.mp blank c (List.mem_reverse.mp member)

theorem strip_append_blank (blank : Blank back) (text : Text) :
    strip (text ++ back) = strip text := by
  by_cases all : Blank text
  · rw [strip_eq_nil.mpr all, strip_eq_nil.mpr (blank_append.mpr ⟨all, blank⟩)]
  · have stops : text.dropWhile isSpace ≠ [] := by
      rw [Ne, List.dropWhile_eq_nil_iff, ← List.all_eq_true]
      exact all
    rw [strip, strip, List.dropWhile_append, if_neg (by simpa using stops),
      rdropWhile_append_blank blank]

theorem strip_spec (text : Text) : ∃ front back, Blank front ∧ Blank back ∧
    text = front ++ (strip text ++ back) := by
  refine ⟨text.takeWhile isSpace, (text.dropWhile isSpace).rtakeWhile isSpace, ?_, ?_, ?_⟩
  · exact List.all_eq_true.mpr fun c member => List.mem_takeWhile_imp member
  · exact List.all_eq_true.mpr fun c member => List.mem_rtakeWhile_imp member
  · rw [strip, List.rdropWhile_append_rtakeWhile, List.takeWhile_append_dropWhile]

/-! ## Content -/

/-- The nonblank pieces between line boundaries, stripped. -/
def content (text : Text) : List Text :=
  ((text.splitOnP isLineBreak).map strip).filter (· ≠ [])

theorem content_of_line {line : Text} (whole : ∀ c ∈ line, isLineBreak c = false) :
    content line = [strip line].filter (· ≠ []) := by
  rw [content, List.splitOnP_eq_singleton whole]
  rfl

@[simp] theorem content_nil : content [] = [] := rfl

theorem content_append_break (front back : Text) {c : Char} (breaks : isLineBreak c = true) :
    content (front ++ c :: back) = content front ++ content back := by
  rw [content, List.splitOnP_append_cons front back breaks, List.map_append, List.filter_append]
  rfl

theorem content_blank_append {front : Text} (blank : Blank front) (text : Text) :
    content (front ++ text) = content text := by
  induction front with
  | nil => rfl
  | cons c front ih =>
    rw [Blank, List.all_cons, Bool.and_eq_true] at blank
    rw [← ih blank.2, List.cons_append]
    by_cases breaks : isLineBreak c = true
    · exact content_append_break [] (front ++ text) breaks
    · obtain ⟨head, tail, pieces⟩ := List.exists_cons_of_ne_nil
        (List.splitOnP_ne_nil isLineBreak (front ++ text))
      have same : strip (c :: head) = strip head :=
        @strip_blank_append [c] (by simpa [Blank] using blank.1) head
      rw [content, content, List.splitOnP_cons_eq_if_modifyHead, if_neg breaks, pieces,
        List.modifyHead_cons, List.map_cons, List.map_cons, same]

/-- Blanks behind the last line boundary stay in the last piece. -/
theorem splitOnP_append {back : Text} (whole : ∀ c ∈ back, isLineBreak c = false) (text : Text) :
    ∃ front last, text.splitOnP isLineBreak = front ++ [last] ∧
      (text ++ back).splitOnP isLineBreak = front ++ [last ++ back] := by
  induction text with
  | nil => exact ⟨[], [], rfl, List.splitOnP_eq_singleton whole⟩
  | cons c text ih =>
    obtain ⟨front, last, short, long⟩ := ih
    rw [List.cons_append, List.splitOnP_cons_eq_if_modifyHead, List.splitOnP_cons_eq_if_modifyHead,
      short, long]
    split
    · exact ⟨[] :: front, last, rfl, rfl⟩
    · cases front with
      | nil => exact ⟨[], c :: last, rfl, rfl⟩
      | cons head front => exact ⟨(c :: head) :: front, last, rfl, rfl⟩

theorem content_append_blank (blank : Blank back) (text : Text) :
    content (text ++ back) = content text := by
  induction back generalizing text with
  | nil => rw [List.append_nil]
  | cons c back ih =>
    rw [Blank, List.all_cons, Bool.and_eq_true] at blank
    by_cases breaks : isLineBreak c = true
    · rw [content_append_break text back breaks, ← List.nil_append back, ih blank.2 [],
        content_nil, List.append_nil]
    · rw [List.append_cons, ih blank.2]
      obtain ⟨front, last, short, long⟩ := @splitOnP_append [c] (by simpa using breaks) text
      have same : strip (last ++ [c]) = strip last :=
        strip_append_blank (by simpa [Blank] using blank.1) last
      rw [content, content, short, long]
      simp only [List.map_append, List.map_singleton, same]

theorem content_strip (text : Text) : content (strip text) = content text := by
  obtain ⟨front, back, blankFront, blankBack, whole⟩ := strip_spec text
  have same := congrArg content whole
  rw [content_blank_append blankFront, content_append_blank blankBack] at same
  exact same.symm

theorem content_splitLines (line text : Text) (whole : ∀ c ∈ line, isLineBreak c = false) :
    (((splitLines line text).map Prod.fst).map strip).filter (· ≠ []) = content (line ++ text) := by
  fun_induction splitLines line text with
  | case1 line empty =>
    rw [List.isEmpty_iff.mp empty]
    rfl
  | case2 line full =>
    rw [List.append_nil, content_of_line whole]
    rfl
  | case3 line rest ih =>
    have feed : content ('\n' :: rest) = content rest := content_append_break [] rest (by decide)
    rw [content_append_break line ('\n' :: rest) (by decide), feed, content_of_line whole,
      List.map_cons, List.map_cons, ← List.singleton_append, List.filter_append,
      ih (fun c member => by cases member)]
    rfl
  | case4 line c rest _ breaks ih =>
    rw [content_append_break line rest breaks, content_of_line whole, List.map_cons,
      List.map_cons, ← List.singleton_append, List.filter_append,
      ih (fun c member => by cases member)]
    rfl
  | case5 line c rest _ inside ih =>
    rw [ih, List.append_assoc, List.singleton_append]
    intro d member
    rcases List.mem_append.mp member with old | new
    · exact whole d old
    · rw [List.mem_singleton.mp new]
      simpa using inside

theorem content_splitlines (text : Text) :
    ((splitlines text).map strip).filter (· ≠ []) = content text :=
  content_splitLines [] text fun _ member => (List.not_mem_nil member).elim

/-- Lines hold no line boundary, and end with at most one, or with a return and a
line feed. -/
theorem splitLines_shape (line text : Text) (whole : ∀ c ∈ line, isLineBreak c = false) :
    ∀ entry ∈ splitLines line text, (∀ c ∈ entry.1, isLineBreak c = false) ∧
      (entry.2 = [] ∨ entry.2 = ['\r', '\n'] ∨ ∃ c, isLineBreak c = true ∧ entry.2 = [c]) := by
  fun_induction splitLines line text with
  | case1 => exact fun _ member => by cases member
  | case2 line full =>
    intro entry member
    rw [List.mem_singleton.mp member]
    exact ⟨whole, .inl rfl⟩
  | case3 line rest ih =>
    intro entry member
    rcases List.mem_cons.mp member with rfl | later
    · exact ⟨whole, .inr (.inl rfl)⟩
    · exact ih (fun c member => by cases member) entry later
  | case4 line c rest _ breaks ih =>
    intro entry member
    rcases List.mem_cons.mp member with rfl | later
    · exact ⟨whole, .inr (.inr ⟨c, breaks, rfl⟩)⟩
    · exact ih (fun c member => by cases member) entry later
  | case5 line c rest _ inside ih =>
    apply ih
    intro d member
    rcases List.mem_append.mp member with old | new
    · exact whole d old
    · rw [List.mem_singleton.mp new]
      simpa using inside

end Copilotd.Base.PlainText
