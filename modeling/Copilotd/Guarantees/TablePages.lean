import Copilotd.Base.Cuts
import Copilotd.Guarantees.CodeTables
import Copilotd.Source.Render.TablePages

/-!
# The pages of a table

The page loop takes as many rows as fit below the header, one row at least, so its pages
hold the rows in their order and are as few as the heights allow.  `_render_png_pages`
returns one page where more than ten are needed, so the plan never finds more than ten.
-/
namespace Copilotd.Guarantees.TablePages
open Base.PlainText Base.Cuts Base.Encodings Source.Render.Markdown Source.Render.Tables
open Source.Render.TableLayout Source.Render.TablePages
open Guarantees.CodeTables Guarantees.TableGrammars

/-! ## The page loop -/

/-- The rows go on one page: a row alone, or rows that fit below the header. -/
def Fits (headerHeight : ℕ) (rowHeights : List ℕ) : Prop :=
  rowHeights.length ≤ 1 ∨ headerHeight + 1 + rowHeights.sum ≤ 4096

/-- Pages one after the other from `start` to `stop`, with a row or more on each. -/
def Consecutive : (start : ℕ) → (pages : List (ℕ × ℕ)) → (stop : ℕ) → Prop
  | start, [], stop => start = stop
  | start, page :: pages, stop =>
    page.1 = start ∧ page.1 < page.2 ∧ Consecutive page.2 pages stop

def rowNumbers (page : ℕ × ℕ) : List ℕ := List.range' page.1 (page.2 - page.1)

section Loop

variable {height headerHeight start stop rounds count : ℕ} {rowHeights : List ℕ}
  {pages : List (ℕ × ℕ)}

theorem fits_drop (run : List ℕ) (skipped : ℕ) (fits : Fits headerHeight run) :
    Fits headerHeight (run.drop skipped) := by
  have whole := congrArg List.sum (List.take_append_drop skipped run)
  rw [List.sum_append] at whole
  unfold Fits at fits ⊢
  rw [List.length_drop]
  omega

theorem le_fillPage_iff (bound : count ≤ rowHeights.length) :
    count ≤ fillPage height rowHeights ↔
      count = 0 ∨ height + (rowHeights.take count).sum ≤ 4096 := by
  induction rowHeights generalizing height count with
  | nil =>
    rw [List.length_nil] at bound
    omega
  | cons rowHeight rest ih =>
    cases count with
    | zero => simp
    | succ count =>
      rw [List.take_succ_cons, List.sum_cons, fillPage]
      split
      · have onward := @ih (height + rowHeight) count (Nat.le_of_succ_le_succ bound)
        have alone : count = 0 → (rest.take count).sum = 0 := by
          rintro rfl
          rfl
        omega
      · omega

theorem fillPage_le (height : ℕ) (rowHeights : List ℕ) :
    fillPage height rowHeights ≤ rowHeights.length := by
  fun_induction fillPage height rowHeights with
  | case1 => exact le_rfl
  | case2 height rowHeight rest fits ih =>
    rw [List.length_cons]
    omega
  | case3 => exact Nat.zero_le _

/-- How many rows a round takes of those that are left: the longest run for one page. -/
def taken (headerHeight : ℕ) (rowHeights : List ℕ) : ℕ :=
  max 1 (fillPage (headerHeight + 1) rowHeights)

theorem fits_taken (headerHeight : ℕ) (rowHeights : List ℕ) :
    Fits headerHeight (rowHeights.take (taken headerHeight rowHeights)) := by
  unfold taken Fits
  rcases Nat.eq_zero_or_pos (fillPage (headerHeight + 1) rowHeights) with none_ | some_
  · rw [none_, List.length_take]
    omega
  · have full := (le_fillPage_iff (fillPage_le (headerHeight + 1) rowHeights)).mp le_rfl
    rw [max_eq_right some_]
    omega

theorem taken_longest {other : ℕ} (fits : Fits headerHeight (rowHeights.take other)) :
    (rowHeights.take other).length ≤ taken headerHeight rowHeights := by
  rw [List.length_take]
  rcases fits with alone | fits
  · rw [List.length_take] at alone
    exact alone.trans (le_max_left _ _)
  · rw [List.take_eq_take_min] at fits
    exact ((le_fillPage_iff (min_le_right _ _)).mpr (.inr fits)).trans (le_max_right _ _)

theorem pageLoop_round (more : start < rowHeights.length) :
    pageLoop headerHeight rowHeights (rounds + 1) start pages =
      pageLoop headerHeight rowHeights rounds
        (start + taken headerHeight (rowHeights.drop start))
        (pages ++ [(start, start + taken headerHeight (rowHeights.drop start))]) := by
  have stop_eq : ∀ filled, (if start + filled = start ∧ start + filled < rowHeights.length then
      start + filled + 1 else start + filled) = start + max 1 filled := by
    intro filled
    split <;> omega
  rw [pageLoop, if_pos (.inl more)]
  dsimp only
  rw [stop_eq]
  rfl

theorem taken_le (more : start < rowHeights.length) :
    start + taken headerHeight (rowHeights.drop start) ≤ rowHeights.length := by
  have bound := fillPage_le (headerHeight + 1) (rowHeights.drop start)
  rw [List.length_drop] at bound
  unfold taken
  omega

theorem cutInto_end (headerHeight : ℕ) (last : start = rowHeights.length) (count : ℕ) :
    0 ≤ count ↔ CutInto (Fits headerHeight) count (rowHeights.drop start) := by
  rw [last, List.drop_length]
  exact iff_of_true (Nat.zero_le _) (cutInto_nil (.inl (Nat.zero_le _)))

theorem pageLoop_spec (some_ : rowHeights ≠ []) (inside : start ≤ rowHeights.length)
    (enough : rowHeights.length - start ≤ rounds) :
    ∃ more, pageLoop headerHeight rowHeights rounds start pages = pages ++ more ∧
      Consecutive start more rowHeights.length ∧
      ∀ count, more.length ≤ count ↔ CutInto (Fits headerHeight) count (rowHeights.drop start) := by
  induction rounds generalizing start pages with
  | zero =>
    have last : start = rowHeights.length := by omega
    exact ⟨[], (List.append_nil _).symm, last, cutInto_end headerHeight last⟩
  | succ rounds ih =>
    by_cases more : start < rowHeights.length
    · have below := @taken_le headerHeight _ _ more
      have progress : 1 ≤ taken headerHeight (rowHeights.drop start) := le_max_left _ _
      rw [pageLoop_round more]
      obtain ⟨later, loop, chained, fewest⟩ := ih below (by omega)
      refine ⟨_ :: later, by rw [loop, List.append_assoc]; rfl, ⟨rfl, by omega, chained⟩, ?_⟩
      intro count
      cases count with
      | zero =>
        refine iff_of_false (by simp) fun nothing => ?_
        have : rowHeights.length ≤ start := List.drop_eq_nil_iff.mp nothing
        omega
      | succ count =>
        rw [List.length_cons, Nat.succ_le_succ_iff, fewest, ← List.drop_drop]
        exact (cutInto_succ_iff fits_drop (fits_taken _ _) fun _ => taken_longest).symm
    · have last : start = rowHeights.length := by omega
      rw [pageLoop, if_neg (not_or.mpr ⟨more, fun empty => some_ empty.1⟩)]
      exact ⟨[], (List.append_nil _).symm, last, cutInto_end headerHeight last⟩

theorem rowNumbers_of_consecutive (chained : Consecutive start pages stop) :
    start ≤ stop ∧ pages.flatMap rowNumbers = List.range' start (stop - start) ∧
      ∀ page ∈ pages, page.1 < page.2 := by
  induction pages generalizing start with
  | nil =>
    cases chained
    rw [Nat.sub_self]
    exact ⟨le_rfl, rfl, nofun⟩
  | cons page pages ih =>
    obtain ⟨rfl, some_, chained⟩ := chained
    obtain ⟨le, rows, later⟩ := ih chained
    refine ⟨some_.le.trans le, ?_, List.forall_mem_cons.mpr ⟨some_, later⟩⟩
    have next : page.2 = page.1 + (page.2 - page.1) := by omega
    have whole : stop - page.1 = (page.2 - page.1) + (stop - page.2) := by omega
    rw [List.flatMap_cons, rows, whole, ← List.range'_append_1, ← next]
    rfl

end Loop

/-! ## The pages of a rendering -/

section Rendering

variable {pillow : Pillow} {unicode : UnicodeData} {table : ParsedTable} {layout : PageLayout}
  {sourceHash : Text} {pages : List TableAsset × Bool}

theorem layOut_lengths (laidOut : layOut pillow unicode table = .ok layout) :
    layout.rowHeights.length = table.rows.length ∧ layout.rows.length = table.rows.length := by
  obtain ⟨lineHeight, _, measured⟩ := bind_ok.mp laidOut
  obtain ⟨widths, _, placed⟩ := bind_ok.mp measured
  obtain ⟨header, _, wrapped⟩ := bind_ok.mp placed
  obtain ⟨rows, isRows, same⟩ := bind_ok.mp wrapped
  cases same
  exact ⟨(List.length_map _).trans (mapM_length isRows), mapM_length isRows⟩

theorem renderPngPages_length
    (rendered : renderPngPages pillow unicode table sourceHash = .ok pages) :
    ∃ layout, layOut pillow unicode table = .ok layout ∧
      pages.1.length =
        if 10 < (pageRanges layout).length then 1 else (pageRanges layout).length := by
  obtain ⟨layout, laidOut, drawn⟩ := bind_ok.mp rendered
  obtain ⟨assets, isAssets, same⟩ := bind_ok.mp drawn
  cases same
  refine ⟨layout, laidOut, (mapM_length isAssets).trans ?_⟩
  rw [List.length_zipIdx]
  by_cases many : 10 < (pageRanges layout).length
  · rw [if_pos many, if_pos many, List.length_take]
    omega
  · rw [if_neg many, if_neg many]

theorem pageRanges_of_no_rows (laidOut : layOut pillow unicode table = .ok layout)
    (empty : table.rows = []) : pageRanges layout = [(0, 0)] := by
  obtain ⟨heights, rows⟩ := layOut_lengths laidOut
  rw [empty, List.length_nil, List.length_eq_zero_iff] at heights rows
  rw [pageRanges, heights, rows]
  rfl

theorem pageRanges_spec (laidOut : layOut pillow unicode table = .ok layout)
    (some_ : table.rows ≠ []) : Consecutive 0 (pageRanges layout) table.rows.length ∧
      ∀ count, (pageRanges layout).length ≤ count ↔
        CutInto (Fits layout.headerHeight) count layout.rowHeights := by
  obtain ⟨heights, rows⟩ := layOut_lengths laidOut
  have someHeights : layout.rowHeights ≠ [] := by
    rw [← List.length_pos_iff, heights]
    exact List.length_pos_iff.mpr some_
  obtain ⟨more, loop, chained, fewest⟩ := @pageLoop_spec layout.headerHeight 0
    (layout.rows.length + 1) _ [] someHeights (Nat.zero_le _) (by omega)
  rw [pageRanges, loop, ← heights]
  exact ⟨chained, fewest⟩

/-- The pages hold the rows in order, and a plan for more than ten pages says that it is a
preview of that many. -/
structure Faithful (table : ParsedTable) (layout : PageLayout) (plan : TableRenderPlan) :
    Prop where
  rowsInOrder : (pageRanges layout).flatMap rowNumbers = List.range table.rows.length
  noEmptyPage : ∀ page ∈ pageRanges layout, page.1 < page.2
  preview : 10 < (pageRanges layout).length → ∃ contract,
    plan.sourceContract = some contract ∧ contract.previewOnly = true ∧
      contract.pageCount = (pageRanges layout).length

theorem pagesPlan_faithful_iff (laidOut : layOut pillow unicode table = .ok layout)
    (whole : ParsedTable) (maxUploadBytes : Option Int) (truncated : Bool)
    {assets : List TableAsset} (length : assets.length =
      if 10 < (pageRanges layout).length then 1 else (pageRanges layout).length) :
    Faithful table layout (pagesPlan whole maxUploadBytes assets truncated) ↔
      table.rows ≠ [] ∧ CutInto (Fits layout.headerHeight) 10 layout.rowHeights := by
  constructor
  · intro faithful
    have some_ : table.rows ≠ [] := by
      intro empty
      have page : (0, 0) ∈ pageRanges layout := by
        rw [pageRanges_of_no_rows laidOut empty]
        exact List.mem_singleton_self _
      exact absurd (faithful.noEmptyPage _ page) (lt_irrefl 0)
    refine ⟨some_, ((pageRanges_spec laidOut some_).2 10).mp (not_lt.mp fun many => ?_)⟩
    obtain ⟨contract, isContract, -, counted⟩ := faithful.preview many
    cases isContract
    rw [if_pos many] at length
    have one : assets.length = (pageRanges layout).length := counted
    omega
  · rintro ⟨some_, cut⟩
    obtain ⟨chained, fewest⟩ := pageRanges_spec laidOut some_
    obtain ⟨-, rows, noEmptyPage⟩ := rowNumbers_of_consecutive chained
    refine ⟨rows.trans List.range_eq_range'.symm, noEmptyPage, fun many => ?_⟩
    exact absurd ((fewest 10).mpr cut) (not_le.mpr many)

/-- The pagination of a table that is rendered as pages is faithful exactly if the table has rows
to render and at most ten pages hold them. -/
theorem pagination_faithful_iff {library : Library} {markdown : Text}
    {maxUploadBytes : Option Int} (parsed : parseTable library markdown 1 = .ok table)
    (notCode : codePlan unicode table maxUploadBytes = .ok none)
    (rendered : renderPngPages pillow unicode (previewTable table) table.sourceHash = .ok pages) :
    ∃ layout plan, layOut pillow unicode (previewTable table) = .ok layout ∧
      renderTable library unicode pillow markdown maxUploadBytes = .ok plan ∧
      (Faithful (previewTable table) layout plan ↔ (previewTable table).rows ≠ [] ∧
        CutInto (Fits layout.headerHeight) 10 layout.rowHeights) ∧
      ((previewTable table).rows = [] → pageRanges layout = [(0, 0)]) := by
  obtain ⟨layout, laidOut, length⟩ := renderPngPages_length rendered
  refine ⟨layout, pagesPlan table maxUploadBytes pages.1 pages.2, laidOut, ?_,
    pagesPlan_faithful_iff laidOut table maxUploadBytes pages.2 length,
    pageRanges_of_no_rows laidOut⟩
  have read : (parseTable library markdown 1).mapError Raised.valueError = .ok table := by
    rw [parsed]
    rfl
  rw [renderTable, read, ok_bind, notCode, ok_bind]
  dsimp only
  rw [rendered]
  rfl

end Rendering

/-- Lines of 33 pixels, and characters of 1000. -/
def wideFont : Pillow where
  lineHeight := .ok 33
  textWidth text _ := .ok (1000 * text.length)
  shrink width totalWidth := width * 4096 / totalWidth
  save _ := .ok .empty

/-- Thirteen rows whose first cell is a word of `length` letters. -/
def wordTable (length : ℕ) : ParsedTable :=
  let markdown := "| a | b |\n| --- | --- |\n".toList ++ (List.replicate 13
    ("| ".toList ++ List.replicate length 'x' ++ " | c |\n".toList)).flatten
  { headers := [['a'], ['b']]
    alignments := [.left, .left]
    rows := List.replicate 13 [List.replicate length 'x', ['c']]
    markdown
    sourceHash := markdown
    sourceSpan := ⟨1, 15⟩
    headerRaw := [['a'], ['b']]
    rowRaw := List.replicate 13 [List.replicate length 'x', ['c']]
    headerSpan := ⟨1, 1⟩
    rowSpans := (List.range' 3 13).map fun line => ⟨line, line⟩ }

theorem short_words_are_faithful : ∃ layout plan,
    renderTable asciiLibrary sampleUnicode wideFont (wordTable 1).markdown none = .ok plan ∧
      (Faithful (wordTable 1) layout plan ↔ (wordTable 1).rows ≠ [] ∧
        CutInto (Fits layout.headerHeight) 10 layout.rowHeights) := by
  have drawn : (renderPngPages wideFont sampleUnicode (wordTable 1) (wordTable 1).sourceHash).isOk =
      true := by decide +kernel
  cases rendered : renderPngPages wideFont sampleUnicode (wordTable 1) (wordTable 1).sourceHash with
  | error raised =>
    rw [rendered] at drawn
    cases drawn
  | ok pages =>
    have width : formattedWidth sampleUnicode (wordTable 1) = some 5 := by decide +kernel
    have notCode : codePlan sampleUnicode (wordTable 1) none = .ok none := by
      rw [codePlan, width]
      rfl
    have parsed : parseTable asciiLibrary (wordTable 1).markdown 1 = .ok (wordTable 1) := by
      decide +kernel
    obtain ⟨layout, plan, -, planned, faithful, -⟩ :=
      pagination_faithful_iff parsed notCode rendered
    exact ⟨layout, plan, planned, faithful⟩

/-- Thirteen pages are needed, and the plan counts one and is no preview. -/
theorem tall_words_are_no_preview :
    parseTable asciiLibrary (wordTable 61).markdown 1 = .ok (wordTable 61) ∧
    ((layOut wideFont sampleUnicode (previewTable (wordTable 61))).map fun layout =>
      (pageRanges layout).length).toOption = some 13 ∧
    ((renderTable asciiLibrary sampleUnicode wideFont (wordTable 61).markdown none).map fun plan =>
      (plan.carrier, plan.sourceContract.map fun contract =>
        (contract.pageCount, contract.previewOnly))).toOption = some (.image, some (1, false)) := by
  decide +kernel

end Copilotd.Guarantees.TablePages
