import Mathlib.Data.List.Forall2
import Copilotd.Source.Render.LocalImages

/-!
# Extraction of local images

What the loop over the lines and the scanner of a line track does not depend on what becomes
of an image: a source is cut into literal text, other text and candidates
(`documentSegments`), and extraction places these one after another (`extractLines_eq`).
The segments put together again are the source.  A placed candidate is copied or attached,
and the only candidate that cannot be placed is one whose URL `urlsplit` does not read.
-/
namespace Copilotd.Guarantees.ImageExtraction

open Base.PlainText Source.Render.Markdown Source.Render.LocalImages

/-! ## Segments -/

inductive Segment where
  | literal (text : Text)
  | plain (text : Text)
  | candidate (isLink : Bool) (candidate : Candidate)

def Segment.text : Segment → Text
  | .literal text | .plain text => text
  | .candidate _ found => found.source

/-- Text is literal while a delimiter of inline code is open, and so are the delimiters. -/
def Segment.copied (delim : Option Nat) (text : Text) : Segment :=
  if delim = none then .plain text else .literal text

def lineSegments :
    (delim : Option Nat) → (previous : Option Char) → Text → (skip : Nat) →
      List Segment × Option Nat
  | delim, _, [], _ => ([], delim)
  | delim, _, c :: rest, skip + 1 => lineSegments delim (some c) rest skip
  | delim, previous, c :: rest, 0 =>
    if c = '\\' then
      let (segments, last) := lineSegments delim (some c) rest 1
      (.copied delim (c :: rest.take 1) :: segments, last)
    else if c = '`' then
      let run := 1 + (rest.takeWhile (· = '`')).length
      let next := if delim = none then some run else if delim = some run then none else delim
      let (segments, last) := lineSegments next (some c) rest (run - 1)
      (.literal (List.replicate run '`') :: segments, last)
    else
      match if delim = none then candidateAt previous (c :: rest) else none with
      | some (isLink, candidate) =>
        let (segments, last) := lineSegments delim (some c) rest (candidate.source.length - 1)
        (.candidate isLink candidate :: segments, last)
      | none =>
        let (segments, last) := lineSegments delim (some c) rest 0
        (.copied delim [c] :: segments, last)

/-- The segments of the lines; a line of a fence or of indented code is literal. -/
def documentSegments (library : Library) : (lineNumber : Nat) → Carried → List Text → List Segment
  | _, _, [] => []
  | lineNumber, carried, line :: rest =>
    match carried.readLine library lineNumber (splitLineEnding line).1 with
    | (next, none) => .literal line :: documentSegments library (lineNumber + 1) next rest
    | (next, some path) =>
      let (segments, delim) := lineSegments next.inlineCodeDelim none (splitLineEnding line).1 0
      segments ++ .plain (splitLineEnding line).2 ::
        documentSegments library (lineNumber + 1) (next.scanned path delim) rest

def segmentsOf (library : Library) (source : Text) : List Segment :=
  documentSegments library 1 {} (linesWithEnds source)

/-! ### The segments are the source -/

variable {candidate : Candidate}

theorem scanCandidate_source {opening : Nat} {text : Text}
    (scanned : scanCandidate opening text = some candidate) :
    ∃ length, candidate.source = text.take (length + 1) := by
  obtain ⟨altLength, -, rest⟩ := Option.bind_eq_some_iff.mp scanned
  split at rest
  · obtain ⟨targetLength, -, rfl⟩ := Option.map_eq_some_iff.mp rest
    exact ⟨opening + altLength + targetLength + 2, rfl⟩
  · cases rest

variable {isLink : Bool}

theorem candidateAt_source {previous : Option Char} {text : Text}
    (found : candidateAt previous text = some (isLink, candidate)) :
    ∃ length, candidate.source = text.take (length + 1) := by
  unfold candidateAt at found
  split at found
  · obtain ⟨_, scanned, same⟩ := Option.map_eq_some_iff.mp found
    cases same
    exact scanCandidate_source scanned
  · split at found
    · obtain ⟨_, scanned, same⟩ := Option.map_eq_some_iff.mp found
      cases same
      exact scanCandidate_source scanned
    · cases found

theorem candidateAt_append {previous : Option Char} {c : Char} {rest : Text}
    (found : candidateAt previous (c :: rest) = some (isLink, candidate)) :
    candidate.source ++ rest.drop (candidate.source.length - 1) = c :: rest := by
  obtain ⟨length, is⟩ := candidateAt_source found
  rw [List.take_succ_cons] at is
  rw [is, List.length_cons, Nat.add_sub_cancel, List.length_take, List.cons_append]
  congr 1
  rcases Nat.le_total length rest.length with short | long
  · rw [Nat.min_eq_left short, List.take_append_drop]
  · rw [Nat.min_eq_right long, List.drop_length, List.append_nil, List.take_of_length_le long]

theorem copied_text (delim : Option Nat) (text : Text) :
    (Segment.copied delim text).text = text := by
  unfold Segment.copied
  split <;> rfl

theorem replicate_append_drop (rest : Text) :
    List.replicate (1 + (rest.takeWhile (· = '`')).length) '`' ++
      rest.drop (rest.takeWhile (· = '`')).length = '`' :: rest := by
  have ticks : rest.takeWhile (· = '`') = List.replicate (rest.takeWhile (· = '`')).length '`' := by
    refine List.eq_replicate_of_mem fun c member => ?_
    simpa using List.mem_takeWhile_imp member
  have whole : rest.takeWhile (· = '`') ++ rest.drop (rest.takeWhile (· = '`')).length = rest := by
    have front := List.prefix_iff_eq_take.mp (List.takeWhile_prefix (l := rest) (· = '`'))
    exact (congrArg (· ++ _) front).trans (List.take_append_drop ..)
  rw [Nat.add_comm, List.replicate_succ, List.cons_append, ← ticks, whole]

theorem lineSegments_text (delim : Option Nat) (previous : Option Char) (text : Text) (skip : Nat) :
    (lineSegments delim previous text skip).1.flatMap Segment.text = text.drop skip := by
  fun_induction lineSegments delim previous text skip with
  | case1 => simp
  | case2 delim previous c rest skip ih => simpa using ih
  | case3 delim previous rest segments last is ih =>
    rw [is] at ih
    rw [List.flatMap_cons, copied_text, ih, List.cons_append, List.take_append_drop]
    rfl
  | case4 delim previous rest run next segments last _ is ih =>
    rw [is] at ih
    rw [List.flatMap_cons, ih]
    rw [Nat.add_sub_cancel_left]
    exact replicate_append_drop rest
  | case5 delim previous c rest _ _ isLink candidate found segments last is ih =>
    rw [is] at ih
    rw [List.flatMap_cons, ih]
    split at found
    · exact candidateAt_append found
    · cases found
  | case6 delim previous c rest _ _ _ segments last is ih =>
    rw [is] at ih
    rw [List.flatMap_cons, copied_text, ih]
    rfl

theorem splitLineEnding_append (line : Text) :
    (splitLineEnding line).1 ++ (splitLineEnding line).2 = line := by
  have front := List.prefix_iff_eq_take.mp
    (List.rdropWhile_prefix (fun c => c = '\r' ∨ c = '\n') (l := line))
  exact (congrArg (· ++ _) front).trans (List.take_append_drop ..)

theorem documentSegments_text (library : Library) (lineNumber : Nat) (carried : Carried)
    (lines : List Text) :
    (documentSegments library lineNumber carried lines).flatMap Segment.text = lines.flatten := by
  induction lines generalizing lineNumber carried with
  | nil => rfl
  | cons line rest ih =>
    unfold documentSegments
    split
    · rw [List.flatMap_cons, ih]
      rfl
    · next next path _ =>
      have inLine := lineSegments_text next.inlineCodeDelim none (splitLineEnding line).1 0
      rw [List.flatMap_append, inLine, List.flatMap_cons, ih, List.flatten_cons]
      conv_rhs => rw [← splitLineEnding_append line]
      rw [List.append_assoc]
      rfl

theorem segmentsOf_text (library : Library) (source : Text) :
    (segmentsOf library source).flatMap Segment.text = source := by
  rw [segmentsOf, documentSegments_text, linesWithEnds_flatten]

/-! ## Placing -/

theorem Placed.append_assoc (first second third : Placed) :
    (first.append second).append third = first.append (second.append third) := by
  simp [Placed.append]

section Placing

variable {Path : Type} [DecidableEq Path] {host : Host Path} {urls : Urls} {roots : List Path}
  {trusted : Option (List Path)}

variable (host urls roots trusted) in
def Segment.place : Segment → Except String Placed
  | .literal text | .plain text => .ok { pieces := text }
  | .candidate isLink found => placeCandidate host urls roots trusted isLink found

variable (host urls roots trusted) in
def placeAll : List Segment → Except String Placed
  | [] => .ok {}
  | segment :: rest => do
    let here ← segment.place host urls roots trusted
    let placed ← placeAll rest
    return here.append placed

theorem placeAll_append (front back : List Segment) :
    placeAll host urls roots trusted (front ++ back) = do
      let first ← placeAll host urls roots trusted front
      let second ← placeAll host urls roots trusted back
      return first.append second := by
  induction front with
  | nil =>
    rw [List.nil_append, placeAll]
    cases placeAll host urls roots trusted back <;> rfl
  | cons segment front ih =>
    rw [List.cons_append, placeAll, placeAll, ih]
    cases segment.place host urls roots trusted with
    | error message => rfl
    | ok here =>
      cases placeAll host urls roots trusted front with
      | error message => rfl
      | ok first =>
        cases placeAll host urls roots trusted back with
        | error message => rfl
        | ok second => exact congrArg Except.ok (Placed.append_assoc here first second).symm

theorem copied_place (delim : Option Nat) (text : Text) :
    (Segment.copied delim text).place host urls roots trusted = .ok { pieces := text } := by
  unfold Segment.copied
  split <;> rfl

theorem extractImagesFromLine_eq (delim : Option Nat) (previous : Option Char) (text : Text)
    (skip : Nat) :
    extractImagesFromLine host urls roots trusted delim previous text skip =
      (placeAll host urls roots trusted (lineSegments delim previous text skip).1).map
        fun placed => (placed, (lineSegments delim previous text skip).2) := by
  fun_induction lineSegments delim previous text skip with
  | case1 => rfl
  | case2 delim previous c rest skip ih => exact ih
  | case3 delim previous rest segments last is ih =>
    rw [extractImagesFromLine, if_pos rfl, ih, is, placeAll, copied_place]
    cases placeAll host urls roots trusted segments <;> rfl
  | case4 delim previous rest run next segments last other is ih =>
    rw [extractImagesFromLine, if_neg other, if_pos rfl]
    dsimp only
    rw [ih, is, placeAll]
    cases placeAll host urls roots trusted segments <;> rfl
  | case5 delim previous c rest other noTick isLink candidate found segments last is ih =>
    rw [extractImagesFromLine, if_neg other, if_neg noTick, found]
    dsimp only
    rw [ih, is, placeAll, Segment.place]
    cases placeCandidate host urls roots trusted isLink candidate with
    | error message => rfl
    | ok here => cases placeAll host urls roots trusted segments <;> rfl
  | case6 delim previous c rest other noTick found segments last is ih =>
    rw [extractImagesFromLine, if_neg other, if_neg noTick, found]
    rw [ih, is, placeAll, copied_place]
    cases placeAll host urls roots trusted segments <;> rfl

theorem extractLines_eq (library : Library) (lineNumber : Nat) (carried : Carried)
    (lines : List Text) :
    extractLines host urls roots trusted library lineNumber carried lines =
      placeAll host urls roots trusted (documentSegments library lineNumber carried lines) := by
  induction lines generalizing lineNumber carried with
  | nil => rfl
  | cons line rest ih =>
    unfold extractLines documentSegments
    rcases carried.readLine library lineNumber (splitLineEnding line).1 with ⟨next, _ | path⟩
    · dsimp only
      rw [ih]
      rfl
    · dsimp only
      rw [extractImagesFromLine_eq, placeAll_append]
      cases placeAll host urls roots trusted
          (lineSegments next.inlineCodeDelim none (splitLineEnding line).1 0).1 with
      | error message => rfl
      | ok here =>
        simp only [Except.map, bind, Except.bind, ih, placeAll, Segment.place]
        cases placeAll host urls roots trusted (documentSegments library (lineNumber + 1)
            (next.scanned path
              (lineSegments next.inlineCodeDelim none (splitLineEnding line).1 0).2)
            rest) with
        | error message => rfl
        | ok placed => exact congrArg Except.ok (Placed.append_assoc here _ placed)

/-! ## What becomes of a candidate -/

/-- The first word of the target is not a URL that `urlsplit` does not read. -/
def Reads (urls : Urls) (target : Text) : Prop :=
  ∀ words ∈ shlexSplit (unwrapTarget target), ∀ path ∈ words.head?, isUrl path = true →
    (urlsplit urls path).isSome

/-- The path that is written for an attachment resolves inside a root, and is trusted if there
is a set of trusted paths. -/
def Inside (host : Host Path) (roots : List Path) (trusted : Option (List Path)) (written : Text) :
    Prop :=
  ∃ resolved, written = host.str resolved ∧ (∃ root ∈ roots, host.relativeTo resolved root = true) ∧
    ∀ paths ∈ trusted, resolved ∈ paths

omit [DecidableEq Path] in
theorem resolve_inside {path : Text} {resolved : Path}
    (found : resolveMarkdownImagePath host roots path = some resolved) :
    ∃ root ∈ roots, host.relativeTo resolved root = true := by
  unfold resolveMarkdownImagePath at found
  dsimp only at found
  split at found
  · split at found
    · next inside =>
      cases found
      exact List.any_eq_true.mp inside
    · cases found
  · obtain ⟨root, member, is⟩ := List.exists_of_findSome?_eq_some found
    split at is
    · next inside =>
      cases is
      exact ⟨root, member, inside⟩
    · cases is

variable (host roots trusted) in
/-- A candidate is copied, or its caption is; or it is attached. -/
inductive CandidatePlaced (found : Candidate) (placed : Placed) : Prop where
  | copied (attachments : placed.attachments = [])
      (pieces : trusted = none → placed.pieces = found.source)
  | attached (attachment : MarkdownImageAttachmentPlan)
      (attachments : placed.attachments = [attachment])
      (source : attachment.source = found.source) (pieces : trusted = none → placed.pieces = [])
      (inside : Inside host roots trusted attachment.resolvedPath)

omit [DecidableEq Path] in
theorem refuse_placed (found : Candidate) (kind message : String) :
    CandidatePlaced host roots trusted found (refuse trusted found kind message) := by
  refine .copied rfl ?_
  rintro rfl
  rfl

theorem placeCandidate_placed {found : Candidate} {placed : Placed}
    (done : placeCandidate host urls roots trusted isLink found = .ok placed) :
    CandidatePlaced host roots trusted found placed := by
  unfold placeCandidate at done
  cases parsed : parseMarkdownImageTarget host urls found.target with
  | error message =>
    rw [parsed] at done
    cases done
  | ok target =>
    obtain ⟨path, title⟩ := target
    rw [parsed] at done
    cases done
    cases path with
    | none =>
      split
      · exact .copied rfl fun _ => rfl
      · exact refuse_placed ..
    | some path =>
      dsimp only
      cases resolution : resolveMarkdownImagePath host roots path with
      | none => exact refuse_placed ..
      | some resolved =>
        dsimp only
        split
        · exact refuse_placed ..
        · next untrusted =>
          split
          · split
            · exact .copied rfl fun _ => rfl
            · exact refuse_placed ..
          · split
            · exact refuse_placed ..
            · split
              · exact refuse_placed ..
              · refine .attached _ rfl rfl ?_ ⟨resolved, rfl, resolve_inside resolution, ?_⟩
                · rintro rfl
                  rfl
                · rintro paths rfl
                  simpa using untrusted

omit [DecidableEq Path] in
theorem parse_isOk_iff (target : Text) :
    (∃ parsed, parseMarkdownImageTarget host urls target = .ok parsed) ↔ Reads urls target := by
  unfold parseMarkdownImageTarget Reads
  cases shlexSplit (unwrapTarget target) with
  | none => simp
  | some words =>
    cases words with
    | nil => simp
    | cons path words =>
      simp only [Option.mem_def, Option.some.injEq, forall_eq', List.head?_cons]
      by_cases url : isUrl path = true
      · cases urlsplit urls path with
        | none => simp [url]
        | some parsed =>
          simp only [url, if_true, Option.isSome_some, imp_true_iff, iff_true]
          split
          · exact ⟨_, rfl⟩
          · split
            · exact ⟨_, rfl⟩
            · exact ⟨_, rfl⟩
      · simp [url]

theorem placeCandidate_isOk_iff {found : Candidate} :
    (∃ placed, placeCandidate host urls roots trusted isLink found = .ok placed) ↔
      Reads urls found.target := by
  rw [← @parse_isOk_iff Path host]
  unfold placeCandidate
  cases parseMarkdownImageTarget host urls found.target with
  | error message => simp [Except.map]
  | ok parsed => simp [Except.map]

/-! ## All segments -/

variable (host roots trusted) in
/-- Text is copied, literal or not; a candidate is placed. -/
def PlacedAs : Segment → Placed → Prop
  | .literal text, placed | .plain text, placed => placed = { pieces := text }
  | .candidate _ found, placed => CandidatePlaced host roots trusted found placed

def targets (segments : List Segment) : List Text :=
  segments.filterMap fun
    | .candidate _ found => some found.target
    | _ => none

theorem placeAll_isOk_iff (segments : List Segment) :
    (∃ placed, placeAll host urls roots trusted segments = .ok placed) ↔
      ∀ target ∈ targets segments, Reads urls target := by
  induction segments with
  | nil => simp [placeAll, targets]
  | cons segment rest ih =>
    have step : (∃ placed, placeAll host urls roots trusted (segment :: rest) = .ok placed) ↔
        (∃ here, segment.place host urls roots trusted = .ok here) ∧
          ∃ placed, placeAll host urls roots trusted rest = .ok placed := by
      rw [placeAll]
      cases segment.place host urls roots trusted with
      | error message => simp [bind, Except.bind]
      | ok here => cases placeAll host urls roots trusted rest
          <;> simp [bind, Except.bind, pure, Except.pure]
    rw [step, ih]
    cases segment with
    | literal | plain => simp [targets, Segment.place]
    | candidate isLink found =>
      rw [Segment.place, placeCandidate_isOk_iff]
      simp [targets]

theorem placeAll_placed {segments : List Segment} {placed : Placed}
    (done : placeAll host urls roots trusted segments = .ok placed) :
    ∃ placements, List.Forall₂ (PlacedAs host roots trusted) segments placements ∧
      placed.pieces = placements.flatMap Placed.pieces ∧
      placed.attachments = placements.flatMap Placed.attachments := by
  induction segments generalizing placed with
  | nil =>
    cases done
    exact ⟨[], .nil, rfl, rfl⟩
  | cons segment rest ih =>
    rw [placeAll] at done
    cases here : segment.place host urls roots trusted with
    | error message =>
      rw [here] at done
      cases done
    | ok first =>
      cases after : placeAll host urls roots trusted rest with
      | error message =>
        rw [here, after] at done
        cases done
      | ok second =>
        rw [here, after] at done
        cases done
        obtain ⟨placements, each, pieces, attachments⟩ := ih after
        refine ⟨first :: placements, .cons ?_ each, ?_, ?_⟩
        · cases segment with
          | literal | plain =>
            cases here
            rfl
          | candidate isLink found => exact placeCandidate_placed here
        · rw [List.flatMap_cons, ← pieces]
          rfl
        · rw [List.flatMap_cons, ← attachments]
          rfl

/-! ## The law -/

/-- The source is the content with the sources of the attachments put back between its pieces. -/
def Interleaves (content : Text) (sources : List Text) (source : Text) : Prop :=
  ∃ (first : Text) (rest : List (Text × Text)), rest.map Prod.fst = sources ∧
    content = first ++ rest.flatMap Prod.snd ∧
    source = first ++ rest.flatMap fun entry => entry.1 ++ entry.2

theorem Interleaves.text {content source : Text} {sources : List Text}
    (rest : Interleaves content sources source) (text : Text) :
    Interleaves (text ++ content) sources (text ++ source) := by
  obtain ⟨first, rest, same, rfl, rfl⟩ := rest
  exact ⟨text ++ first, rest, same, by rw [List.append_assoc], by rw [List.append_assoc]⟩

theorem Interleaves.attachment {content source : Text} {sources : List Text}
    (rest : Interleaves content sources source) (text : Text) :
    Interleaves content (text :: sources) (text ++ source) := by
  obtain ⟨first, rest, rfl, rfl, rfl⟩ := rest
  exact ⟨[], (text, first) :: rest, rfl, rfl, by simp⟩

omit [DecidableEq Path] in
theorem interleaves_placed {segments : List Segment} {placements : List Placed}
    (each : List.Forall₂ (PlacedAs host roots none) segments placements) :
    Interleaves (placements.flatMap Placed.pieces)
      ((placements.flatMap Placed.attachments).map MarkdownImageAttachmentPlan.source)
      (segments.flatMap Segment.text) := by
  induction each with
  | nil => exact ⟨[], [], rfl, rfl, rfl⟩
  | @cons segment placed segments placements head _ ih =>
    simp only [List.flatMap_cons, List.map_append]
    cases segment with
    | literal text | plain text =>
      cases head
      exact ih.text text
    | candidate isLink found =>
      cases head with
      | copied attachments pieces =>
        rw [attachments, pieces rfl]
        exact ih.text found.source
      | attached attachment attachments source pieces =>
        rw [attachments, pieces rfl, List.map_singleton, source]
        exact ih.attachment found.source

end Placing

theorem rebatch_map {α : Type} (f : MarkdownImageAttachmentPlan → α)
    (unnumbered : ∀ item batchIndex batchSize, f { item with batchIndex, batchSize } = f item)
    (attachments : List MarkdownImageAttachmentPlan) :
    (rebatch attachments).flatten.map f = attachments.map f := by
  have batches (count : Nat) : ((List.range count).map fun index =>
      ((attachments.drop (10 * index)).take 10).map f).flatten =
        (attachments.take (10 * count)).map f := by
    induction count with
    | zero => rfl
    | succ count ih =>
      rw [List.range_succ, List.map_append, List.flatten_append, ih, Nat.mul_succ, List.take_add]
      simp
  have all : attachments.length ≤ 10 * ((attachments.length + 9) / 10) := by omega
  rw [← List.take_of_length_le all, ← batches, rebatch, List.map_flatten, List.map_map]
  simp only [Function.comp_def, List.map_map, unnumbered, List.take_of_length_le all]

/-- A segment and what it adds: text stays as it is, and only a candidate is attached. -/
def Keeps : Segment → Text × List Text → Prop
  | .literal text, added | .plain text, added => added = (text, [])
  | .candidate _ found, added => added.2 = [] ∨ added.2 = [found.source]

/-- A lossless and confined extraction: the source is the content with the attached images put
back, if no path is trusted; every attachment resolves inside an allowed root, to a trusted path
if there are any; and literal text is copied where it stands. -/
structure Extracts {Path : Type} [DecidableEq Path] (library : Library) (host : Host Path)
    (source : Text) (allowedRoots : List Text) (trustedPaths : Option (List Text))
    (plan : MarkdownImageExtractionPlan) : Prop where
  lossless : trustedPaths = none →
    Interleaves plan.content (plan.attachments.map MarkdownImageAttachmentPlan.source) source
  confined : ∀ attachment ∈ plan.attachments,
    let roots := allowedRoots.map fun root => host.resolve (host.path root)
    Inside host roots (trustedPaths.map fun values =>
      values.flatMap fun value => trustedPathCandidates host roots (host.path value))
      attachment.resolvedPath
  literal : ∃ added, List.Forall₂ Keeps (segmentsOf library source) added ∧
    plan.content = added.flatMap Prod.fst ∧
    plan.attachments.map MarkdownImageAttachmentPlan.source = added.flatMap Prod.snd

section Law

variable {Path : Type} {host : Host Path} {roots : List Path}
  {trusted : Option (List Path)} {segments : List Segment} {placements : List Placed}

theorem inside_placed (each : List.Forall₂ (PlacedAs host roots trusted) segments placements) :
    ∀ attachment ∈ placements.flatMap Placed.attachments,
      Inside host roots trusted attachment.resolvedPath := by
  induction each with
  | nil => exact fun _ member => (List.not_mem_nil member).elim
  | @cons segment placed segments placements head _ ih =>
    intro attachment member
    rcases List.mem_append.mp member with here | later
    · cases segment with
      | literal | plain =>
        cases head
        cases here
      | candidate isLink found =>
        cases head with
        | copied attachments =>
          rw [attachments] at here
          cases here
        | attached one attachments source pieces inside =>
          rw [attachments] at here
          rw [List.mem_singleton.mp here]
          exact inside
    · exact ih attachment later

theorem keeps_placed (each : List.Forall₂ (PlacedAs host roots trusted) segments placements) :
    List.Forall₂ Keeps segments (placements.map fun placed =>
      (placed.pieces, placed.attachments.map MarkdownImageAttachmentPlan.source)) := by
  rw [List.forall₂_map_right_iff]
  refine each.imp fun segment placed head => ?_
  cases segment with
  | literal | plain =>
    cases head
    rfl
  | candidate isLink found =>
    cases head with
    | copied attachments => exact .inl (by rw [attachments]; rfl)
    | attached one attachments source =>
      refine .inr ?_
      rw [attachments, List.map_singleton, source]

end Law

/-- For every source, host, roots and trusted paths: the extraction returns and is lossless and
confined if and only if `urlsplit` reads the URL of every scanned candidate that has one. -/
theorem extraction_lossless_iff {Path : Type} [DecidableEq Path] (library : Library)
    (host : Host Path) (urls : Urls) (source : Text) (allowedRoots : List Text)
    (trustedPaths : Option (List Text)) :
    (∃ plan,
      extractLocalMarkdownImages library host urls source allowedRoots trustedPaths = .ok plan ∧
        Extracts library host source allowedRoots trustedPaths plan) ↔
      ∀ target ∈ targets (segmentsOf library source), Reads urls target := by
  have lines (roots : List Path) (trusted : Option (List Path)) :
      extractLines host urls roots trusted library 1 {} (linesWithEnds source) =
        placeAll host urls roots trusted (segmentsOf library source) := extractLines_eq ..
  have returns := @placeAll_isOk_iff Path _ host urls
    (allowedRoots.map fun root => host.resolve (host.path root))
    (trustedPaths.map fun values => values.flatMap fun value => trustedPathCandidates host
      (allowedRoots.map fun root => host.resolve (host.path root)) (host.path value))
    (segmentsOf library source)
  rw [← returns]
  unfold extractLocalMarkdownImages
  dsimp only
  rw [lines]
  cases placed : placeAll host urls (allowedRoots.map fun root => host.resolve (host.path root))
      (trustedPaths.map fun values => values.flatMap fun value => trustedPathCandidates host
        (allowedRoots.map fun root => host.resolve (host.path root)) (host.path value))
      (segmentsOf library source) with
  | error message =>
    constructor
    · rintro ⟨plan, done, -⟩
      cases done
    · rintro ⟨_, done⟩
      cases done
  | ok all =>
    refine ⟨fun _ => ⟨all, rfl⟩, fun _ => ⟨_, rfl, ?_⟩⟩
    obtain ⟨placements, each, pieces, attachments⟩ := placeAll_placed placed
    have sources : (rebatch all.attachments).flatten.map MarkdownImageAttachmentPlan.source =
        all.attachments.map MarkdownImageAttachmentPlan.source := rebatch_map _ (fun _ _ _ => rfl) _
    refine ⟨?_, ?_, ?_⟩
    · rintro rfl
      have whole := interleaves_placed each
      rw [segmentsOf_text, ← pieces, ← attachments] at whole
      rw [sources]
      exact whole
    · intro attachment member
      have written := List.mem_map_of_mem (f := MarkdownImageAttachmentPlan.resolvedPath) member
      rw [rebatch_map _ (fun _ _ _ => rfl), attachments] at written
      obtain ⟨original, inAll, same⟩ := List.mem_map.mp written
      rw [← same]
      exact inside_placed each original inAll
    · refine ⟨_, keeps_placed each, ?_, ?_⟩
      · rw [List.flatMap_map]
        exact pieces
      · rw [sources, attachments, List.map_flatMap, List.flatMap_map]

/-! ## An unread URL -/

/-- A host whose paths are texts in their normal form, and whose files are all images. -/
def plainHost : Host Text where
  path := id
  isAbsolute path := ['/'] <+: path
  join root path := root ++ '/' :: path
  resolve := id
  relativeTo path root := root ++ ['/'] <+: path
  str := id
  name path := path.rtakeWhile (· ≠ '/')
  suffix path := '.' :: path.rtakeWhile (· ≠ '.')
  isFile _ := true
  verifies _ := true

def plainLibrary : Library := { isDecimal := Char.isDigit, sha256 := id }

def plainUrls : Urls := { acceptsNetloc := fun _ => true, unquote := id }

example : (extractLocalMarkdownImages plainLibrary plainHost plainUrls
    "a ![x](/w/p.png) `![y](/w/p.png)`".toList ["/w".toList] none).toOption.map
      (fun plan => (plan.content, plan.attachments.map (·.filename))) =
    some ("a  `![y](/w/p.png)`".toList, ["p.png".toList]) := by decide +kernel

/-- A link whose URL opens a bracket in its netloc: `urlsplit` raises. -/
theorem open_bracket_raises :
    ¬ ∃ plan, extractLocalMarkdownImages plainLibrary plainHost plainUrls "[see](http://[x)".toList
        ["/w".toList] none = .ok plan ∧
      Extracts plainLibrary plainHost "[see](http://[x)".toList ["/w".toList] none plan := by
  have raises :
    (extractLocalMarkdownImages plainLibrary plainHost plainUrls "[see](http://[x)".toList
      ["/w".toList] none).isOk = false := by
    decide +kernel
  rintro ⟨plan, done, -⟩
  rw [done] at raises
  cases raises

end Copilotd.Guarantees.ImageExtraction
