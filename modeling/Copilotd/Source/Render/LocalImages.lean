import Copilotd.Source.Render.Markdown

/-!
# `render/markdown.py`: local images

`extract_local_markdown_images` with the scanners, the container paths and the parser of
image targets that it calls.  The scanners read a line from the current character on; the
characters that a round has already taken are skipped.  `Placed` is what a round adds to
`pieces`, `warnings` and `attachments`.  Paths and image files belong to the host.
-/
namespace Copilotd.Source.Render.LocalImages
open Base.PlainText Source.Render.Markdown

/-- `pathlib` and Pillow: `suffix` is in lower case, `relativeTo` tells that `relative_to`
does not raise, and `verifies` that the image opens and verifies.  A `resolve` or `is_file` that
raises is outside the model. -/
structure Host (Path : Type) where
  path : Text → Path
  isAbsolute : Path → Bool
  join : Path → Path → Path
  resolve : Path → Path
  relativeTo : Path → Path → Bool
  str : Path → Text
  name : Path → Text
  suffix : Path → Text
  isFile : Path → Bool
  verifies : Path → Bool

/-- `urllib.parse`: the checks of a netloc whose brackets are paired, and `unquote`. -/
structure Urls where
  acceptsNetloc : Text → Bool
  unquote : Text → Text

structure MarkdownImageWarning where
  kind : String
  message : String
  source : Text

structure MarkdownImageAttachmentPlan where
  source : Text
  path : Text
  resolvedPath : Text
  altText : Text
  title : Option Text
  filename : Text
  batchIndex : Nat := 1
  batchSize : Nat := 1

structure MarkdownImageExtractionPlan where
  content : Text
  attachments : List MarkdownImageAttachmentPlan
  batches : List (List MarkdownImageAttachmentPlan)
  warnings : List MarkdownImageWarning

/-! ## Containers -/

inductive ContainerKind where
  | quote
  | list
  deriving DecidableEq

structure ContainerToken where
  kind : ContainerKind
  indent : Nat := 0
  markerId : Nat := 0
  deriving DecidableEq

structure LiteralContext where
  containerPath : List ContainerToken
  fenceChar : Char
  fenceLen : Nat

def stripOneBlockquote (text : Text) : Option Text :=
  if 3 < (text.takeWhile (· = ' ')).length then none
  else
    match text.dropWhile (· = ' ') with
    | '>' :: c :: rest => if isBlank c then some rest else some (c :: rest)
    | ['>'] => some []
    | _ => none

/-- `_remove_indent`, with `consumed` columns gone. -/
def removeIndent (width : Nat) : (consumed : Nat) → Text → Option Text
  | consumed, [] => if consumed < width then none else some []
  | consumed, c :: rest =>
    if consumed < width ∧ isBlank c then
      removeIndent width (if c = '\t' then consumed + (4 - consumed % 4) else consumed + 1) rest
    else if consumed < width then none
    else some (c :: rest)

def consumeContainerPath : Text → List ContainerToken → Option Text
  | content, [] => some content
  | content, token :: path =>
    if Blank content then some []
    else
      (match token.kind with
        | .quote => stripOneBlockquote content
        | .list => removeIndent token.indent 0 content).bind
          fun content => consumeContainerPath content path

/-- The longest part of the path, of `size` tokens at most, that the text goes on with. -/
def consumeLongest (text : Text) (path : List ContainerToken) :
    (size : Nat) → List ContainerToken × Text
  | 0 => ([], text)
  | size + 1 =>
    match consumeContainerPath text (path.take (size + 1)) with
    | some content => (path.take (size + 1), content)
    | none => consumeLongest text path size

/-- The `while` loop of `_document_container_content`; every round but the last takes a
character at least. -/
def openContainers (library : Library) (markerId : Nat) :
    (rounds : Nat) → List ContainerToken → Text → List ContainerToken × Text
  | 0, path, content => (path, content)
  | rounds + 1, path, content =>
    match stripOneBlockquote content with
    | some quoted => openContainers library markerId rounds (path ++ [{ kind := .quote }]) quoted
    | none =>
      match listItem library content with
      | none => (path, content)
      | some (_, _, body) =>
        openContainers library markerId rounds
          (path ++ [{
            kind := .list
            indent := indentWidth (content.take (content.length - body.length))
            markerId }])
          body

def activeListPrefix (path : List ContainerToken) : List ContainerToken :=
  path.rdropWhile fun token => token.kind ≠ .list

def documentContainerContent (library : Library) (text : Text)
    (activeListPath : List ContainerToken)
    (markerId : Nat) : List ContainerToken × Text × List ContainerToken :=
  let (path, content) := consumeLongest text activeListPath activeListPath.length
  let (path, content) := openContainers library markerId (content.length + 1) path content
  (path, content, activeListPrefix path)

def parseFenceMarker (text : Text) : Option (Char × Nat) :=
  if 3 < indentWidth (text.takeWhile isBlank) then none
  else (fenceOpening text).map fun (fence, _) => (fence.head?.getD '`', fence.length)

def isFenceCloser (text : Text) (fenceChar : Char) (fenceLen : Nat) : Bool :=
  closesFence fenceChar fenceLen text ∧ indentWidth (text.takeWhile isBlank) ≤ 3

/-! ## Image targets -/

inductive ShlexState where
  | space
  | word
  | quote (character : Char)
  | escape (inside : Option Char)

/-- `shlex.split` from a state on; `none` is its `ValueError`. -/
def shlexWords : Text → ShlexState → (token : Text) → (quoted : Bool) → Option (List Text)
  | [], .space, _, _ => some []
  | [], .word, token, quoted => some (if token ≠ [] ∨ quoted then [token] else [])
  | [], .quote _, _, _ | [], .escape _, _, _ => none
  | c :: rest, .space, _, _ =>
    if c ∈ [' ', '\t', '\r', '\n'] then shlexWords rest .space [] false
    else if c = '\\' then shlexWords rest (.escape none) [] false
    else if c ∈ ['\'', '"'] then shlexWords rest (.quote c) [] false
    else shlexWords rest .word [c] false
  | c :: rest, .word, token, quoted =>
    if c ∈ [' ', '\t', '\r', '\n'] then
      if token ≠ [] ∨ quoted then (shlexWords rest .space [] false).map (token :: ·)
      else shlexWords rest .space [] false
    else if c ∈ ['\'', '"'] then shlexWords rest (.quote c) token quoted
    else if c = '\\' then shlexWords rest (.escape none) token quoted
    else shlexWords rest .word (token ++ [c]) quoted
  | c :: rest, .quote character, token, _ =>
    if c = character then shlexWords rest .word token true
    else if c = '\\' ∧ character = '"' then shlexWords rest (.escape (some character)) token true
    else shlexWords rest (.quote character) (token ++ [c]) true
  | c :: rest, .escape none, token, quoted => shlexWords rest .word (token ++ [c]) quoted
  | c :: rest, .escape (some character), token, quoted =>
    -- within quotes only the quote and the backslash are escaped
    shlexWords rest (.quote character)
      (if c ≠ '\\' ∧ c ≠ character then token ++ ['\\', c] else token ++ [c]) quoted

def shlexSplit (text : Text) : Option (List Text) := shlexWords text .space [] false

def isSchemeCharacter (c : Char) : Bool := c.isAlphanum ∨ c ∈ ['+', '-', '.']

/-- `re.match(r"^[a-zA-Z][a-zA-Z0-9+.-]*:", path)` -/
def isUrl (path : Text) : Bool :=
  path.head?.any Char.isAlpha ∧ (path.dropWhile isSchemeCharacter).head? = some ':'

structure SplitUrl where
  scheme : Text
  netloc : Text
  path : Text

/-- `urlsplit`; `none` is its `ValueError`. -/
def urlsplit (urls : Urls) (url : Text) : Option SplitUrl :=
  let url := (url.dropWhile fun c => c.toNat ≤ 32).filter (· ∉ ['\t', '\r', '\n'])
  let front := url.takeWhile (· ≠ ':')
  let (scheme, url) :=
    match url.drop front.length with
    | _ :: rest =>
      if front.head?.any Char.isAlpha ∧ front.all isSchemeCharacter then
        (front.map Char.toLower, rest)
      else ([], url)
    | [] => ([], url)
  let (netloc, url) :=
    match url with
    | '/' :: '/' :: rest =>
      (rest.takeWhile (· ∉ ['/', '?', '#']), rest.dropWhile (· ∉ ['/', '?', '#']))
    | _ => ([], url)
  if (netloc.contains '[') ≠ (netloc.contains ']') ∨ ¬ urls.acceptsNetloc netloc then none
  else some { scheme, netloc, path := (url.takeWhile (· ≠ '#')).takeWhile (· ≠ '?') }

/-- `target.strip()` without the angle brackets around it. -/
def unwrapTarget (target : Text) : Text :=
  if ['<'] <+: strip target ∧ ['>'] <:+ strip target then strip (strip target).tail.dropLast
  else strip target

/-- `_parse_markdown_image_target`: the path and the title.  The `ValueError` of `urlsplit` is
not caught. -/
def parseMarkdownImageTarget {Path : Type} (host : Host Path) (urls : Urls) (target : Text) :
    Except String (Option Text × Option Text) :=
  match shlexSplit (unwrapTarget target) with
  | none | some [] => .ok (none, none)
  | some (path :: words) =>
    let title := if words = [] then none else some ([' '].intercalate words)
    if isUrl path then
      match urlsplit urls path with
      | none => .error "ValueError"
      | some parsed =>
        let scheme := String.ofList parsed.scheme
        let place :=
          if scheme = "file" ∧ (parsed.netloc = [] ∨ parsed.netloc = "localhost".toList) then
            some (urls.unquote parsed.path)
          else if scheme = "sandbox" ∧ parsed.netloc = [] then some (urls.unquote parsed.path)
          else if scheme = "attachment" ∧ parsed.netloc ≠ [] then
            some (urls.unquote (parsed.netloc ++ parsed.path))
          else none
        match place with
        | none => .ok (none, none)
        | some path =>
          if (scheme = "file" ∨ scheme = "sandbox") ∧ ¬ host.isAbsolute (host.path path) then
            .ok (none, none)
          else .ok (some path, title)
    else .ok (some path, title)

/-! ## Candidates -/

structure Candidate where
  source : Text
  altText : Text
  target : Text

/-- `_find_matching_markdown_bracket`, counted from the current character. -/
def findBracket : Text → (depth : Nat) → (escaped : Bool) → Option Nat
  | [], _, _ => none
  | c :: rest, depth, escaped =>
    if escaped then (findBracket rest depth false).map (· + 1)
    else if c = '\\' then (findBracket rest depth true).map (· + 1)
    else if c = '[' then (findBracket rest (depth + 1) false).map (· + 1)
    else if c = ']' then
      if depth = 0 then some 0 else (findBracket rest (depth - 1) false).map (· + 1)
    else (findBracket rest depth false).map (· + 1)

/-- `_find_matching_markdown_paren`, counted from the current character. -/
def findParen : Text → (depth : Nat) → (quote : Option Char) → (escaped : Bool) → Option Nat
  | [], _, _, _ => none
  | c :: rest, depth, quote, escaped =>
    if escaped then (findParen rest depth quote false).map (· + 1)
    else if c = '\\' then (findParen rest depth quote true).map (· + 1)
    else
      match quote with
      | some character =>
        (findParen rest depth (if c = character then none else quote) false).map (· + 1)
      | none =>
        if c ∈ ['"', '\''] then (findParen rest depth (some c) false).map (· + 1)
        else if c = '(' then (findParen rest (depth + 1) none false).map (· + 1)
        else if c = ')' then
          if depth = 1 then some 0 else (findParen rest (depth - 1) none false).map (· + 1)
        else (findParen rest depth none false).map (· + 1)

/-- `_scan_markdown_image_candidate` and `_scan_markdown_link_candidate`, whose openings are
`![` and `[`. -/
def scanCandidate (opening : Nat) (text : Text) : Option Candidate :=
  (findBracket (text.drop opening) 0 false).bind fun altLength =>
    match text.drop (opening + altLength + 1) with
    | '(' :: inside =>
      (findParen inside 1 none false).map fun targetLength => {
        source := text.take (opening + altLength + targetLength + 3)
        altText := (text.drop opening).take altLength
        target := inside.take targetLength }
    | _ => none

/-- The candidate that starts at the current character, and whether it is a link. -/
def candidateAt (previous : Option Char) (text : Text) : Option (Bool × Candidate) :=
  if ['!', '['] <+: text then (scanCandidate 2 text).map (false, ·)
  else if ['['] <+: text ∧ previous ≠ some '!' then (scanCandidate 1 text).map (true, ·)
  else none

/-! ## Placing -/

/-- What is added to `pieces`, `warnings` and `attachments`. -/
structure Placed where
  pieces : Text := []
  warnings : List MarkdownImageWarning := []
  attachments : List MarkdownImageAttachmentPlan := []

def Placed.append (first second : Placed) : Placed where
  pieces := first.pieces ++ second.pieces
  warnings := first.warnings ++ second.warnings
  attachments := first.attachments ++ second.attachments

def supportedImageSuffixes : List Text :=
  [".png", ".jpg", ".jpeg", ".gif", ".webp", ".bmp", ".tiff"].map String.toList

def localImageCaption (altText : Text) : Text :=
  if strip altText = [] then "**Image attachment**".toList
  else "**Image:** ".toList ++ strip altText

section Files

variable {Path : Type} [DecidableEq Path] (host : Host Path) (urls : Urls) (roots : List Path)
  (trusted : Option (List Path))

/-- `_resolve_markdown_image_path`; `none` is its only warning, `invalid-root`. -/
def resolveMarkdownImagePath (path : Text) : Option Path :=
  let candidate := host.path path
  if host.isAbsolute candidate then
    let resolved := host.resolve candidate
    if roots.any (host.relativeTo resolved) then some resolved else none
  else
    roots.findSome? fun root =>
      let resolved := host.resolve (host.join root candidate)
      if host.relativeTo resolved root then some resolved else none

def trustedPathCandidates (path : Path) : List Path :=
  if host.isAbsolute path then
    if roots.any (host.relativeTo (host.resolve path)) then [host.resolve path] else []
  else
    roots.filterMap fun root =>
      let resolved := host.resolve (host.join root path)
      if host.relativeTo resolved root then some resolved else none

def isSupportedImage (path : Path) : Bool :=
  host.suffix path ∈ supportedImageSuffixes ∧ host.verifies path

/-- A candidate that is not attached, with a warning. -/
def refuse (candidate : Candidate) (kind message : String) : Placed where
  pieces := if trusted.isSome then localImageCaption candidate.altText else candidate.source
  warnings := [{ kind, message, source := candidate.source }]

/-- The part of `_extract_images_from_line` behind a scanned candidate. -/
def placeCandidate (isLink : Bool) (candidate : Candidate) : Except String Placed :=
  (parseMarkdownImageTarget host urls candidate.target).map fun (path, title) =>
    match path with
    | none =>
      if isLink then { pieces := candidate.source }
      else refuse trusted candidate "invalid-target" "image target could not be parsed"
    | some path =>
      match resolveMarkdownImagePath host roots path with
      | none => refuse trusted candidate "invalid-root" "image path is outside allowed roots"
      | some resolved =>
        if trusted.any (resolved ∉ ·) then
          refuse trusted candidate "untrusted-image"
            "local image path lacks verified host provenance"
        else if host.suffix (host.path path) ∉ supportedImageSuffixes then
          if isLink then { pieces := candidate.source }
          else refuse trusted candidate "unsupported-image"
            "local Markdown image uses an unsupported file type"
        else if ¬ host.isFile resolved then
          refuse trusted candidate "missing-image" "image path does not point to a file"
        else if ¬ isSupportedImage host resolved then
          refuse trusted candidate "unsupported-image"
            "local Markdown image is not a verified image file"
        else {
          pieces := if trusted.isSome then localImageCaption candidate.altText else []
          attachments := [{
            source := candidate.source
            path
            resolvedPath := host.str resolved
            altText := candidate.altText
            title
            filename := host.name resolved }] }

/-! ## Lines -/

/-- `_extract_images_from_line`, with the delimiter of the inline code at its end. -/
def extractImagesFromLine :
    (delim : Option Nat) → (previous : Option Char) → Text → (skip : Nat) →
      Except String (Placed × Option Nat)
  | delim, _, [], _ => .ok ({}, delim)
  | delim, _, c :: rest, skip + 1 => extractImagesFromLine delim (some c) rest skip
  | delim, previous, c :: rest, 0 =>
    if c = '\\' then do
      let (placed, last) ← extractImagesFromLine delim (some c) rest 1
      return (Placed.append { pieces := c :: rest.take 1 } placed, last)
    else if c = '`' then do
      let run := 1 + (rest.takeWhile (· = '`')).length
      let next := if delim = none then some run else if delim = some run then none else delim
      let (placed, last) ← extractImagesFromLine next (some c) rest (run - 1)
      return (Placed.append { pieces := List.replicate run '`' } placed, last)
    else
      match if delim = none then candidateAt previous (c :: rest) else none with
      | some (isLink, candidate) => do
        let here ← placeCandidate host urls roots trusted isLink candidate
        let (placed, last) ←
          extractImagesFromLine delim (some c) rest (candidate.source.length - 1)
        return (here.append placed, last)
      | none => do
        let (placed, last) ← extractImagesFromLine delim (some c) rest 0
        return (Placed.append { pieces := [c] } placed, last)

/-- What the loop over the lines carries. -/
structure Carried where
  activeFence : Option LiteralContext := none
  activeIndentedCode : Option (List ContainerToken) := none
  activeListPath : List ContainerToken := []
  inlineCodeDelim : Option Nat := none
  inlineContainerPath : Option (List ContainerToken) := none

/-- A line that goes on with the active fence, or ends it. -/
def Carried.continueFence (carried : Carried) (text : Text) : Option Carried :=
  carried.activeFence.bind fun context =>
    (consumeContainerPath text context.containerPath).map fun content =>
      if isFenceCloser content context.fenceChar context.fenceLen then
        { carried with activeFence := none }
      else carried

def Carried.continueIndentedCode (carried : Carried) (text : Text) : Option Carried :=
  carried.activeIndentedCode.bind fun path =>
    (consumeContainerPath text path).bind fun content =>
      if Blank content ∨ 4 ≤ indentWidth (content.takeWhile isBlank) then some carried else none

/-- The rest of the round up to the scan of the line: a line that starts a fence or indented
code is copied, any other is scanned in its container. -/
def Carried.startLine (carried : Carried) (library : Library) (lineNumber : Nat) (text : Text) :
    Carried × Option (List ContainerToken) :=
  let (path, content, listPath) :=
    documentContainerContent library text carried.activeListPath lineNumber
  let listed := { carried with activeListPath := listPath }
  let open_ :=
    if listed.inlineCodeDelim ≠ none ∧ (Blank text ∨ some path ≠ listed.inlineContainerPath) then
      { listed with inlineCodeDelim := none, inlineContainerPath := none }
    else listed
  if open_.inlineCodeDelim = none then
    if 4 ≤ indentWidth (content.takeWhile isBlank) then
      ({ open_ with activeIndentedCode := some path }, none)
    else
      match parseFenceMarker content with
      | some (fenceChar, fenceLen) =>
        ({ open_ with activeFence := some ⟨path, fenceChar, fenceLen⟩ }, none)
      | none => (open_, some path)
  else (open_, some path)

/-- One round of the loop up to the scan: the container that the line is scanned in, if it is. -/
def Carried.readLine (carried : Carried) (library : Library) (lineNumber : Nat) (text : Text) :
    Carried × Option (List ContainerToken) :=
  match carried.continueFence text with
  | some next => (next, none)
  | none =>
    let outside := { carried with activeFence := none }
    match outside.continueIndentedCode text with
    | some next => (next, none)
    | none => { outside with activeIndentedCode := none }.startLine library lineNumber text

/-- The round behind the scan. -/
def Carried.scanned (carried : Carried) (path : List ContainerToken) (delim : Option Nat) :
    Carried :=
  { carried with
    inlineCodeDelim := delim
    inlineContainerPath :=
      if carried.inlineCodeDelim = none ∧ delim ≠ none then some path
      else if delim = none then none
      else carried.inlineContainerPath }

def splitLineEnding (line : Text) : Text × Text :=
  let text := line.rdropWhile fun c => c = '\r' ∨ c = '\n'
  (text, line.drop text.length)

def extractLines (library : Library) :
    (lineNumber : Nat) → Carried → List Text → Except String Placed
  | _, _, [] => .ok {}
  | lineNumber, carried, line :: rest =>
    match carried.readLine library lineNumber (splitLineEnding line).1 with
    | (next, none) => do
      let placed ← extractLines library (lineNumber + 1) next rest
      return Placed.append { pieces := line } placed
    | (next, some path) => do
      let (here, delim) ← extractImagesFromLine host urls roots trusted next.inlineCodeDelim none
        (splitLineEnding line).1 0
      let placed ← extractLines library (lineNumber + 1) (next.scanned path delim) rest
      return (here.append { pieces := (splitLineEnding line).2 }).append placed

end Files

/-- The batches of ten, numbered. -/
def rebatch (attachments : List MarkdownImageAttachmentPlan) :
    List (List MarkdownImageAttachmentPlan) :=
  (List.range ((attachments.length + 9) / 10)).map fun index =>
    let batch := (attachments.drop (10 * index)).take 10
    batch.map fun item => { item with batchIndex := index + 1, batchSize := batch.length }

def extractLocalMarkdownImages {Path : Type} [DecidableEq Path] (library : Library)
    (host : Host Path) (urls : Urls) (source : Text) (allowedRoots : List Text)
    (trustedPaths : Option (List Text)) : Except String MarkdownImageExtractionPlan := do
  let roots := allowedRoots.map fun root => host.resolve (host.path root)
  let trusted := trustedPaths.map fun values =>
    values.flatMap fun value => trustedPathCandidates host roots (host.path value)
  let placed ← extractLines host urls roots trusted library 1 {} (linesWithEnds source)
  let batches := rebatch placed.attachments
  return {
    content := placed.pieces
    attachments := batches.flatten
    batches
    warnings := placed.warnings }

end Copilotd.Source.Render.LocalImages
