import Mathlib.Algebra.BigOperators.Fin
import Copilotd.Base.Savings
import Copilotd.Source.Core.AttachmentFrames

/-!
# The downgrade of attachments

The content of a frame is a sum: every item contributes its own text, so turning a blob into a file
saves the same number of content bytes whatever the other items are (none at all if the trace
context brings its own attachments).  The header grows with the number of digits of the content
length, so the whole frame is measured in the same order as its content.  The loop therefore chooses
greedily, and a greedy choice of `k` blobs is as small as any choice of at most `k`.
-/
namespace Copilotd.Guarantees.AttachmentDowngrade

open Base Base.Savings Source.Core.AttachmentFrames

variable (readBytes : String → List UInt8) (items : List StoredItem) (send : Send)

/-- Every item in its order, as a file or, if it is a blob, inline. -/
def Choice (values : List SdkAttachment) : Prop :=
  List.Forall₂ (fun item value => value = loadFileAttachment item ∨
    item.sdkAttachmentKind = "blob" ∧ loadInlineBlob readBytes item = .ok value) items values

/-- The number of blobs that are sent as files. -/
def downgraded (values : List SdkAttachment) : Nat :=
  items.countP (fun item => item.sdkAttachmentKind = "blob") - values.countP SdkAttachment.isBlob

def Fits (budget : Int) (values : List SdkAttachment) : Prop :=
  sdkSendFrameSize send (some values) ≤ budget

/-! ## The frame -/

theorem size_digits (digits : List Char) (all : ∀ char ∈ digits, char.isDigit = true) :
    (String.ofList digits).utf8ByteSize = digits.length := by
  induction digits with
  | nil => rfl
  | cons char digits ih =>
    have one : char.utf8Size = 1 := by
      have digit := all char (List.mem_cons_self ..)
      simp only [Char.isDigit, Bool.and_eq_true, decide_eq_true_eq] at digit
      unfold Char.utf8Size
      rw [if_pos]
      exact UInt32.le_trans digit.2 (by decide)
    rw [String.ofList_cons, String.utf8ByteSize_append, String.utf8ByteSize_singleton, one,
      ih fun other member => all other (List.mem_cons_of_mem _ member), List.length_cons,
      Nat.add_comm]

variable {less more : Nat}

theorem size_toString_le (le : less ≤ more) :
    (toString less).utf8ByteSize ≤ (toString more).utf8ByteSize := by
  have digits (n : Nat) : (toString n).utf8ByteSize = (Nat.toDigits 10 n).length := by
    rw [Nat.toString_eq_ofList_toDigits]
    exact size_digits _ fun _ member => Nat.isDigit_of_mem_toDigits (by decide) (by decide) member
  have bound := (Nat.length_toDigits_le_iff (b := 10) (n := more) (by decide)
    Nat.length_toDigits_pos).mp (le_refl _)
  rw [digits, digits, Nat.length_toDigits_le_iff (by decide) Nat.length_toDigits_pos]
  exact le.trans_lt bound

theorem framed_lt (smaller : less < more) : framed less < framed more := by
  have header := size_toString_le smaller.le
  unfold framed
  simp only [String.utf8ByteSize_append]
  omega

theorem framed_le_iff : framed less ≤ framed more ↔ less ≤ more := by
  constructor
  · intro framedLe
    by_contra larger
    exact absurd (framed_lt (not_le.mp larger)) (not_lt.mpr framedLe)
  · intro le
    rcases le.lt_or_eq with smaller | rfl
    · exact (framed_lt smaller).le
    · exact le_refl _

/-- The attachments are one item of the parameters, unless the trace context replaces them. -/
theorem sendParams_slotted :
    Dict.Slotted "attachments" fun value => sendParams send (some value) := by
  have base : Dict.Slotted "attachments" fun value => Dict.set "attachments" value
      [("sessionId", Json.str send.sessionId), ("prompt", .str send.prompt)] :=
    Dict.slotted_new (by simp)
  have texts (key : String) (text : Option String) {dicts : Json → List (String × Json)}
      (slotted : Dict.Slotted "attachments" dicts) :
      Dict.Slotted "attachments" fun value => setText key text (dicts value) := by
    cases text with
    | none => exact slotted
    | some text => exact slotted.set key _
  exact (texts "agentMode" send.agentMode (texts "mode" send.mode base)).update _

/-- The attachments contribute their own size to the content, or nothing. -/
theorem sendMessage_size :
    ∃ rest, (∀ value, (sendMessage send (some value)).size = rest + value.size) ∨
      ∀ value, (sendMessage send (some value)).size = rest := by
  obtain ⟨outer, message⟩ := Json.size_dict_item [("jsonrpc", .str "2.0"),
    ("id", .str "00000000-0000-0000-0000-000000000000"), ("method", .str "session.send")]
      [] "params"
  have message' (value : Json) : (sendMessage send (some value)).size =
      outer + (Json.dict (sendParams send (some value))).size := message _
  rcases sendParams_slotted send with ⟨before, after, shape⟩ | ⟨fixed, shape⟩
  all_goals dsimp only at shape
  · obtain ⟨inner, params⟩ := Json.size_dict_item before after "attachments"
    refine ⟨outer + inner, .inl ?_⟩
    intro value
    rw [message', shape, params, Nat.add_assoc]
  · refine ⟨outer + (Json.dict fixed).size, .inr ?_⟩
    intro value
    rw [message', shape]

/-! ## Choices as sets of blobs -/

variable {item : StoredItem}

theorem loadInlineBlob_ok (blob : item.sdkAttachmentKind = "blob") :
    ∃ value, loadInlineBlob readBytes item = .ok value ∧ value.isBlob = true := by
  obtain ⟨path, found⟩ := Option.isSome_iff_exists.mp (item.inline_of_blob blob)
  unfold loadInlineBlob
  rw [found]
  exact ⟨_, rfl, rfl⟩

def form (item : StoredItem) (asFile : Bool) : SdkAttachment :=
  if asFile then loadFileAttachment item
  else
    match loadInlineBlob readBytes item with
    | .ok value => value
    | .error _ => loadFileAttachment item

def blobs : Finset (Fin items.length) :=
  Finset.univ.filter fun i => items[i].sdkAttachmentKind = "blob"

/-- The list in which the blobs of the set are files. -/
def arranged (files : Finset (Fin items.length)) : List SdkAttachment :=
  List.ofFn fun i => form readBytes items[i] (i ∈ files ∨ i ∉ blobs items)

variable {readBytes items send}

variable {i : Fin items.length}

theorem mem_blobs :
    i ∈ blobs items ↔ items[i].sdkAttachmentKind = "blob" := by
  simp [blobs]

theorem form_file (item : StoredItem) : form readBytes item true = loadFileAttachment item := rfl

theorem form_inline {value : SdkAttachment} (loaded : loadInlineBlob readBytes item = .ok value) :
    form readBytes item false = value := by
  simp [form, loaded]

theorem arranged_getElem? (files : Finset (Fin items.length)) (i : Fin items.length) :
    (arranged readBytes items files)[(i : Nat)]? =
      some (form readBytes items[i] (i ∈ files ∨ i ∉ blobs items)) := by
  simp [arranged]

variable {files : Finset (Fin items.length)}

theorem form_isBlob :
    (form readBytes items[i] (i ∈ files ∨ i ∉ blobs items)).isBlob = true ↔
      i ∈ blobs items ∧ i ∉ files := by
  by_cases asFile : i ∈ files ∨ i ∉ blobs items
  · rw [decide_eq_true asFile, form_file]
    simp only [loadFileAttachment, SdkAttachment.isBlob, Bool.false_eq_true, false_iff, not_and,
      not_not]
    intro blob
    exact asFile.resolve_right (not_not.mpr blob)
  · rw [decide_eq_false asFile]
    rw [not_or, not_not] at asFile
    obtain ⟨value, loaded, isBlob⟩ := loadInlineBlob_ok readBytes (mem_blobs.mp asFile.2)
    rw [form_inline loaded]
    exact iff_of_true isBlob asFile.symm

theorem downgradable_arranged :
    downgradable items (arranged readBytes items files) i = true ↔ i ∈ blobs items ∧ i ∉ files := by
  simp only [downgradable, decide_eq_true_eq, i.isLt, true_and, arranged_getElem?,
    Option.any_some]
  exact form_isBlob

theorem withFile_arranged :
    withFile items (arranged readBytes items files) i =
      arranged readBytes items (insert i files) := by
  have replaced : withFile items (arranged readBytes items files) i =
      (arranged readBytes items files).set i (loadFileAttachment items[i]) := by
    simp [withFile]
  rw [replaced]
  apply List.ext_getElem
  · simp [arranged]
  · intro index inLeft inRight
    simp only [arranged, List.length_ofFn] at inRight
    by_cases same : (i : Nat) = index
    · subst same
      simp [arranged, form_file]
    · have different : ¬ (⟨index, inRight⟩ : Fin items.length) = i := by
        intro equal
        exact same (congrArg Fin.val equal).symm
      simp [arranged, same, different]

theorem countP_ofFn {α : Type} {n : Nat} (f : Fin n → α) (p : α → Bool) :
    (List.ofFn f).countP p = (Finset.univ.filter fun i => p (f i) = true).card := by
  induction n with
  | zero => simp
  | succ n ih =>
    rw [List.ofFn_succ, List.countP_cons, ih, Fin.card_filter_univ_succ]
    split
    · rfl
    · rfl

theorem downgraded_arranged (within : files ⊆ blobs items) :
    downgraded items (arranged readBytes items files) = files.card := by
  have kinds : items.countP (fun item => item.sdkAttachmentKind = "blob") = (blobs items).card := by
    have listed : List.ofFn (fun i : Fin items.length => items[i]) = items := List.ofFn_getElem ..
    rw [← congrArg (List.countP _) listed, countP_ofFn]
    simp [blobs]
  have inline : (arranged readBytes items files).countP SdkAttachment.isBlob =
      (blobs items \ files).card := by
    rw [arranged, countP_ofFn]
    congr 1
    ext i
    rw [Finset.mem_filter, Finset.mem_sdiff, form_isBlob]
    exact and_iff_right (Finset.mem_univ i)
  have split := Finset.card_sdiff_add_card_eq_card within
  unfold downgraded
  omega

variable (readBytes) in
theorem arranged_choice (files : Finset (Fin items.length)) :
    Choice readBytes items (arranged readBytes items files) := by
  unfold Choice
  rw [List.forall₂_iff_get]
  refine ⟨by simp [arranged], ?_⟩
  intro index inItems inValues
  have value : (arranged readBytes items files).get ⟨index, inValues⟩ =
      form readBytes items[index] (⟨index, inItems⟩ ∈ files ∨ ⟨index, inItems⟩ ∉ blobs items) := by
    simp only [arranged, List.get_ofFn]
    rfl
  rw [value]
  by_cases asFile : (⟨index, inItems⟩ : Fin items.length) ∈ files ∨ ⟨index, inItems⟩ ∉ blobs items
  · rw [decide_eq_true asFile]
    exact .inl rfl
  · rw [decide_eq_false asFile]
    rw [not_or, not_not] at asFile
    have blob := mem_blobs.mp asFile.2
    obtain ⟨value, loaded, _⟩ := loadInlineBlob_ok readBytes blob
    refine .inr ⟨blob, ?_⟩
    exact loaded.trans (congrArg _ (form_inline loaded).symm)

theorem choice_arranged {values : List SdkAttachment} (choice : Choice readBytes items values) :
    ∃ files ⊆ blobs items, values = arranged readBytes items files := by
  obtain ⟨lengths, forms⟩ := List.forall₂_iff_get.mp choice
  have each (i : Fin items.length) : ∃ value, values[(i : Nat)]? = some value ∧
      (value = loadFileAttachment items[i] ∨
        items[i].sdkAttachmentKind = "blob" ∧ loadInlineBlob readBytes items[i] = .ok value) := by
    have inValues : (i : Nat) < values.length := lengths ▸ i.isLt
    exact ⟨values[(i : Nat)], List.getElem?_eq_getElem inValues, forms i i.isLt inValues⟩
  refine ⟨(blobs items).filter fun i => values[(i : Nat)]? = some (loadFileAttachment items[i]),
    Finset.filter_subset _ _, ?_⟩
  apply List.ext_getElem?
  intro index
  rcases lt_or_ge index items.length with inItems | outside
  · obtain ⟨value, found, file | ⟨blob, loaded⟩⟩ := each ⟨index, inItems⟩
    · rw [found, arranged_getElem? _ ⟨index, inItems⟩, decide_eq_true]
      · rw [form_file, file]
      · by_cases blob : (⟨index, inItems⟩ : Fin items.length) ∈ blobs items
        · exact .inl (Finset.mem_filter.mpr ⟨blob, by rw [found, file]⟩)
        · exact .inr blob
    · rw [found, arranged_getElem? _ ⟨index, inItems⟩, decide_eq_false]
      · rw [form_inline loaded]
      · rw [not_or, not_not]
        refine ⟨?_, mem_blobs.mpr blob⟩
        intro asFile
        have file := (Finset.mem_filter.mp asFile).2
        rw [found, Option.some_inj] at file
        obtain ⟨inline, again, isBlob⟩ := loadInlineBlob_ok readBytes blob
        rw [loaded, file] at again
        cases again
        cases isBlob
  · rw [List.getElem?_eq_none (lengths ▸ outside), List.getElem?_eq_none (by simpa [arranged])]

/-! ## The size of a choice -/

variable (readBytes items send) in
theorem content_additive :
    ∃ (content : ℤ) (saving : Fin items.length → ℤ), ∀ files ⊆ blobs items,
      ((sendMessage send (some (.list ((arranged readBytes items files).map
        SdkAttachment.value)))).size : ℤ) = content - ∑ i ∈ files, saving i := by
  let full (i : Fin items.length) : ℤ := (form readBytes items[i] (i ∉ blobs items)).value.size
  let file (i : Fin items.length) : ℤ := (loadFileAttachment items[i]).value.size
  have listed : ∀ files ⊆ blobs items,
      ((Json.list ((arranged readBytes items files).map SdkAttachment.value)).size : ℤ) =
        ∑ i, full i - ∑ i ∈ files, (full i - file i) + ((items.length - 1 : ℕ) + 2) := by
    intro files within
    have each (i : Fin items.length) :
        ((form readBytes items[i] (i ∈ files ∨ i ∉ blobs items)).value.size : ℤ) =
          full i - if i ∈ files then full i - file i else 0 := by
      by_cases chosen : i ∈ files
      · simp [chosen, form_file, file]
      · simp [chosen, full]
    rw [Json.size_list, arranged, List.map_ofFn, List.map_ofFn, List.sum_ofFn, List.length_ofFn]
    push_cast
    simp only [Function.comp_apply, each, Finset.sum_sub_distrib, Finset.sum_ite_mem,
      Finset.univ_inter]
    exact add_assoc _ _ _
  obtain ⟨rest, contributes | fixed⟩ := sendMessage_size send
  · refine ⟨rest + ∑ i, full i + ((items.length - 1 : ℕ) + 2), fun i => full i - file i, ?_⟩
    intro files within
    rw [contributes, Nat.cast_add, listed files within]
    dsimp only
    omega
  · refine ⟨rest, fun _ => 0, ?_⟩
    intro files _
    rw [fixed, Finset.sum_const_zero, sub_zero]

variable (readBytes items send)

def frame (files : Finset (Fin items.length)) : Nat :=
  sdkSendFrameSize send (some (arranged readBytes items files))

variable {readBytes items send}

variable (readBytes items send) in
theorem frame_le_iff :
    ∃ saving : Fin items.length → ℤ, ∀ files ⊆ blobs items, ∀ other ⊆ blobs items,
      (frame readBytes items send files ≤ frame readBytes items send other ↔
        ∑ i ∈ other, saving i ≤ ∑ i ∈ files, saving i) := by
  obtain ⟨content, saving, additive⟩ :=
    content_additive readBytes items send
  refine ⟨saving, ?_⟩
  intro files within other within'
  unfold frame sdkSendFrameSize
  rw [framed_le_iff, ← Int.ofNat_le]
  simp only [Option.map_some]
  rw [additive files within, additive other within']
  omega

/-! ## The loop -/

section
variable {saving : Fin items.length → ℤ} {budget : Int}

/-- The loop's state: a greedy choice such that no choice of fewer blobs fits. -/
structure Chosen (readBytes : String → List UInt8) (send : Send) (saving : Fin items.length → ℤ)
    (budget : Int) (files : Finset (Fin items.length)) : Prop where
  greedy : Greedy saving (blobs items) files
  least : ∀ other ⊆ blobs items, other.card < files.card → budget < frame readBytes items send other

/-- What the loop returns: a least choice that fits, or the smallest of all, which does not. -/
def Settled (readBytes : String → List UInt8) (send : Send) (budget : Int)
    (files : Finset (Fin items.length)) : Prop :=
  files ⊆ blobs items ∧
    ((frame readBytes items send files ≤ budget ∧
        ∀ other ⊆ blobs items, other.card < files.card →
          budget < frame readBytes items send other) ∨
      ∀ other ⊆ blobs items, budget < frame readBytes items send other)

variable (budget) in
theorem downgradeLoop_settled
    (measures : ∀ files ⊆ blobs items, ∀ other ⊆ blobs items,
      (frame readBytes items send files ≤ frame readBytes items send other ↔
        ∑ i ∈ other, saving i ≤ ∑ i ∈ files, saving i))
    (files : Finset (Fin items.length)) (chosen : Chosen readBytes send saving budget files) :
    ∃ last, Settled readBytes send budget last ∧
      downgradeLoop (fun values => sdkSendFrameSize send (some values)) items budget
        (arranged readBytes items files) (frame readBytes items send files) =
          (arranged readBytes items last, frame readBytes items send last) := by
  induction left : (blobs items \ files).card using Nat.strong_induction_on generalizing files with
  | _ count ih =>
  have within := chosen.greedy.subset
  rw [downgradeLoop]
  split
  · next fits => exact ⟨files, ⟨within, .inl ⟨fits, chosen.least⟩⟩, rfl⟩
  · next excess =>
    -- The frame after one more blob has become a file.
    have measured (i : Fin items.length) :
        sdkSendFrameSize send (some (withFile items (arranged readBytes items files) i)) =
          frame readBytes items send (insert i files) := by rw [withFile_arranged, frame]
    have inserted {i : Fin items.length} (out : i ∉ files) :
        ∑ j ∈ insert i files, saving j = saving i + ∑ j ∈ files, saving j := Finset.sum_insert out
    split
    · next none =>
      refine ⟨files, ⟨within, .inr ?_⟩, rfl⟩
      intro other within'
      have exhausted : ∀ j ∈ blobs items, j ∉ files → saving j ≤ 0 := by
        intro j blob out
        have larger := bestDowngrade_none none (downgradable_arranged.mpr ⟨blob, out⟩)
        rw [measured, measures files within _ (Finset.insert_subset blob within), inserted out]
          at larger
        omega
      have smallest := (measures files within other within').mpr
        (chosen.greedy.sum_le_of_exhausted within' exhausted)
      omega
    · next index found =>
      obtain ⟨isBlob, size, smaller, largest⟩ := bestDowngrade_some found
      obtain ⟨i, rfl⟩ : ∃ i : Fin items.length, (i : Nat) = index :=
        ⟨⟨index, (downgradable_lt isBlob).1⟩, rfl⟩
      obtain ⟨blob, out⟩ := downgradable_arranged.mp isBlob
      have within' := Finset.insert_subset blob within
      rw [measured] at smaller
      have positive : 0 < saving i := by
        have notLarger := (measures files within _ within').not.mp (not_le.mpr smaller)
        rw [inserted out] at notLarger
        omega
      have top : ∀ j ∈ blobs items, j ∉ files → saving j ≤ saving i := by
        intro j blob' out'
        have bound := largest j (downgradable_arranged.mpr ⟨blob', out'⟩)
        rw [measured, measured, measures _ within' _ (Finset.insert_subset blob' within),
          inserted out, inserted out'] at bound
        omega
      have next : Chosen readBytes send saving budget (insert i files) := by
        refine ⟨chosen.greedy.insert blob out positive top, ?_⟩
        intro other inBlobs fewer
        rw [Finset.card_insert_of_notMem out] at fewer
        have bound := (measures files within other inBlobs).mpr
          (chosen.greedy.sum_le inBlobs (by omega))
        omega
      have fewer : (blobs items \ insert i files).card < count := by
        rw [← left]
        refine Finset.card_lt_card ?_
        rw [Finset.ssubset_iff_of_subset
          (Finset.sdiff_subset_sdiff (Finset.Subset.refl _) (Finset.subset_insert i files))]
        exact ⟨i, Finset.mem_sdiff.mpr ⟨blob, out⟩,
          fun member => (Finset.mem_sdiff.mp member).2 (Finset.mem_insert_self i files)⟩
      rw [withFile_arranged, size, measured]
      exact ih _ fewer _ next rfl

end

theorem mapM_arranged :
    (items.mapM fun item =>
      if item.sdkAttachmentKind = "blob" then loadInlineBlob readBytes item
      else .ok (loadFileAttachment item)) = .ok (arranged readBytes items ∅) := by
  have each (item : StoredItem) :
      (if item.sdkAttachmentKind = "blob" then loadInlineBlob readBytes item
        else .ok (loadFileAttachment item)) =
          (.ok (form readBytes item (item.sdkAttachmentKind ≠ "blob")) :
            Except String SdkAttachment) := by
    by_cases blob : item.sdkAttachmentKind = "blob"
    · obtain ⟨value, loaded, _⟩ := loadInlineBlob_ok readBytes blob
      rw [if_pos blob, loaded, decide_eq_false (not_not.mpr blob), form_inline loaded]
    · rw [if_neg blob, decide_eq_true blob, form_file]
  have listed : arranged readBytes items ∅ =
      items.map fun item => form readBytes item (item.sdkAttachmentKind ≠ "blob") := by
    have whole : List.ofFn (fun i : Fin items.length => items[i]) = items := List.ofFn_getElem ..
    rw [← congrArg (List.map _) whole, List.map_ofFn]
    simp only [arranged, Finset.notMem_empty, false_or, mem_blobs]
    rfl
  rw [listed, funext each]
  exact List.mapM_pure

variable (readBytes items send) in
theorem sdkAttachmentsForSend_settled (budget : Int) :
    ∃ files, Settled readBytes send budget files ∧
      sdkAttachmentsForSend readBytes items send budget =
        if frame readBytes items send files > budget then .error frameLimitError
        else .ok (arranged readBytes items files) := by
  obtain ⟨saving, measures⟩ := frame_le_iff readBytes items send
  obtain ⟨files, settled, loop⟩ := downgradeLoop_settled budget measures ∅
    ⟨greedy_empty, by simp⟩
  refine ⟨files, settled, ?_⟩
  unfold sdkAttachmentsForSend downgradeBlobsBySavings
  rw [mapM_arranged]
  simp only [bind, Except.bind]
  rw [show sdkSendFrameSize send (some (arranged readBytes items ∅)) = frame readBytes items send ∅
    from rfl, loop]

variable (readBytes items send)

/-- The limit is exceeded exactly if every choice exceeds it, and otherwise a choice within it is
returned that sends the least number of blobs as files. -/
theorem downgrade_is_minimal (budget : Int) :
    (sdkAttachmentsForSend readBytes items send budget = .error frameLimitError ↔
      ¬ ∃ values, Choice readBytes items values ∧ Fits send budget values) ∧
    ((∃ values, Choice readBytes items values ∧ Fits send budget values) →
      ∃ values, sdkAttachmentsForSend readBytes items send budget = .ok values ∧
        Choice readBytes items values ∧ Fits send budget values ∧
        ∀ other, Choice readBytes items other → Fits send budget other →
          downgraded items values ≤ downgraded items other) := by
  obtain ⟨files, ⟨within, ⟨fits, least⟩ | excess⟩, result⟩ :=
    sdkAttachmentsForSend_settled readBytes items send budget
  · rw [if_neg (not_lt.mpr fits)] at result
    have chosen := arranged_choice readBytes files
    rw [result]
    refine ⟨iff_of_false nofun (not_not.mpr ⟨_, chosen, fits⟩), fun _ => ?_⟩
    refine ⟨_, rfl, chosen, fits, ?_⟩
    intro other choice fits'
    obtain ⟨files', within', rfl⟩ := choice_arranged choice
    rw [downgraded_arranged within, downgraded_arranged within']
    by_contra fewer
    exact absurd fits' (not_le.mpr (least files' within' (not_le.mp fewer)))
  · have none : ¬ ∃ values, Choice readBytes items values ∧ Fits send budget values := by
      rintro ⟨values, choice, fits⟩
      obtain ⟨files', within', rfl⟩ := choice_arranged choice
      exact absurd fits (not_le.mpr (excess files' within'))
    rw [if_pos (excess files within)] at result
    exact ⟨iff_of_true result none, fun some => absurd some none⟩

end Copilotd.Guarantees.AttachmentDowngrade
