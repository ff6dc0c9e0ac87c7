import Copilotd.Source.Storage.StateOnly

/-!
# Scrubbing does not depend on content

Two values are alike when they differ only in texts at positions that are no identifiers, with
equal digests, and in subtrees under content keys, with equal receipts.  Alike values have
the same scrubbed value (`scrubState_alike`), and so the same state-only JSON.
-/
namespace Copilotd.Guarantees.StateOnlyScrubbing

open Base Source.Storage.StateOnly

variable {codec : Codec} {preserve : Bool}

/-- A text under this key, or under none, is kept as it is. -/
def identifies (codec : Codec) (key : Option String) : Bool :=
  isIdentifierKey (normalizedKey codec key)

/-- The canonical encodings have equal digests and lengths. -/
def SameReceipt (codec : Codec) (one other : Value) : Prop :=
  ∃ first second, canonicalBytes codec one = .ok first ∧ canonicalBytes codec other = .ok second ∧
    codec.sha256 first = codec.sha256 second ∧ first.size = second.size

mutual

/-- Two values under a key that differ in content only. -/
inductive Alike (codec : Codec) (preserve : Bool) : Option String → Value → Value → Prop
  | same (key : Option String) (value : Value) : Alike codec preserve key value value
  | text {key : Option String} {one other : String} (open_ : identifies codec key = false)
      (digests : codec.sha256 one.toUTF8 = codec.sha256 other.toUTF8) :
      Alike codec preserve key (.str one) (.str other)
  | list {key : Option String} {ones others : List Value}
      (items : AlikeAll codec preserve key ones others) :
      Alike codec preserve key (.list ones) (.list others)
  | dict {key : Option String} {ones others : List (String × Value)}
      (items : AlikeItems codec preserve ones others) :
      Alike codec preserve key (.dict ones) (.dict others)

/-- The items of a list stand under the key of the list. -/
inductive AlikeAll (codec : Codec) (preserve : Bool) :
    Option String → List Value → List Value → Prop
  | nil (key : Option String) : AlikeAll codec preserve key [] []
  | cons {key : Option String} {one other : Value} {ones others : List Value}
      (item : Alike codec preserve key one other)
      (items : AlikeAll codec preserve key ones others) :
      AlikeAll codec preserve key (one :: ones) (other :: others)

/-- Items of a mapping have the same keys in the same order. -/
inductive AlikeItems (codec : Codec) (preserve : Bool) :
    List (String × Value) → List (String × Value) → Prop
  | nil : AlikeItems codec preserve [] []
  /-- A preserved application configuration is the same. -/
  | configuration {textKey : String} {value : Value} {ones others : List (String × Value)}
      (is : treatment codec preserve textKey = .configuration)
      (items : AlikeItems codec preserve ones others) :
      AlikeItems codec preserve ((textKey, value) :: ones) ((textKey, value) :: others)
  | content {textKey : String} {one other : Value} {ones others : List (String × Value)}
      (is : treatment codec preserve textKey = .content) (receipts : SameReceipt codec one other)
      (items : AlikeItems codec preserve ones others) :
      AlikeItems codec preserve ((textKey, one) :: ones) ((textKey, other) :: others)
  | scrubbed {textKey : String} {one other : Value} {ones others : List (String × Value)}
      (is : treatment codec preserve textKey = .scrubbed)
      (item : Alike codec preserve (some textKey) one other)
      (items : AlikeItems codec preserve ones others) :
      AlikeItems codec preserve ((textKey, one) :: ones) ((textKey, other) :: others)

end

theorem scrubText_open {key : Option String} {one other : String}
    (open_ : identifies codec key = false)
    (digests : codec.sha256 one.toUTF8 = codec.sha256 other.toUTF8) :
    scrubText codec key one = scrubText codec key other := by
  unfold identifies at open_
  unfold scrubText
  rw [open_, digests, if_neg Bool.false_ne_true, if_neg Bool.false_ne_true]

theorem contentReceipt_same {one other : Value} (receipts : SameReceipt codec one other) :
    contentReceipt codec one = contentReceipt codec other := by
  obtain ⟨first, second, encodes, encodes', digests, sizes⟩ := receipts
  unfold contentReceipt
  rw [encodes, encodes']
  simp only [bind, Except.bind, pure, Except.pure]
  rw [digests, sizes]

/-! The induction follows the two values: one case for each way in which they are alike. -/

mutual

theorem scrubState_alike {key : Option String} {one other : Value}
    (alike : Alike codec preserve key one other) :
    scrubState codec preserve key one = scrubState codec preserve key other := by
  cases alike with
  | same => rfl
  | text open_ digests =>
    simp only [scrubState]
    rw [scrubText_open open_ digests]
  | list items =>
    simp only [scrubState]
    rw [scrubAll_alike items]
  | dict items =>
    simp only [scrubState]
    rw [scrubItems_alike [] items]

theorem scrubAll_alike {key : Option String} {ones others : List Value}
    (alike : AlikeAll codec preserve key ones others) :
    scrubAll codec preserve key ones = scrubAll codec preserve key others := by
  cases alike with
  | nil => rfl
  | cons item items =>
    simp only [scrubAll]
    rw [scrubState_alike item, scrubAll_alike items]

theorem scrubItems_alike (output : List (String × Value)) {ones others : List (String × Value)}
    (alike : AlikeItems codec preserve ones others) :
    scrubItems codec preserve output ones = scrubItems codec preserve output others := by
  cases alike with
  | nil => rfl
  | configuration is items =>
    simp only [scrubItems, is]
    congr 1
    funext kept
    exact scrubItems_alike _ items
  | content is receipts items =>
    simp only [scrubItems, is]
    rw [contentReceipt_same receipts]
    congr 1
    funext receipt
    exact scrubItems_alike _ items
  | scrubbed is item items =>
    simp only [scrubItems, is]
    rw [scrubState_alike item]
    congr 1
    funext scrubbed
    exact scrubItems_alike _ items

end

/-- Values that are alike have the same scrubbed value under every key, and the same state-only
JSON, whatever they nest. -/
theorem scrubbing_hides_content (codec : Codec) (preserve : Bool) (one other : Value) :
    (∀ key, Alike codec preserve key one other →
      scrubState codec preserve key one = scrubState codec preserve key other) ∧
      (Alike codec preserve none one other →
        stateOnlyJson codec preserve one = stateOnlyJson codec preserve other) := by
  constructor
  · intro key alike
    exact scrubState_alike alike
  · intro alike
    unfold stateOnlyJson
    rw [scrubState_alike alike]

/-- The encodings and the digest of the values below. -/
def sampleCodec : Codec where
  sha256 := fun _ => "43258cff783fe7036d8a43033f830adfc60ec037382473548ac742b888292777"
  canonicalJson := fun _ => .ok "\x7b\"a\":1,\"b\":2\x7d"
  stateJson := fun _ => .ok ("[\x7b\"text_bytes\":13,\"text_sha256\":\"" ++
    "43258cff783fe7036d8a43033f830adfc60ec037382473548ac742b888292777\"\x7d]")
  isUpper := Char.isUpper
  lower := fun character => character.toLower.toString

/-- A mapping under a content key, with its items in the one order and in the other. -/
def sampleContent (swapped : Bool) : Value :=
  let items : List (String × Value) := [("a", .int 1), ("b", .int 2)]
  .list [.dict [("text", .dict (if swapped then items.reverse else items))]]

theorem scrubbing_hides_content_swapped :
    Alike sampleCodec false none (sampleContent false) (sampleContent true) ∧
      sampleContent false ≠ sampleContent true ∧
      stateOnlyJson sampleCodec false (sampleContent false) =
        stateOnlyJson sampleCodec false (sampleContent true) := by
  have alike : Alike sampleCodec false none (sampleContent false) (sampleContent true) := by
    have isContent : treatment sampleCodec false "text" = .content := by decide +kernel
    have receipts : SameReceipt sampleCodec
        (.dict [("a", .int 1), ("b", .int 2)]) (.dict [("b", .int 2), ("a", .int 1)]) :=
      ⟨_, _, rfl, rfl, rfl, rfl⟩
    exact .list (.cons (.dict (.content isContent receipts .nil)) (.nil none))
  refine ⟨alike, ?_, (scrubbing_hides_content sampleCodec false _ _).2 alike⟩
  intro same
  simp [sampleContent] at same

end Copilotd.Guarantees.StateOnlyScrubbing
