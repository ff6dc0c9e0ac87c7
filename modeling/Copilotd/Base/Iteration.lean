import Mathlib.Data.List.Basic

/-!
# Iterating a dictionary that others change

The table of a dictionary keeps its entries in insertion order.  An entry that is removed leaves a
hole until an insertion compacts the table.  An iterator remembers the size that it started from
and a position in the table; it raises when the size has changed, and a change that keeps the size
is not seen.
-/
namespace Copilotd.Base.Iteration

variable {α : Type*}

abbrev Slots (α : Type*) := List (Option α)

/-- The entries, in order. -/
def live (slots : Slots α) : List α := slots.filterMap id

def size (slots : Slots α) : Nat := (live slots).length

/-- The entries that `hit` picks are removed. -/
def remove (hit : α → Bool) (slots : Slots α) : Slots α :=
  slots.map fun slot => slot.filter fun entry => !hit entry

/-- An entry under a new key, with or without a compaction. -/
def insert (compacts : Bool) (entry : α) (slots : Slots α) : Slots α :=
  (if compacts then (live slots).map some else slots) ++ [some entry]

structure Iterator where
  expected : Nat
  position : Nat
  deriving DecidableEq

def iter (slots : Slots α) : Iterator := { expected := size slots, position := 0 }

inductive Next (α : Type*) where
  | changed
  | exhausted
  | yields (entry : α) (iterator : Iterator)
  deriving DecidableEq

/-- The first entry of what is left of the table, and the position after it. -/
def first : Slots α → Nat → Option (α × Nat)
  | [], _ => none
  | none :: rest, position => first rest (position + 1)
  | some entry :: _, position => some (entry, position + 1)

def Iterator.next (iterator : Iterator) (slots : Slots α) : Next α :=
  if size slots ≠ iterator.expected then .changed
  else
    match first (slots.drop iterator.position) iterator.position with
    | none => .exhausted
    | some (entry, position) => .yields entry { iterator with position }

/-- The entries before a position. -/
def passed (slots : Slots α) (position : Nat) : List α := live (slots.take position)

variable {slots : Slots α} {entry : α} {iterator after : Iterator}

theorem mem_live : entry ∈ live slots ↔ some entry ∈ slots := by
  simp [live]

theorem live_remove (hit : α → Bool) :
    live (remove hit slots) = (live slots).filter fun entry => !hit entry := by
  induction slots with
  | nil => rfl
  | cons slot rest ih =>
    cases slot with
    | none => simpa [live, remove] using ih
    | some found =>
      cases picked : hit found
      · simpa [live, remove, picked, Option.filter] using ih
      · simpa [live, remove, picked, Option.filter] using ih

/-- A removal that finds nothing leaves the table as it was. -/
theorem remove_of_misses {hit : α → Bool} (misses : ∀ entry ∈ live slots, hit entry = false) :
    remove hit slots = slots := by
  unfold remove
  conv_rhs => rw [← List.map_id slots]
  refine List.map_congr_left ?_
  intro slot member
  cases slot with
  | none => rfl
  | some found => simp [Option.filter, misses found (mem_live.mpr member)]

variable {position : Nat}

theorem mem_passed :
    entry ∈ passed slots position ↔ ∃ index < position, slots[index]? = some (some entry) := by
  unfold passed
  rw [mem_live, List.mem_take_iff_getElem]
  constructor
  · rintro ⟨index, bound, found⟩
    have inside : index < slots.length := by omega
    exact ⟨index, by omega, by rw [List.getElem?_eq_getElem inside, found]⟩
  · rintro ⟨index, below, found⟩
    obtain ⟨inside, same⟩ := List.getElem?_eq_some_iff.mp found
    exact ⟨index, by omega, same⟩

theorem first_some {later : Nat} (found : first slots position = some (entry, later)) :
    ∃ skipped, later = position + skipped + 1 ∧ slots[skipped]? = some (some entry) ∧
      ∀ index < skipped, slots[index]? = some none := by
  induction slots generalizing position with
  | nil => cases found
  | cons slot rest ih =>
    cases slot with
    | some here =>
      cases found
      exact ⟨0, rfl, rfl, by simp⟩
    | none =>
      obtain ⟨skipped, same, here, holes⟩ := ih found
      refine ⟨skipped + 1, by omega, here, ?_⟩
      intro index below
      cases index with
      | zero => rfl
      | succ index => exact holes index (by omega)

theorem first_none (found : first slots position = none) :
    live slots = [] := by
  induction slots generalizing position with
  | nil => rfl
  | cons slot rest ih =>
    cases slot with
    | some here => cases found
    | none => simpa [live] using ih found

/-- An iterator yields the entry right before its new position, past holes only. -/
theorem next_yields (yields : iterator.next slots = .yields entry after) :
    size slots = iterator.expected ∧ after.expected = iterator.expected ∧
      iterator.position < after.position ∧
      slots[after.position - 1]? = some (some entry) ∧
      ∀ other ∈ passed slots (after.position - 1), other ∈ passed slots iterator.position := by
  unfold Iterator.next at yields
  split at yields
  · cases yields
  · next same =>
    split at yields
    · cases yields
    · next found position there =>
      cases yields
      obtain ⟨skipped, rfl, here, holes⟩ := first_some there
      refine ⟨not_not.mp same, rfl, by dsimp only; omega, ?_, ?_⟩
      · simpa using here
      · intro other before
        obtain ⟨index, below, at_⟩ := mem_passed.mp before
        have bound : index < iterator.position + skipped := by simpa using below
        by_cases early : index < iterator.position
        · exact mem_passed.mpr ⟨index, early, at_⟩
        · have hole := holes (index - iterator.position) (by omega)
          rw [List.getElem?_drop, show iterator.position + (index - iterator.position) = index by
            omega, at_] at hole
          cases hole

theorem next_exhausted (exhausted : iterator.next slots = .exhausted) :
    size slots = iterator.expected ∧
      ∀ entry ∈ live slots, entry ∈ passed slots iterator.position := by
  unfold Iterator.next at exhausted
  split at exhausted
  · cases exhausted
  · next same =>
    split at exhausted
    · next rest =>
      refine ⟨not_not.mp same, ?_⟩
      intro entry member
      have split : live slots = passed slots iterator.position ++
          live (slots.drop iterator.position) := by
        unfold passed live
        rw [← List.filterMap_append, List.take_append_drop]
      rw [split, first_none rest, List.append_nil] at member
      exact member
    · cases exhausted

/-- A table of the size that an iterator started from does not stop it. -/
theorem next_ne_changed (same : size slots = iterator.expected) :
    iterator.next slots ≠ .changed := by
  unfold Iterator.next
  rw [if_neg (not_not.mpr same)]
  split <;> simp

theorem mem_passed_succ {found : α}
    (here : slots[position - 1]? = some (some found)) (member : entry ∈ passed slots position) :
    entry ∈ passed slots (position - 1) ∨ entry = found := by
  obtain ⟨index, below, at_⟩ := mem_passed.mp member
  by_cases last : index = position - 1
  · subst last
    rw [here] at at_
    cases at_
    exact .inr rfl
  · exact .inl (mem_passed.mpr ⟨index, by omega, at_⟩)

end Copilotd.Base.Iteration
