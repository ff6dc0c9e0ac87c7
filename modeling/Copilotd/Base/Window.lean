import Mathlib.Algebra.Order.Field.Basic
import Mathlib.Data.List.DropRight
import Mathlib.Tactic.Linarith

/-!
# Sliding windows

A window is a list of time stamps, oldest at the head in the usual case but not by
assumption.  Expiry only looks at the head, as a deque does; it may keep stamps
that have expired behind a live one, and it never drops a live one.  Stamps that keep a
gap can be counted by the width that they span (`Spaced.lt`).
-/
namespace Copilotd.Base.Window

variable {τ : Type*} [LinearOrder τ]

/-- Drop stamps from the head while they are at or before the cutoff. -/
def expire (cutoff : τ) (stamps : List τ) : List τ := stamps.dropWhile (· ≤ cutoff)

/-- The number of stamps after the cutoff. -/
def countAfter (cutoff : τ) (stamps : List τ) : Nat := stamps.countP (cutoff < ·)

theorem countAfter_le_length (cutoff : τ) (stamps : List τ) :
    countAfter cutoff stamps ≤ stamps.length := List.countP_le_length

@[simp] theorem countAfter_append (cutoff : τ) (stamps more : List τ) :
    countAfter cutoff (stamps ++ more) = countAfter cutoff stamps + countAfter cutoff more :=
  List.countP_append ..

theorem countAfter_cons (cutoff stamp : τ) (stamps : List τ) :
    countAfter cutoff (stamp :: stamps) =
      countAfter cutoff stamps + if cutoff < stamp then 1 else 0 := by
  unfold countAfter
  rw [List.countP_cons]
  simp only [decide_eq_true_eq]

/-- Expiry drops no stamp after a cutoff that all it may drop are at or before. -/
theorem countAfter_expire {cutoff later : τ} {stamps : List τ}
    (old : ∀ stamp ∈ stamps, stamp ≤ cutoff → stamp ≤ later) :
    countAfter later (expire cutoff stamps) = countAfter later stamps := by
  induction stamps with
  | nil => rfl
  | cons stamp stamps ih =>
    unfold expire
    rw [List.dropWhile_cons]
    split
    · next expired =>
      rw [decide_eq_true_eq] at expired
      have dropped := old stamp (List.mem_cons_self ..) expired
      rw [countAfter_cons, if_neg (not_lt.mpr dropped)]
      exact ih fun other member => old other (List.mem_cons_of_mem _ member)
    · rfl

theorem expire_expire (cutoff : τ) (stamps : List τ) :
    expire cutoff (expire cutoff stamps) = expire cutoff stamps := List.dropWhile_idempotent ..

theorem expire_sublist (cutoff : τ) (stamps : List τ) : (expire cutoff stamps).Sublist stamps :=
  List.dropWhile_sublist _

theorem head_expire {cutoff stamp : τ} {stamps : List τ}
    (head : (expire cutoff stamps).head? = some stamp) : cutoff < stamp := by
  induction stamps with
  | nil => cases head
  | cons first stamps ih =>
    unfold expire at head
    rw [List.dropWhile_cons] at head
    split at head
    · exact ih head
    · next live =>
      rw [decide_eq_true_eq, not_le] at live
      rw [← Option.some.inj head]
      exact live

/-! ## Spacing -/

section Spacing

/-- Every stamp is at least `gap` after those before it. -/
def Spaced {α : Type*} [Add α] [LE α] (gap : α) (stamps : List α) : Prop :=
  stamps.Pairwise fun a b => a + gap ≤ b

theorem Spaced.append {α : Type*} [Add α] [LE α] {gap new : α} {stamps : List α}
    (spaced : Spaced gap stamps) (after : ∀ stamp ∈ stamps, stamp + gap ≤ new) :
    Spaced gap (stamps ++ [new]) := by
  refine List.pairwise_append.mpr ⟨spaced, List.pairwise_singleton .., ?_⟩
  intro stamp member other isNew
  rw [List.mem_singleton.mp isNew]
  exact after stamp member

variable {α : Type*} [Field α] [LinearOrder α] [IsStrictOrderedRing α]

theorem Spaced.reach {gap first : α} {rest : List α} (spaced : Spaced gap (first :: rest)) :
    ∃ last ∈ first :: rest, first + rest.length * gap ≤ last := by
  induction rest generalizing first with
  | nil => exact ⟨first, List.mem_cons_self .., by simp⟩
  | cons second rest ih =>
    obtain ⟨after, tail⟩ := List.pairwise_cons.mp spaced
    obtain ⟨last, member, far⟩ := ih tail
    have near := after second (List.mem_cons_self ..)
    refine ⟨last, List.mem_cons_of_mem _ member, ?_⟩
    rw [List.length_cons, Nat.cast_add_one]
    linarith

/-- Spaced stamps that lie less than `width` apart: all but one need a gap each. -/
theorem Spaced.lt {gap width : α} {stamps : List α} (spaced : Spaced gap stamps) (wide : 0 < width)
    (close : ∀ a ∈ stamps, ∀ b ∈ stamps, b - a < width) :
    ((stamps.length - 1 : Nat) : α) * gap < width := by
  cases stamps with
  | nil => simpa using wide
  | cons first rest =>
    obtain ⟨last, member, far⟩ := spaced.reach
    have within := close first (List.mem_cons_self ..) last member
    rw [List.length_cons, Nat.add_sub_cancel]
    linarith

end Spacing

end Copilotd.Base.Window
