import Mathlib.Data.List.Basic

/-!
# Cuts

A list is cut, in its order, into runs that fit.  Where the end of a run that fits fits too,
taking the longest run first needs the fewest runs.
-/
namespace Copilotd.Base.Cuts

variable {α : Type} {Fits : List α → Prop} {items : List α} {count length : ℕ}

/-- The list can be cut into `count` runs or fewer. -/
def CutInto (Fits : List α → Prop) : (count : ℕ) → (items : List α) → Prop
  | 0, items => items = []
  | count + 1, items =>
    ∃ length, Fits (items.take length) ∧ CutInto Fits count (items.drop length)

theorem cutInto_nil (empty : Fits []) : CutInto Fits count [] := by
  induction count with
  | zero => rfl
  | succ count ih => exact ⟨0, empty, ih⟩

section
variable (ends : ∀ run skipped, Fits run → Fits (run.drop skipped))
include ends

/-- What is left of the list needs no more runs. -/
theorem CutInto.drop (cut : CutInto Fits count items) (skipped : ℕ) :
    CutInto Fits count (items.drop skipped) := by
  induction count generalizing items skipped with
  | zero =>
    cases cut
    exact List.drop_nil
  | succ count ih =>
    obtain ⟨length, fits, rest⟩ := cut
    refine ⟨length - skipped, ?_, ?_⟩
    · rw [← List.drop_take]
      exact ends _ _ fits
    · have same : skipped + (length - skipped) = length + (skipped - length) := by omega
      rw [List.drop_drop, same, ← List.drop_drop]
      exact ih rest _

theorem cutInto_succ_iff (fits : Fits (items.take length))
    (longest : ∀ other, Fits (items.take other) → (items.take other).length ≤ length) :
    CutInto Fits (count + 1) items ↔ CutInto Fits count (items.drop length) := by
  constructor
  · rintro ⟨other, fitsToo, rest⟩
    have bound := longest other fitsToo
    have onward := rest.drop ends (length - other)
    rw [List.length_take] at bound
    rw [List.drop_drop] at onward
    rcases Nat.lt_or_ge length other with lt | le
    · have nothing : items.drop length = [] := List.drop_eq_nil_of_le (by omega)
      rw [List.drop_eq_nil_of_le (by omega)] at onward
      rwa [nothing]
    · rwa [Nat.add_sub_cancel' le] at onward
  · exact fun rest => ⟨length, fits, rest⟩

end

end Copilotd.Base.Cuts
