import Mathlib.Algebra.BigOperators.Group.Finset.Piecewise
import Mathlib.Algebra.Order.BigOperators.Group.Finset
import Mathlib.Data.Finset.Max

/-!
# Greedy savings

Elements of a pool are chosen one at a time, each time one with the largest saving among those that
are left, and only while it is positive.  The sum of the savings is then the largest that any choice
of no more elements has, and once no positive saving is left the largest of all.
-/
namespace Copilotd.Base.Savings

variable {ι α : Type*} [AddCommGroup α] [LinearOrder α]

/-- What was chosen in the order of savings. -/
structure Greedy (saving : ι → α) (pool chosen : Finset ι) : Prop where
  subset : chosen ⊆ pool
  positive : ∀ i ∈ chosen, 0 < saving i
  top : ∀ i ∈ chosen, ∀ j ∈ pool, j ∉ chosen → saving j ≤ saving i

variable {saving : ι → α} {pool chosen other : Finset ι}

theorem greedy_empty : Greedy saving pool ∅ :=
  ⟨Finset.empty_subset pool, by simp, by simp⟩

variable [DecidableEq ι]

theorem Greedy.insert (greedy : Greedy saving pool chosen) {i : ι} (inPool : i ∈ pool)
    (left : i ∉ chosen) (positive : 0 < saving i)
    (largest : ∀ j ∈ pool, j ∉ chosen → saving j ≤ saving i) :
    Greedy saving pool (insert i chosen) := by
  refine ⟨Finset.insert_subset inPool greedy.subset, ?_, ?_⟩
  · intro j member
    rcases Finset.mem_insert.mp member with rfl | before
    · exact positive
    · exact greedy.positive j before
  · intro j member k inPool' left'
    rw [Finset.mem_insert, not_or] at left'
    rcases Finset.mem_insert.mp member with rfl | before
    · exact largest k inPool' left'.2
    · exact greedy.top j before k inPool' left'.2

variable [IsOrderedAddMonoid α]

/-- The elements of another choice are exchanged for chosen ones, of which there are enough. -/
theorem Greedy.sum_le (greedy : Greedy saving pool chosen) (within : other ⊆ pool)
    (fewer : other.card ≤ chosen.card) : ∑ i ∈ other, saving i ≤ ∑ i ∈ chosen, saving i := by
  have exchange : ∑ i ∈ other \ chosen, saving i ≤ ∑ i ∈ chosen \ other, saving i := by
    have enough : (other \ chosen).card ≤ (chosen \ other).card := by
      have others := Finset.card_sdiff_add_card_inter other chosen
      have own := Finset.card_sdiff_add_card_inter chosen other
      rw [Finset.inter_comm] at own
      omega
    rcases (chosen \ other).eq_empty_or_nonempty with none | some
    · rw [none, Finset.card_empty, Nat.le_zero, Finset.card_eq_zero] at enough
      rw [none, enough]
    · obtain ⟨least, member, small⟩ := Finset.exists_min_image _ saving some
      have inChosen := (Finset.mem_sdiff.mp member).1
      calc
        ∑ i ∈ other \ chosen, saving i ≤ (other \ chosen).card • saving least := by
          refine Finset.sum_le_card_nsmul _ _ _ ?_
          intro j outside
          obtain ⟨inOther, left⟩ := Finset.mem_sdiff.mp outside
          exact greedy.top least inChosen j (within inOther) left
        _ ≤ (chosen \ other).card • saving least :=
          nsmul_le_nsmul_left (greedy.positive least inChosen).le enough
        _ ≤ ∑ i ∈ chosen \ other, saving i := Finset.card_nsmul_le_sum _ _ _ small
  rw [← Finset.sum_inter_add_sum_sdiff other chosen, ← Finset.sum_inter_add_sum_sdiff chosen other,
    Finset.inter_comm chosen other]
  exact add_le_add_right exchange _

/-- Nothing is saved any more by what is left. -/
theorem Greedy.sum_le_of_exhausted (greedy : Greedy saving pool chosen) (within : other ⊆ pool)
    (exhausted : ∀ j ∈ pool, j ∉ chosen → saving j ≤ 0) :
    ∑ i ∈ other, saving i ≤ ∑ i ∈ chosen, saving i := by
  have dropped : ∑ i ∈ other \ chosen, saving i ≤ 0 := by
    refine Finset.sum_nonpos ?_
    intro j outside
    obtain ⟨inOther, left⟩ := Finset.mem_sdiff.mp outside
    exact exhausted j (within inOther) left
  have kept : 0 ≤ ∑ i ∈ chosen \ other, saving i := by
    refine Finset.sum_nonneg ?_
    intro i member
    exact (greedy.positive i (Finset.mem_sdiff.mp member).1).le
  rw [← Finset.sum_inter_add_sum_sdiff other chosen, ← Finset.sum_inter_add_sum_sdiff chosen other,
    Finset.inter_comm chosen other]
  exact add_le_add_right (dropped.trans kept) _

end Copilotd.Base.Savings
