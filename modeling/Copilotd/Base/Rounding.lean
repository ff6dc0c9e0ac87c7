import Mathlib.Algebra.Order.Floor.Ring
import Mathlib.Data.Int.Log
import Mathlib.Data.Rat.Floor
import Mathlib.Tactic.Linarith
import Mathlib.Tactic.NormNum

/-!
# Rounding

The nearest integer and the nearest double, ties to even.  The doubles have 53 bits and any
exponent: what overflows or is subnormal is left out.
-/
namespace Copilotd.Base.Rounding

variable {value : ℚ} {n : ℤ}

/-! ## Integers -/

def roundEven (value : ℚ) : ℤ :=
  let below := ⌊value⌋
  let rest := value - below
  if rest < 1 / 2 ∨ rest = 1 / 2 ∧ below % 2 = 0 then below else below + 1

theorem roundEven_near (value : ℚ) :
    value - 1 / 2 ≤ roundEven value ∧ (roundEven value : ℚ) ≤ value + 1 / 2 := by
  have low := Int.floor_le value
  have high := Int.lt_floor_add_one value
  unfold roundEven
  dsimp only
  split
  · next near =>
    have : value - ⌊value⌋ ≤ 1 / 2 := near.elim le_of_lt fun tie => tie.1.le
    constructor <;> linarith
  · next far =>
    have : 1 / 2 ≤ value - ⌊value⌋ := not_lt.mp fun less => far (.inl less)
    push_cast
    constructor <;> linarith

theorem le_roundEven (le : n ≤ value) : n ≤ roundEven value := by
  have floor : n ≤ ⌊value⌋ := Int.le_floor.mpr le
  unfold roundEven
  dsimp only
  split <;> omega

theorem roundEven_le (le : value ≤ n) : roundEven value ≤ n := by
  have near := (roundEven_near value).2
  by_contra above
  have : (n : ℚ) + 1 ≤ roundEven value := by exact_mod_cast not_le.mp above
  linarith

theorem roundEven_intCast (n : ℤ) : roundEven n = n :=
  le_antisymm (roundEven_le (le_refl (n : ℚ))) (le_roundEven (le_refl (n : ℚ)))

theorem roundEven_mono {other : ℚ} (le : value ≤ other) : roundEven value ≤ roundEven other := by
  rcases (Int.floor_le_floor le).lt_or_eq with apart | same
  · have low : roundEven value ≤ ⌊value⌋ + 1 := by
      unfold roundEven
      dsimp only
      split <;> omega
    have high : ⌊other⌋ ≤ roundEven other := le_roundEven (Int.floor_le other)
    omega
  · -- In one unit interval the value is rounded down wherever the other one is.
    unfold roundEven
    rw [same]
    dsimp only
    have rest : value - ⌊other⌋ ≤ other - ⌊other⌋ := by linarith
    split
    · split <;> omega
    · next up =>
      rw [if_neg]
      intro down
      rcases rest.lt_or_eq with less | equal
      · exact up (.inl (less.trans_le (down.elim le_of_lt fun tie => tie.1.le)))
      · rw [equal] at up
        exact up down

theorem roundEven_neg (value : ℚ) : roundEven (-value) = -roundEven value := by
  have low := Int.floor_le value
  have high := Int.lt_floor_add_one value
  rcases low.eq_or_lt with whole | part
  · rw [← whole, ← Int.cast_neg, roundEven_intCast, roundEven_intCast]
  · have below : ⌊-value⌋ = -⌊value⌋ - 1 := by
      rw [Int.floor_eq_iff]
      push_cast
      constructor <;> linarith
    have rest : -value - ((-⌊value⌋ - 1 : ℤ) : ℚ) = 1 - (value - ⌊value⌋) := by
      push_cast
      ring
    unfold roundEven
    rw [below]
    dsimp only
    rw [rest]
    rcases lt_trichotomy (value - ⌊value⌋) (1 / 2) with less | half | more
    · rw [if_pos (Or.inl less), if_neg]
      · ring
      · rintro (small | tie)
        · linarith
        · linarith [tie.1]
    · rw [half]
      norm_num
      split <;> split <;> omega
    · rw [if_pos (Or.inl (by linarith)), if_neg]
      · ring
      · rintro (small | tie)
        · linarith
        · linarith [tie.1]

/-! ## Doubles -/

/-- The distance between the doubles around a value. -/
def unit (value : ℚ) : ℚ := 2 ^ (Int.log 2 |value| - 52)

def roundDouble (value : ℚ) : ℚ := roundEven (value / unit value) * unit value

theorem unit_pos (value : ℚ) : 0 < unit value := zpow_pos (by norm_num) _

theorem unit_neg (value : ℚ) : unit (-value) = unit value := by
  unfold unit
  rw [abs_neg]

theorem roundDouble_neg (value : ℚ) : roundDouble (-value) = -roundDouble value := by
  unfold roundDouble
  rw [unit_neg, neg_div, roundEven_neg]
  push_cast
  ring

theorem roundDouble_zero : roundDouble 0 = 0 := by
  simp [roundDouble, roundEven]

/-- The binade of a positive value: its result stays there, or is the end of it. -/
theorem roundDouble_binade (positive : 0 < value) :
    (2 : ℚ) ^ Int.log 2 value ≤ roundDouble value ∧
      roundDouble value ≤ (2 : ℚ) ^ (Int.log 2 value + 1) := by
  have low := Int.zpow_log_le_self (b := 2) (by norm_num) positive
  have high := Int.lt_zpow_succ_log_self (b := 2) (by norm_num) value
  have width : unit value = 2 ^ (Int.log 2 value - 52) := by
    unfold unit
    rw [abs_of_pos positive]
  have first : (2 : ℚ) ^ Int.log 2 value = ((2 ^ 52 : ℤ) : ℚ) * unit value := by
    rw [width, zpow_sub₀ (by norm_num)]
    norm_num
    ring
  have last : (2 : ℚ) ^ (Int.log 2 value + 1) = ((2 ^ 53 : ℤ) : ℚ) * unit value := by
    rw [width, zpow_sub₀ (by norm_num), zpow_add₀ (by norm_num)]
    norm_num
    ring
  have pos := unit_pos value
  push_cast at low high
  rw [first] at low
  rw [last] at high
  rw [first, last]
  constructor
  · refine mul_le_mul_of_nonneg_right ?_ pos.le
    exact_mod_cast le_roundEven ((le_div_iff₀ pos).mpr low)
  · refine mul_le_mul_of_nonneg_right ?_ pos.le
    exact_mod_cast roundEven_le ((div_le_iff₀ pos).mpr high.le)

theorem roundDouble_pos (positive : 0 < value) : 0 < roundDouble value :=
  (zpow_pos (by norm_num) _).trans_le (roundDouble_binade positive).1

theorem roundDouble_nonpos_of (nonpos : value ≤ 0) : roundDouble value ≤ 0 := by
  rcases nonpos.lt_or_eq with negative | rfl
  · have := roundDouble_pos (neg_pos.mpr negative)
    rw [roundDouble_neg] at this
    linarith
  · exact roundDouble_zero.le

/-- Rounding keeps the sign: a difference of doubles that differ does not vanish. -/
@[simp] theorem roundDouble_nonpos : roundDouble value ≤ 0 ↔ value ≤ 0 := by
  refine ⟨fun rounded => ?_, roundDouble_nonpos_of⟩
  by_contra positive
  exact absurd (roundDouble_pos (not_le.mp positive)) (not_lt.mpr rounded)

theorem roundDouble_mono_pos {other : ℚ} (positive : 0 < value) (le : value ≤ other) :
    roundDouble value ≤ roundDouble other := by
  have positive' := positive.trans_le le
  rcases (Int.log_mono_right (b := 2) positive le).lt_or_eq with apart | same
  · calc
      roundDouble value ≤ (2 : ℚ) ^ (Int.log 2 value + 1) := (roundDouble_binade positive).2
      _ ≤ (2 : ℚ) ^ Int.log 2 other := zpow_le_zpow_right₀ (by norm_num) (by omega)
      _ ≤ roundDouble other := (roundDouble_binade positive').1
  · have units : unit value = unit other := by
      unfold unit
      rw [abs_of_pos positive, abs_of_pos positive', same]
    have pos := unit_pos other
    unfold roundDouble
    rw [units]
    refine mul_le_mul_of_nonneg_right ?_ pos.le
    exact_mod_cast roundEven_mono (div_le_div_of_nonneg_right le pos.le)

theorem roundDouble_mono {other : ℚ} (le : value ≤ other) :
    roundDouble value ≤ roundDouble other := by
  rcases lt_or_ge 0 value with positive | nonpos
  · exact roundDouble_mono_pos positive le
  · rcases lt_or_ge other 0 with negative | nonneg
    · have mirrored := roundDouble_mono_pos (neg_pos.mpr negative) (neg_le_neg le)
      rw [roundDouble_neg, roundDouble_neg] at mirrored
      linarith
    · refine (roundDouble_nonpos_of nonpos).trans ?_
      have := roundDouble_nonpos_of (neg_nonpos.mpr nonneg)
      rw [roundDouble_neg] at this
      linarith

end Copilotd.Base.Rounding
