import Mathlib.Algebra.Order.Field.Basic
import Mathlib.Algebra.Order.Ring.Rat
import Mathlib.Algebra.Field.Rat
import Mathlib.Algebra.Group.Int.Even
import Mathlib.Tactic.Linarith
import Mathlib.Tactic.NormNum
import SchedProbe.Json.RoundTrip

/-! Rounding of quotients. The rounded quotient is the integer nearest to the exact one, and the even one of two that
are equally near; this integer is unique and does not fall where the quotient rises. -/

set_option autoImplicit false

namespace SchedProbe.Decimal

/-- The integer is nearest to the number, and even if another one is as near. -/
structure NearestEven (x : ℚ) (nearest : ℤ) : Prop where
  near : |x - nearest| ≤ 1 / 2
  tie : |x - nearest| = 1 / 2 → Even nearest

variable {x y : ℚ} {m n : ℤ}

theorem NearestEven.mono (rounded : NearestEven x m) (rounded' : NearestEven y n) (le : x ≤ y) : m ≤ n := by
  by_contra above
  have above : n + 1 ≤ m := Int.not_le.1 above
  have apart : (n : ℚ) + 1 ≤ m := by exact_mod_cast above
  obtain ⟨low, -⟩ := abs_le.1 rounded.near
  obtain ⟨-, high⟩ := abs_le.1 rounded'.near
  -- Both numbers are the one half way between the two integers, which would both be even.
  have half : x - m = -(1 / 2) := by linarith
  have half' : y - n = 1 / 2 := by linarith
  have next : (m : ℚ) = n + 1 := by linarith
  have next : m = n + 1 := by exact_mod_cast next
  have even := rounded.tie (by rw [half]; norm_num)
  have even' := rounded'.tie (by rw [half']; norm_num)
  rw [Int.even_iff] at even even'
  omega

theorem NearestEven.neg (rounded : NearestEven x m) : NearestEven (-x) (-m) := by
  have same : |(-x) - ((-m : ℤ) : ℚ)| = |x - m| := by
    rw [Int.cast_neg, ← neg_sub', abs_neg]
  exact ⟨same ▸ rounded.near, fun tie => (rounded.tie (same ▸ tie)).neg⟩

/-- Whether an integer is the rounded quotient shows in how far its product is from the dividend. -/
theorem nearestEven_div_iff {num : ℤ} {den : ℕ} (positive : 0 < den) : NearestEven (num / den) m ↔
    2 * (num - m * den).natAbs ≤ den ∧ (2 * (num - m * den).natAbs = den → Even m) := by
  have nonzero : (den : ℚ) ≠ 0 := by exact_mod_cast positive.ne'
  have distance : |(num / den : ℚ) - m| = ((num - m * den).natAbs : ℚ) / den := by
    have quotient : (num / den : ℚ) - m = ((num - m * den : ℤ) : ℚ) / den := by
      rw [Int.cast_sub, Int.cast_mul, Int.cast_natCast, sub_div, mul_div_cancel_right₀ _ nonzero]
    rw [quotient, abs_div, Nat.abs_cast, Nat.cast_natAbs, Int.cast_abs]
  have near : |(num / den : ℚ) - m| ≤ 1 / 2 ↔ 2 * (num - m * den).natAbs ≤ den := by
    rw [distance, div_le_iff₀ (by exact_mod_cast positive), ← Nat.cast_le (α := ℚ)]
    push_cast
    constructor <;> intro le <;> linarith
  have tie : |(num / den : ℚ) - m| = 1 / 2 ↔ 2 * (num - m * den).natAbs = den := by
    rw [distance, div_eq_iff nonzero, ← Nat.cast_inj (R := ℚ)]
    push_cast
    constructor <;> intro eq <;> linarith
  exact ⟨fun rounded => ⟨near.1 rounded.near, fun half => rounded.tie (tie.2 half)⟩,
    fun ⟨le, even⟩ => ⟨near.2 le, fun half => even (tie.1 half)⟩⟩

theorem nearestEven_roundDiv (num : ℕ) {den : ℕ} (positive : 0 < den) :
    NearestEven (num / den) (roundDiv num den) := by
  have split : den * (num / den) + num % den = num := Nat.div_add_mod num den
  have down : ((num / den : ℕ) : ℤ) * den = (den * (num / den) : ℕ) := by
    rw [Nat.cast_mul, mul_comm]
  have up : ((num / den + 1 : ℕ) : ℤ) * den = (den * (num / den) : ℕ) + den := by
    rw [Nat.cast_add, Nat.cast_one, add_mul, one_mul, down]
  have rest : num % den < den := Nat.mod_lt num positive
  rw [← Int.cast_natCast (n := num), nearestEven_div_iff positive]
  unfold roundDiv
  dsimp only
  split
  next below =>
    rw [down]
    exact ⟨by omega, fun half => by omega⟩
  split
  next above =>
    rw [up]
    exact ⟨by omega, fun half => by omega⟩
  -- Half way between two integers: the even one of them.
  obtain even | odd := Nat.mod_two_eq_zero_or_one (num / den)
  · rw [even, Nat.add_zero, down]
    exact ⟨by omega, fun _ => (Int.even_coe_nat _).2 (Nat.even_iff.2 even)⟩
  · rw [odd, up]
    exact ⟨by omega, fun _ => (Int.even_coe_nat _).2 (Nat.even_iff.2 (by omega))⟩

/-- The sign of a quotient has no part in its rounding. -/
theorem nearestEven_signed (num : ℤ) {den : ℕ} (positive : 0 < den) :
    NearestEven (num / den) (Json.Number.withSign (decide (num < 0)) (roundDiv num.natAbs den)) := by
  have rounded := nearestEven_roundDiv num.natAbs positive
  by_cases negative : num < 0
  · have magnitude : (num : ℚ) = -(num.natAbs : ℚ) := by
      rw [← Int.cast_natCast, Int.ofNat_natAbs_of_nonpos negative.le, Int.cast_neg, neg_neg]
    rw [decide_eq_true negative, magnitude, neg_div]
    exact rounded.neg
  · have magnitude : (num : ℚ) = (num.natAbs : ℚ) := by
      rw [← Int.cast_natCast, Int.natAbs_of_nonneg (Int.not_lt.1 negative)]
    rw [decide_eq_false negative, magnitude]
    exact rounded

/-! ## Significant digits -/

theorem roundDiv_mul (n : ℕ) {den : ℕ} (positive : 0 < den) : roundDiv (n * den) den = n := by
  rw [roundDiv, Nat.mul_div_cancel n positive, Nat.mul_mod_left]
  exact if_pos positive

/-- Of the numbers with one digit more, the least one is kept as well. -/
theorem significant_of_le {bits n : ℕ} (positive : 0 < bits) (le : n ≤ 2 ^ bits) : significant bits n = n := by
  obtain below | rfl := Nat.lt_or_eq_of_le le
  · exact significant_of_lt below
  obtain ⟨bits, rfl⟩ := Nat.exists_eq_succ_of_ne_zero positive.ne'
  have unit : Nat.pow 2 ((2 ^ bits.succ).log2 + 1 - bits.succ) = 2 := by
    rw [Nat.log2_two_pow, Nat.add_sub_cancel_left]
  have limit : ¬ 2 ^ bits.succ < Nat.pow 2 bits.succ := Nat.lt_irrefl _
  rw [significant, if_neg limit, unit, Nat.pow_succ]
  exact congrArg (· * 2) (roundDiv_mul _ Nat.two_pos)

end SchedProbe.Decimal
