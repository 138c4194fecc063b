import Mathlib.Algebra.Order.Field.Basic
import Mathlib.Algebra.Order.Group.Abs
import Mathlib.Data.Rat.Cast.Order
import Mathlib.Tactic.Lemma
import Mathlib.Tactic.NormNum
import PromptStudio.Proofs.Binary64.Rounding

/-!
# Doubles as fractions

The order of doubles is the order of the fractions they stand for, up to the two zeros, and moving
a number into a range moves its fraction there.
-/

namespace PromptStudio.Proofs

/-- The fraction that a double stands for. -/
def value (x : Binary64) : ℚ :=
  x.toUnits / Binary64.unit

lemma unit_pos : 0 < Binary64.unit := by decide +kernel

lemma value_nonpos_iff (x : Binary64) : value x ≤ 0 ↔ x.toUnits ≤ 0 := by
  have hunit : (0 : ℚ) < Binary64.unit := Nat.cast_pos.2 unit_pos
  rw [value, div_le_iff₀ hunit, zero_mul]
  exact Int.cast_nonpos

lemma toUnits_le_of_position_le {x y : Binary64} (h : x.position ≤ y.position) :
    x.toUnits ≤ y.toUnits := by
  obtain ⟨negative, rank, _⟩ := x
  obtain ⟨negative', rank', _⟩ := y
  have hranks : Binary64.units rank ≤ Binary64.units rank' ↔ rank ≤ rank' :=
    units_strictMono.le_iff_le
  have hranks' : Binary64.units rank' ≤ Binary64.units rank ↔ rank' ≤ rank :=
    units_strictMono.le_iff_le
  unfold Binary64.position at h
  unfold Binary64.toUnits
  -- Magnitudes are in the order of their ranks, and against it below zero.
  cases negative <;> cases negative' <;>
    simp only [Bool.false_eq_true, if_false, if_true] at h ⊢ <;> omega

lemma toUnits_clamp (x : Binary64) {low high : Binary64} (h : low.position ≤ high.position) :
    (x.clamp low high).toUnits = max low.toUnits (min x.toUnits high.toUnits) := by
  have hrange := toUnits_le_of_position_le h
  unfold Binary64.clamp
  by_cases hlow : x.position < low.position
  · have hle := toUnits_le_of_position_le (Int.le_of_lt hlow)
    rw [if_pos hlow]
    omega
  by_cases hhigh : high.position < x.position
  · have hle := toUnits_le_of_position_le (Int.le_of_lt hhigh)
    rw [if_neg hlow, if_pos hhigh]
    omega
  · have hle := toUnits_le_of_position_le (Int.not_lt.1 hlow)
    have hle' := toUnits_le_of_position_le (Int.not_lt.1 hhigh)
    rw [if_neg hlow, if_neg hhigh]
    omega

lemma value_clamp (x : Binary64) {low high : Binary64} (h : low.position ≤ high.position) :
    value (x.clamp low high) = max (value low) (min (value x) (value high)) := by
  have hunit : (0 : ℚ) ≤ Binary64.unit := Nat.cast_nonneg _
  unfold value
  rw [toUnits_clamp x h, Int.cast_max, Int.cast_min, min_div_div_right hunit,
    max_div_div_right hunit]

lemma isPositive_iff (x : Binary64) : x.isPositive = true ↔ 0 < x.toUnits := by
  obtain ⟨negative, rank, _⟩ := x
  have hzero : Binary64.units 0 = 0 := rfl
  have hrank : Binary64.units 0 < Binary64.units rank ↔ 0 < rank := units_strictMono.lt_iff_lt
  unfold Binary64.isPositive Binary64.toUnits
  cases negative with
  | false =>
    simp only [Bool.not_false, Bool.true_and, bne_iff_ne, Bool.false_eq_true, if_false]
    rw [← Nat.pos_iff_ne_zero, ← hrank, hzero, Int.natCast_pos]
  | true =>
    simp only [Bool.not_true, Bool.false_and, Bool.false_eq_true, if_true]
    exact iff_of_false id (by omega)

lemma units_rank_of_pos {x : Binary64} (h : 0 < x.toUnits) :
    (Binary64.units x.rank : Int) = x.toUnits := by
  unfold Binary64.toUnits at h ⊢
  cases hsign : x.negative with
  | false => rfl
  | true =>
    rw [hsign, if_pos rfl] at h
    omega

lemma rank_mulNat {x : Binary64} {n : Nat}
    (h : Binary64.nearestRank (Binary64.units x.rank * n) 1 < Binary64.rankLimit) :
    (x.mulNat n).rank = Binary64.nearestRank (Binary64.units x.rank * n) 1 :=
  Nat.min_eq_left (Nat.le_sub_one_of_lt h)

lemma toUnits_mulNat_error {x : Binary64} {n : Nat}
    (h : Binary64.nearestRank (Binary64.units x.rank * n) 1 < Binary64.rankLimit) :
    2 * Binary64.binade * ((x.mulNat n).toUnits - x.toUnits * n).natAbs ≤
      (x.toUnits * n).natAbs := by
  have herror := nearestRank_error (Binary64.units x.rank * n)
  have hnegative : (x.mulNat n).negative = x.negative := rfl
  have hproduct : ((Binary64.units x.rank : Int) * n).natAbs = Binary64.units x.rank * n := by
    rw [Int.natAbs_mul, Int.natAbs_natCast, Int.natAbs_natCast]
  unfold Binary64.toUnits
  rw [rank_mulNat h, hnegative]
  rw [Nat.cast_mul] at herror
  cases x.negative with
  | false =>
    simp only [Bool.false_eq_true, if_false]
    rw [hproduct]
    exact herror
  | true =>
    simp only [if_true]
    rw [Int.neg_mul, Int.natAbs_neg, hproduct, neg_sub_neg, ← Int.natAbs_neg, neg_sub]
    exact herror

lemma toUnits_mulNat_of_pos {x : Binary64} (h : 0 < x.toUnits) (n : Nat) :
    (x.mulNat n).toUnits = Binary64.units (x.mulNat n).rank := by
  have hsign : (x.mulNat n).negative = false := by
    have hpositive := (isPositive_iff x).2 h
    unfold Binary64.isPositive at hpositive
    rw [Bool.and_eq_true, Bool.not_eq_true'] at hpositive
    exact hpositive.1
  rw [Binary64.toUnits, hsign, if_neg Bool.false_ne_true]

lemma roundMagnitude_error (x : Binary64) :
    2 * ((x.roundMagnitude : Int) * Binary64.unit - Binary64.units x.rank).natAbs ≤
      Binary64.unit := by
  have hunit := unit_pos
  have hdiv := Nat.div_add_mod (2 * Binary64.units x.rank + Binary64.unit) (2 * Binary64.unit)
  have hmod := Nat.mod_lt (2 * Binary64.units x.rank + Binary64.unit)
    (Nat.mul_pos Nat.two_pos hunit)
  unfold Binary64.roundMagnitude
  generalize Binary64.unit = unit at hunit hdiv hmod ⊢
  rw [Nat.mul_assoc, Nat.mul_comm unit] at hdiv
  rw [← Nat.cast_mul]
  omega

lemma abs_div_le {unit k m : Nat} {z : Int} (hunit : 0 < unit) (hk : 0 < k)
    (h : k * z.natAbs ≤ m * unit) : |(z / unit : ℚ)| ≤ m / k := by
  have hunit' : (0 : ℚ) < unit := Nat.cast_pos.2 hunit
  have hk' : (0 : ℚ) < k := Nat.cast_pos.2 hk
  have habs : |(z : ℚ)| = z.natAbs := by rw [← Int.cast_abs, Int.abs_eq_natAbs, Int.cast_natCast]
  rw [abs_div, abs_of_pos hunit', habs, div_le_div_iff₀ hunit' hk', mul_comm]
  exact_mod_cast h

lemma div_lt_half_iff {unit : Nat} (hunit : 0 < unit) (u n : Int) :
    (u / unit : ℚ) < n / 2 ↔ 2 * u < n * unit := by
  have hunit' : (0 : ℚ) < unit := Nat.cast_pos.2 hunit
  rw [div_lt_div_iff₀ hunit' (by norm_num), mul_comm]
  exact_mod_cast Iff.rfl

lemma value_lt_half_iff (x : Binary64) (n : Int) :
    value x < n / 2 ↔ 2 * x.toUnits < n * Binary64.unit :=
  div_lt_half_iff unit_pos x.toUnits n

lemma abs_div_sub_one_lt_iff {unit coarse fine : Nat} (hunit : unit = coarse * fine)
    (hcoarse : 0 < coarse) (hfine : 0 < fine) (u : Int) :
    |(u / unit - 1 : ℚ)| < 1 / fine ↔ (u - unit).natAbs < coarse := by
  have hunit' : (0 : ℚ) < unit := by
    rw [hunit]
    exact Nat.cast_pos.2 (Nat.mul_pos hcoarse hfine)
  have hfine' : (0 : ℚ) < fine := Nat.cast_pos.2 hfine
  have hdistance : (u / unit - 1 : ℚ) = (u - unit : Int) / unit := by
    rw [div_sub_one hunit'.ne', Int.cast_sub, Int.cast_natCast]
  have hproduct : (1 * unit : ℚ) = coarse * fine := by rw [one_mul, hunit, Nat.cast_mul]
  rw [hdistance, abs_div, abs_of_pos hunit', div_lt_div_iff₀ hunit' hfine', hproduct,
    mul_lt_mul_iff_of_pos_right hfine', ← Int.cast_abs, Int.abs_eq_natAbs, Int.cast_natCast,
    Nat.cast_lt]

lemma abs_value_sub_one_lt_iff (x : Binary64) :
    |value x - 1| < 1 / 2 ^ 52 ↔ (x.toUnits - Binary64.unit).natAbs < Nat.pow 2 1022 := by
  have hunit : Binary64.unit = Nat.pow 2 1022 * 4503599627370496 := by decide +kernel
  have hcoarse : 0 < Nat.pow 2 1022 := by decide +kernel
  have hfine : (1 / 2 ^ 52 : ℚ) = 1 / (4503599627370496 : Nat) := by norm_num
  rw [hfine]
  exact abs_div_sub_one_lt_iff hunit hcoarse (by decide) x.toUnits

end PromptStudio.Proofs
