import Mathlib.Algebra.Order.Group.MinMax
import Mathlib.Tactic.FieldSimp
import Mathlib.Tactic.Linarith
import PromptStudio.Prompt.Render
import PromptStudio.Proofs.Binary64.Order
import PromptStudio.Proofs.Text.Digits

/-!
# Weights of fragments

A weight counts as emphasis if it is above zero and not one. Models with a notation for weights
have it written as a decimal of at most two places. For the others a text is written once, twice or
three times, as its weight rounds.
-/

namespace PromptStudio.Proofs
open Prompt

/-! ## Repetition -/

/-- How often a text is written for its weight. -/
def timesByWeight (weight : Binary64) : Nat :=
  if value weight < 3 / 2 then 1 else if value weight < 5 / 2 then 2 else 3

lemma toUnits_neutralWeight : neutralWeight.toUnits = Binary64.unit := by decide +kernel

lemma toUnits_maxRepeats : maxRepeats.toUnits = 3 * Binary64.unit := by decide +kernel

lemma neutralWeight_le_maxRepeats : neutralWeight.position ≤ maxRepeats.position := by
  decide +kernel

lemma round_moved {unit u : Nat} {weight : Int} (hunit : 0 < unit)
    (h : (u : Int) = max (unit : Int) (min weight (3 * unit))) :
    (2 * u + unit) / (2 * unit) =
      if 2 * weight < 3 * unit then 1 else if 2 * weight < 5 * unit then 2 else 3 := by
  split
  · exact Nat.div_eq_of_lt_le (by omega) (by omega)
  split
  · exact Nat.div_eq_of_lt_le (by omega) (by omega)
  · exact Nat.div_eq_of_lt_le (by omega) (by omega)

lemma repeats_eq (weight : Binary64) : repeats weight = timesByWeight weight := by
  have hmoved := toUnits_clamp weight neutralWeight_le_maxRepeats
  rw [toUnits_neutralWeight, toUnits_maxRepeats] at hmoved
  have hpos : 0 < (weight.clamp neutralWeight maxRepeats).toUnits := by
    rw [hmoved]
    exact Int.lt_of_lt_of_le (Int.natCast_pos.2 unit_pos) (Int.le_max_left _ _)
  have hthree : value weight < 3 / 2 ↔ 2 * weight.toUnits < 3 * Binary64.unit := by
    simpa only [Int.cast_ofNat] using value_lt_half_iff weight 3
  have hfive : value weight < 5 / 2 ↔ 2 * weight.toUnits < 5 * Binary64.unit := by
    simpa only [Int.cast_ofNat] using value_lt_half_iff weight 5
  rw [timesByWeight, if_congr hthree rfl (if_congr hfive rfl rfl)]
  exact round_moved unit_pos ((units_rank_of_pos hpos).trans hmoved)

/-! ## Emphasis -/

lemma emphasis_eq_none_iff (f : Fragment) :
    f.emphasis = none ↔ value f.weight ≤ 0 ∨ |value f.weight - 1| < 1 / 2 ^ 52 := by
  rw [value_nonpos_iff, abs_value_sub_one_lt_iff, ← Int.not_lt, ← isPositive_iff]
  unfold Fragment.emphasis
  simp only [Bool.or_eq_true, Bool.not_eq_true', decide_eq_true_eq, ite_eq_left_iff, reduceCtorEq,
    imp_false, not_not, Bool.not_eq_true]

/-! ## Weights in writing -/

/-- A weight from 0.2 to 2 in hundredths, without zeros at its end. -/
def weightText (weight : Binary64) : String :=
  String.ofList (hundredthsChars (hundredths weight))

/-- A decimal for so many hundredths: the digits of the whole part and, behind a point, at most
two places, of which the last is not zero. -/
def WritesHundredths (cs : List Char) (n : Nat) : Prop :=
  ∃ places : List Char,
    cs = Text.Numeral.digits (n / 100) ++ (if places = [] then [] else '.' :: places) ∧
    (∀ c ∈ places, c.isDigit = true) ∧ places.length ≤ 2 ∧ places.getLast? ≠ some '0' ∧
    Nat.ofDigitChars 10 places 0 * Nat.pow 10 (2 - places.length) = n % 100

lemma writes_hundredthsChars (n : Nat) : WritesHundredths (hundredthsChars n) n := by
  unfold hundredthsChars
  dsimp only
  by_cases hwhole : n % 100 = 0
  · rw [if_pos hwhole]
    exact ⟨[], (List.append_nil _).symm, by simp, by simp, by simp, hwhole.symm⟩
  rw [if_neg hwhole]
  by_cases htenths : n % 10 = 0
  · have hlt : n / 10 % 10 < 10 := Nat.mod_lt _ (by decide)
    have hlength : (Text.Numeral.digits (n / 10 % 10)).length = 1 :=
      congrArg List.length (Nat.toDigits_of_lt_base hlt)
    have hvalue : Nat.ofDigitChars 10 (Text.Numeral.digits (n / 10 % 10)) 0 = n / 10 % 10 :=
      Nat.ofDigitChars_ten_toDigits
    rw [if_pos htenths]
    refine ⟨Text.Numeral.digits (n / 10 % 10), ?_, fun c => isDigit_of_mem_digits, by omega, ?_, ?_⟩
    · rw [if_neg (digits_ne_nil _)]
    · rw [getLast?_digits]
      exact some_digitChar_ne (by omega)
    · rw [hlength, hvalue]
      change n / 10 % 10 * 10 = n % 100
      omega
  · have hlength := length_padded Nat.two_pos (Nat.mod_lt n (by decide : 0 < 100))
    rw [if_neg htenths]
    refine ⟨Text.Numeral.padded 2 (n % 100), ?_, fun c => isDigit_of_mem_padded, hlength.le, ?_, ?_⟩
    · rw [if_neg (padded_ne_nil _ _)]
    · rw [getLast?_padded]
      exact some_digitChar_ne (by omega)
    · rw [hlength, ofDigitChars_padded]
      exact Nat.mul_one _

/-- The least weight that is written is the double nearest to 1/5, and the largest is two. -/
lemma weight_range :
    minWeight.position ≤ maxWeight.position ∧ maxWeight.toUnits = 2 * Binary64.unit ∧
      (0 < minWeight.toUnits ∧ minWeight.toUnits ≤ 2 * Binary64.unit) ∧
      2 * Binary64.binade * (5 * minWeight.toUnits - Binary64.unit).natAbs ≤ Binary64.unit := by
  decide +kernel

lemma nearestRank_lt {u : Nat} (h : u ≤ 256 * Binary64.unit) :
    Binary64.nearestRank u 1 < Binary64.rankLimit := by
  have hunits : Binary64.units (1031 * Binary64.binade) = 256 * Binary64.unit := by decide +kernel
  have hfloor : Binary64.floorRank u ≤ 1031 * Binary64.binade := by
    apply units_strictMono.le_iff_le.1
    rw [hunits]
    exact Nat.le_trans (units_floorRank u).1 h
  have hlimit : 1031 * Binary64.binade + 1 < Binary64.rankLimit := by decide
  rcases nearestRank_eq_or u with hrank | hrank
  · omega
  · omega

lemma hundredths_error (weight : Binary64) :
    4 * Binary64.binade * ((hundredths weight : Int) * Binary64.unit -
        (weight.clamp minWeight maxWeight).toUnits * 100).natAbs ≤
      (2 * Binary64.binade + 400) * Binary64.unit := by
  obtain ⟨hrange, hmax, hmin, -⟩ := weight_range
  have hmoved := toUnits_clamp weight hrange
  rw [hmax] at hmoved
  have hunit := unit_pos
  unfold hundredths
  generalize weight.clamp minWeight maxWeight = moved at hmoved ⊢
  have hpos : 0 < moved.toUnits := by omega
  have hunits := units_rank_of_pos hpos
  have hrank : Binary64.nearestRank (Binary64.units moved.rank * 100) 1 < Binary64.rankLimit :=
    nearestRank_lt (by omega)
  have herror := toUnits_mulNat_error hrank
  have hround := roundMagnitude_error (moved.mulNat 100)
  rw [← toUnits_mulNat_of_pos hpos] at hround
  generalize ((moved.mulNat 100).roundMagnitude : Int) * Binary64.unit = whole at hround ⊢
  generalize (moved.mulNat 100).toUnits = product at herror hround
  generalize Binary64.unit = unit at hround hmoved hunit hmin ⊢
  simp only [Binary64.binade] at herror ⊢
  omega

lemma value_maxWeight : value maxWeight = 2 := by
  have hunit : (Binary64.unit : ℚ) ≠ 0 := Nat.cast_ne_zero.2 unit_pos.ne'
  rw [value, weight_range.2.1, Int.cast_mul, Int.cast_natCast, mul_div_cancel_right₀ _ hunit,
    Int.cast_ofNat]

lemma value_minWeight_error : |value minWeight - 1 / 5| ≤ 1 / 10 / 2 ^ 52 := by
  have hunit : (Binary64.unit : ℚ) ≠ 0 := Nat.cast_ne_zero.2 unit_pos.ne'
  have hfifth := weight_range.2.2.2
  have herror := abs_div_le unit_pos (by decide) (hfifth.trans_eq (one_mul _).symm)
  have hdifference : ((5 * minWeight.toUnits - Binary64.unit : Int) / Binary64.unit : ℚ) =
      5 * (value minWeight - 1 / 5) := by
    rw [value, Int.cast_sub, Int.cast_mul, Int.cast_natCast, Int.cast_ofNat]
    generalize (Binary64.unit : ℚ) = unit at hunit ⊢
    field_simp
  rw [hdifference, abs_mul, abs_of_pos (by norm_num : (0 : ℚ) < 5)] at herror
  simp only [Binary64.binade] at herror
  norm_num at herror ⊢
  linarith

lemma value_hundredths_error (weight : Binary64) :
    |(hundredths weight : ℚ) - 100 * value (weight.clamp minWeight maxWeight)| ≤
      1 / 2 + 100 / 2 ^ 52 := by
  have hunit : (Binary64.unit : ℚ) ≠ 0 := Nat.cast_ne_zero.2 unit_pos.ne'
  have herror := abs_div_le unit_pos (by decide) (hundredths_error weight)
  have hdifference : (((hundredths weight : Int) * Binary64.unit -
        (weight.clamp minWeight maxWeight).toUnits * 100 : Int) / Binary64.unit : ℚ) =
      hundredths weight - 100 * value (weight.clamp minWeight maxWeight) := by
    rw [value, Int.cast_sub, Int.cast_mul, Int.cast_mul, Int.cast_natCast, Int.cast_natCast,
      Int.cast_ofNat]
    generalize (Binary64.unit : ℚ) = unit at hunit ⊢
    field_simp
  rw [hdifference] at herror
  simp only [Binary64.binade] at herror
  norm_num at herror ⊢
  linarith

/-- A weight is written to the nearest hundredth, but for the 2^-45 of one that may be lost on the
way through doubles. -/
theorem weightText_nearest (weight : Binary64) :
    ∃ n : Nat, WritesHundredths (weightText weight).toList n ∧
      |(n : ℚ) - 100 * max (1 / 5) (min (value weight) 2)| ≤ 1 / 2 + 1 / 2 ^ 45 := by
  refine ⟨hundredths weight, ?_, ?_⟩
  · rw [weightText, String.toList_ofList]
    exact writes_hundredthsChars _
  have hround := value_hundredths_error weight
  rw [value_clamp weight weight_range.1, value_maxWeight] at hround
  have hmin := (abs_max_sub_max_le_abs (value minWeight) (1 / 5) (min (value weight) 2)).trans
    value_minWeight_error
  generalize max (value minWeight) (min (value weight) 2) = moved at hround hmin
  generalize max (1 / 5) (min (value weight) 2) = asked at hmin ⊢
  rw [abs_le] at hround hmin ⊢
  constructor
  · linarith
  · linarith

end PromptStudio.Proofs
