import Mathlib.Order.Monotone.Basic
import Mathlib.Tactic.Ring
import PromptStudio.Binary64.Basic

/-!
# Rounding to the nearest rank

A magnitude lies between two ranks and is rounded to the nearer one, so at most by its 2^53rd part.
Every rank rounds to itself, and rounding a fraction does not depend on how it is written down.
-/

namespace PromptStudio.Proofs
open Binary64

lemma pow_two_pos (n : Nat) : 0 < Nat.pow 2 n := Nat.pow_pos (by decide)

lemma pow_two_succ (n : Nat) : Nat.pow 2 (n + 1) = 2 * Nat.pow 2 n := Nat.mul_comm _ _

lemma units_of_binade {q m : Nat} (hq : 2 ≤ q) (hm : m ≤ binade) :
    units (q * binade + m) = (binade + m) * Nat.pow 2 (q - 1) := by
  have hlarge : ¬ q * binade + m < 2 * binade := by
    have hle : 2 * binade ≤ q * binade := Nat.mul_le_mul_right binade hq
    omega
  rw [units, if_neg hlarge, Nat.mul_comm q, Nat.mul_add_div (by decide), Nat.mul_add_mod]
  by_cases hend : m = binade
  · obtain ⟨k, rfl⟩ : ∃ k, q = k + 1 := ⟨q - 1, by omega⟩
    rw [hend, Nat.div_self (by decide), Nat.mod_self, Nat.add_sub_cancel, Nat.add_sub_cancel,
      pow_two_succ]
    ring
  · have hlt : m < binade := by omega
    rw [Nat.div_eq_of_lt hlt, Nat.mod_eq_of_lt hlt, Nat.add_zero]

lemma units_of_small {r : Nat} (h : r < 2 * binade) : units r = r := if_pos h

lemma rank_split {r : Nat} (h : ¬ r < 2 * binade) :
    ∃ q m, 2 ≤ q ∧ m < binade ∧ r = q * binade + m := by
  refine ⟨r / binade, r % binade, ?_, Nat.mod_lt r (by decide), ?_⟩
  · rw [Nat.le_div_iff_mul_le (by decide)]
    omega
  · rw [Nat.mul_comm]
    exact (Nat.div_add_mod r binade).symm

lemma units_lt_succ (r : Nat) : units r < units (r + 1) := by
  by_cases hsmall : r < 2 * binade
  · rw [units_of_small hsmall]
    by_cases hnext : r + 1 < 2 * binade
    · rw [units_of_small hnext]
      exact Nat.lt_succ_self r
    · have hr : r + 1 = 2 * binade + 0 := by omega
      have hunits : units (2 * binade + 0) = 2 * binade := by decide +kernel
      rw [← hunits, ← hr] at hsmall
      exact hsmall
  · obtain ⟨q, m, hq, hm, rfl⟩ := rank_split hsmall
    rw [Nat.add_assoc, units_of_binade hq hm, units_of_binade hq (by omega)]
    exact Nat.mul_lt_mul_of_pos_right (by omega) (pow_two_pos _)

lemma units_strictMono : StrictMono units :=
  strictMono_nat_of_lt_succ units_lt_succ

/-! ## The rank below a magnitude -/

/-- A magnitude from two binades on, by the spacing of the ranks around it. -/
lemma exists_spacing {u : Nat} (h : ¬ u < 2 * binade) :
    ∃ k m, m < binade ∧ floorRank u = (k + 2) * binade + m ∧
      (binade + m) * Nat.pow 2 (k + 1) ≤ u ∧ u < (binade + m + 1) * Nat.pow 2 (k + 1) := by
  have hpos : u ≠ 0 := fun hzero => h (hzero ▸ by decide)
  have hlog : 53 ≤ u.log2 := (Nat.le_log2 hpos).2 (Nat.le_of_not_lt h)
  obtain ⟨k, hk⟩ : ∃ k, u.log2 = 52 + (k + 1) := ⟨u.log2 - 53, by omega⟩
  have hlow : binade * Nat.pow 2 (k + 1) ≤ u := by
    have hself := Nat.log2_self_le hpos
    rw [hk, Nat.pow_add] at hself
    exact hself
  have hhigh : u < 2 * binade * Nat.pow 2 (k + 1) := by
    have hself := Nat.lt_log2_self (n := u)
    rw [hk, Nat.pow_succ, Nat.pow_add, Nat.mul_comm _ 2, ← Nat.mul_assoc] at hself
    exact hself
  have hfirst : binade ≤ u / Nat.pow 2 (k + 1) := (Nat.le_div_iff_mul_le (pow_two_pos _)).2 hlow
  have hlast : u / Nat.pow 2 (k + 1) < 2 * binade := (Nat.div_lt_iff_lt_mul (pow_two_pos _)).2 hhigh
  obtain ⟨m, hm⟩ := Nat.exists_eq_add_of_le hfirst
  refine ⟨k, m, by omega, ?_, ?_, ?_⟩
  · unfold floorRank
    rw [if_neg h, hk, Nat.add_sub_cancel_left]
    dsimp only
    rw [hm]
    ring
  · rw [← hm]
    exact Nat.div_mul_le_self u _
  · rw [← hm, Nat.succ_mul]
    exact Nat.lt_div_mul_add (pow_two_pos _)

lemma units_floorRank (u : Nat) : units (floorRank u) ≤ u ∧ u < units (floorRank u + 1) := by
  by_cases hsmall : u < 2 * binade
  · have hrank : floorRank u = u := if_pos hsmall
    have hunits := units_lt_succ u
    rw [units_of_small hsmall] at hunits
    rw [hrank, units_of_small hsmall]
    exact ⟨Nat.le_refl u, hunits⟩
  · obtain ⟨k, m, hm, hrank, hlow, hhigh⟩ := exists_spacing hsmall
    rw [hrank, Nat.add_assoc, units_of_binade (by omega) (by omega),
      units_of_binade (by omega) (by omega)]
    exact ⟨hlow, hhigh⟩

lemma floorRank_units (r : Nat) : floorRank (units r) = r := by
  obtain ⟨hlow, hhigh⟩ := units_floorRank (units r)
  have hle := units_strictMono.le_iff_le.1 hlow
  have hlt := units_strictMono.lt_iff_lt.1 hhigh
  omega

theorem nearestRank_units (r : Nat) : nearestRank (units r) 1 = r := by
  have hlt := units_lt_succ r
  unfold nearestRank
  rw [Nat.div_one, floorRank_units]
  rw [if_pos (by omega)]

lemma nearestRank_eq_or (u : Nat) :
    nearestRank u 1 = floorRank u ∨ nearestRank u 1 = floorRank u + 1 := by
  unfold nearestRank
  rw [Nat.div_one]
  dsimp only
  split
  · exact Or.inl rfl
  split
  · exact Or.inr rfl
  split
  · exact Or.inl rfl
  · exact Or.inr rfl

lemma two_mul_distance_le (u : Nat) :
    2 * ((units (nearestRank u 1) : Int) - u).natAbs ≤
      units (floorRank u + 1) - units (floorRank u) := by
  have hfloor := units_floorRank u
  unfold nearestRank
  rw [Nat.div_one]
  dsimp only
  split
  · omega
  split
  · omega
  split <;> omega

/-- A whole number of units is rounded by at most its 2^53rd part. -/
theorem nearestRank_error (u : Nat) :
    2 * binade * ((units (nearestRank u 1) : Int) - u).natAbs ≤ u := by
  have hnear := two_mul_distance_le u
  by_cases hsmall : u < 2 * binade
  · have hunits := units_of_small hsmall
    have hrank : nearestRank u 1 = u := by
      have hround := nearestRank_units u
      rw [hunits] at hround
      exact hround
    rw [hrank, hunits, Int.sub_self]
    exact Nat.zero_le u
  · obtain ⟨k, m, hm, hrank, hlow, hhigh⟩ := exists_spacing hsmall
    have hspacing : units (floorRank u + 1) - units (floorRank u) = Nat.pow 2 (k + 1) := by
      rw [hrank, Nat.add_assoc, units_of_binade (by omega) (by omega),
        units_of_binade (by omega) (by omega), ← Nat.add_assoc, Nat.succ_mul]
      exact Nat.add_sub_cancel_left _ _
    rw [hspacing] at hnear
    calc 2 * binade * ((units (nearestRank u 1) : Int) - u).natAbs
        = binade * (2 * ((units (nearestRank u 1) : Int) - u).natAbs) := by ring
      _ ≤ binade * Nat.pow 2 (k + 1) := Nat.mul_le_mul_left binade hnear
      _ ≤ (binade + m) * Nat.pow 2 (k + 1) := Nat.mul_le_mul_right _ (Nat.le_add_right _ _)
      _ ≤ u := hlow

/-- Rounding a fraction does not depend on how it is written down. -/
theorem nearestRank_mul {k : Nat} (hk : 0 < k) (num den : Nat) :
    nearestRank (num * k) (den * k) = nearestRank num den := by
  unfold nearestRank
  rw [Nat.mul_div_mul_right _ _ hk]
  have hscale (a b : Nat) : a * k < b * k ↔ a < b := Nat.mul_lt_mul_right hk
  have hnum : 2 * (num * k) = 2 * num * k := (Nat.mul_assoc _ _ _).symm
  dsimp only
  simp only [hnum, ← Nat.mul_assoc, hscale]

lemma ofUnits?_mul (negative : Bool) {k : Nat} (hk : 0 < k) (num den : Nat) :
    ofUnits? negative (num * k) (den * k) = ofUnits? negative num den := by
  unfold ofUnits?
  simp only [nearestRank_mul hk]

lemma ofUnits?_sign (negative : Bool) (num den : Nat) :
    ofUnits? negative num den =
      (ofUnits? false num den).map fun x => ⟨negative, x.rank, x.rank_lt⟩ := by
  unfold ofUnits?
  dsimp only
  split <;> rfl

lemma ofUnits?_units (negative : Bool) {r : Nat} (h : r < rankLimit) :
    ofUnits? negative (units r) 1 = some ⟨negative, r, h⟩ := by
  unfold ofUnits?
  simp only [nearestRank_units, dif_pos h]

lemma units_lt_of_lt {r n : Nat} (h : r < (n + 2) * binade) :
    units r < 2 * binade * Nat.pow 2 n := by
  have hnext := units_strictMono h
  rw [← Nat.add_zero ((n + 2) * binade), units_of_binade (by omega) (Nat.zero_le _),
    Nat.add_zero, Nat.add_succ_sub_one, pow_two_succ, Nat.mul_left_comm, ← Nat.mul_assoc] at hnext
  exact hnext

lemma units_pos {r : Nat} (h : 0 < r) : 0 < units r := by
  obtain ⟨k, rfl⟩ : ∃ k, r = k + 1 := ⟨r - 1, by omega⟩
  exact Nat.lt_of_le_of_lt (Nat.zero_le _) (units_lt_succ k)

end PromptStudio.Proofs
