import PromptStudio.Binary64.Shortest
import PromptStudio.Proofs.Binary64.Rounding
import PromptStudio.Proofs.Text.Digits

/-!
# Decimals that read back

A decimal is read the same however many zeros its coefficient ends in, and the decimal that is
written for a magnitude is read as that magnitude.
-/

namespace PromptStudio.Proofs
open Binary64

/-! ## Zeros at the end of a coefficient -/

lemma ofDecimal?_zero (negative : Bool) (e : Int) :
    ofDecimal? negative 0 e = some ⟨negative, 0, by decide⟩ := rfl

lemma ofDecimal?_of_nonneg {negative : Bool} {c : Nat} {e : Int} (hc : c ≠ 0)
    (hhigh : (Nat.toDigits 10 c).length + e ≤ 400)
    (hlow : -400 ≤ (Nat.toDigits 10 c).length + e) (he : 0 ≤ e) :
    ofDecimal? negative c e = ofUnits? negative (c * Nat.pow 10 e.toNat * unit) 1 := by
  unfold ofDecimal?
  dsimp only
  rw [if_neg hc, if_neg (by omega), if_neg (by omega), if_pos he]

lemma ofDecimal?_of_neg {negative : Bool} {c : Nat} {e : Int} (hc : c ≠ 0)
    (hhigh : (Nat.toDigits 10 c).length + e ≤ 400)
    (hlow : -400 ≤ (Nat.toDigits 10 c).length + e) (he : e < 0) :
    ofDecimal? negative c e = ofUnits? negative (c * unit) (Nat.pow 10 (-e).toNat) := by
  unfold ofDecimal?
  dsimp only
  rw [if_neg hc, if_neg (by omega), if_neg (by omega), if_neg (by omega)]

lemma ofDecimal?_mul_ten (negative : Bool) (c : Nat) (e : Int) :
    ofDecimal? negative (c * 10) (e - 1) = ofDecimal? negative c e := by
  by_cases hc : c = 0
  · subst hc
    rfl
  have hc' : c * 10 ≠ 0 := by omega
  have hplace : ((Nat.toDigits 10 (c * 10)).length : Int) + (e - 1) =
      (Nat.toDigits 10 c).length + e := by
    rw [length_toDigits_mul_ten (by omega)]
    omega
  by_cases hhigh : 400 < (Nat.toDigits 10 c).length + e
  · unfold ofDecimal?
    dsimp only
    rw [hplace, if_neg hc, if_neg hc', if_pos hhigh, if_pos hhigh]
  by_cases hlow : (Nat.toDigits 10 c).length + e < -400
  · unfold ofDecimal?
    dsimp only
    rw [hplace, if_neg hc, if_neg hc', if_neg hhigh, if_neg hhigh, if_pos hlow, if_pos hlow]
  by_cases he : 0 ≤ e
  · rw [ofDecimal?_of_nonneg hc (by omega) (by omega) he]
    by_cases hone : 1 ≤ e
    · obtain ⟨k, hk⟩ : ∃ k, e.toNat = k + 1 := ⟨e.toNat - 1, by omega⟩
      have hk' : (e - 1).toNat = k := by omega
      have hmul : c * 10 * Nat.pow 10 k = c * Nat.pow 10 (k + 1) := by
        rw [Nat.mul_assoc, Nat.mul_comm 10]
        rfl
      rw [ofDecimal?_of_nonneg hc' (by omega) (by omega) (by omega), hk, hk', hmul]
    · have hzero : e = 0 := by omega
      subst hzero
      rw [ofDecimal?_of_neg hc' (by omega) (by omega) (by omega)]
      have hnum : c * 10 * unit = c * Nat.pow 10 (Int.toNat 0) * unit * 10 := by
        rw [Nat.mul_right_comm]
        exact congrArg (· * unit * 10) (Nat.mul_one c).symm
      have hden : Nat.pow 10 (-(0 - 1) : Int).toNat = 1 * 10 := rfl
      rw [hnum, hden, ofUnits?_mul negative (by decide)]
  · rw [ofDecimal?_of_neg hc (by omega) (by omega) (by omega),
      ofDecimal?_of_neg hc' (by omega) (by omega) (by omega)]
    have hk : (-(e - 1)).toNat = (-e).toNat + 1 := by omega
    have hden : Nat.pow 10 ((-e).toNat + 1) = Nat.pow 10 (-e).toNat * 10 := rfl
    rw [hk, hden, Nat.mul_right_comm, ofUnits?_mul negative (by decide)]

lemma ofDecimal?_mul_pow (negative : Bool) (c : Nat) (e : Int) (n : Nat) :
    ofDecimal? negative (c * 10 ^ n) (e - n) = ofDecimal? negative c e := by
  induction n with
  | zero => simp
  | succ n ih =>
    have he : e - ((n + 1 : Nat) : Int) = e - n - 1 := by omega
    rw [Nat.pow_succ, ← Nat.mul_assoc, he, ofDecimal?_mul_ten, ih]

lemma ofDecimal?_stripped (negative : Bool) (fuel : Nat) (d : Decimal) :
    ofDecimal? negative (d.stripped fuel).coefficient (d.stripped fuel).exponent =
      ofDecimal? negative d.coefficient d.exponent := by
  induction fuel generalizing d with
  | zero => rfl
  | succ fuel ih =>
    unfold Decimal.stripped
    by_cases hend : d.coefficient ≠ 0 ∧ d.coefficient % 10 = 0
    · rw [if_pos hend, ih]
      have hmul : d.coefficient / 10 * 10 = d.coefficient := by omega
      have hstep := ofDecimal?_mul_ten negative (d.coefficient / 10) (d.exponent + 1)
      rw [hmul, Int.add_sub_cancel] at hstep
      exact hstep.symm
    · rw [if_neg hend]

lemma ofDecimal?_sign (negative : Bool) (c : Nat) (e : Int) :
    ofDecimal? negative c e =
      (ofDecimal? false c e).map fun x => ⟨negative, x.rank, x.rank_lt⟩ := by
  unfold ofDecimal?
  dsimp only
  split
  · rfl
  split
  · rfl
  split
  · rfl
  split
  · rw [ofUnits?_sign]
  · rw [ofUnits?_sign]

/-! ## The decimal of a magnitude -/

lemma units_mul_lt {r : Nat} (h : r < rankLimit) :
    units r * Nat.pow 5 1074 < Nat.pow 10 1474 := by
  obtain ⟨n, p, q, hlimit, hp, hbound, hq⟩ : ∃ n p q, rankLimit = (n + 2) * binade ∧
      Nat.pow 5 1074 = p + 1 ∧ 2 * binade * Nat.pow 2 n * (p + 1) ≤ q ∧ Nat.pow 10 1474 = q :=
    ⟨2045, Nat.pow 5 1074 - 1, Nat.pow 10 1474, by decide +kernel, by decide +kernel,
      by decide +kernel, rfl⟩
  rw [hlimit] at h
  rw [hp, hq]
  exact Nat.lt_of_lt_of_le (Nat.mul_lt_mul_of_pos_right (units_lt_of_lt h) (Nat.succ_pos p)) hbound

/-- The exact decimal of a magnitude is read as that magnitude. -/
lemma ofDecimal?_exact (negative : Bool) {r : Nat} (hpos : 0 < r) (h : r < rankLimit) :
    ofDecimal? negative (exactDecimal (units r)).coefficient (exactDecimal (units r)).exponent =
      some ⟨negative, r, h⟩ := by
  have hunits := units_pos hpos
  have hfive : Nat.pow 10 673 ≤ Nat.pow 5 1074 := by decide +kernel
  have hlow : 673 < (Nat.toDigits 10 (units r * Nat.pow 5 1074)).length :=
    le_length_toDigits (Nat.le_trans hfive (Nat.le_mul_of_pos_left _ hunits))
  have hhigh : (Nat.toDigits 10 (units r * Nat.pow 5 1074)).length ≤ 1474 :=
    (Nat.length_toDigits_le_iff (by decide) (by decide)).2 (units_mul_lt h)
  have hcoefficient : units r * Nat.pow 5 1074 ≠ 0 :=
    Nat.mul_ne_zero (Nat.pos_iff_ne_zero.1 hunits) (Nat.pos_iff_ne_zero.1 (Nat.pow_pos (by decide)))
  unfold exactDecimal
  dsimp only
  rw [ofDecimal?_of_neg hcoefficient (by omega) (by omega) (by decide)]
  have hden : Nat.pow 10 (- -1074 : Int).toNat = 1 * (Nat.pow 5 1074 * unit) := by decide +kernel
  rw [hden, Nat.mul_assoc, ofUnits?_mul, ofUnits?_units]
  exact Nat.mul_pos (Nat.pow_pos (by decide)) (pow_two_pos 1074)

lemma readsBack_iff {r : Nat} {d : Decimal} :
    readsBack r d = true ↔
      ∃ x, ofDecimal? false d.coefficient d.exponent = some x ∧ x.rank = r := by
  unfold readsBack
  cases ofDecimal? false d.coefficient d.exponent with
  | none => simp
  | some x => simp

lemma readsBack_of_candidateAt {tie : Tie} {r : Nat} {power : Int} {d : Decimal}
    (h : candidateAt? tie r power = some d) : readsBack r d = true := by
  unfold candidateAt? at h
  dsimp only at h
  generalize (scaled (units r) power).1 = num at h
  generalize (scaled (units r) power).2 = den at h
  generalize hbelow : (⟨num / den, power⟩ : Decimal) = below at h
  generalize habove : (⟨num / den + 1, power⟩ : Decimal) = above at h
  -- Whichever of the two is proposed, it was checked first.
  cases hb : readsBack r below with
  | false =>
    cases ha : readsBack r above with
    | false =>
      rw [hb, ha] at h
      exact absurd h (by simp)
    | true =>
      rw [hb, ha] at h
      rw [← Option.some.inj h, ha]
  | true =>
    cases ha : readsBack r above with
    | false =>
      rw [hb, ha] at h
      rw [← Option.some.inj h, hb]
    | true =>
      rw [hb, ha] at h
      dsimp only at h
      split at h
      · rw [← Option.some.inj h, hb]
      split at h
      · rw [← Option.some.inj h, ha]
      cases tie with
      | even =>
        rw [← Option.some.inj h]
        split
        · exact hb
        · exact ha
      | up => rw [← Option.some.inj h, ha]

lemma readsBack_of_firstCandidate {tie : Tie} {r count more : Nat} {d : Decimal}
    (h : firstCandidate? tie r count more = some d) : readsBack r d = true := by
  obtain ⟨digits, _, hd⟩ := List.exists_of_findSome?_eq_some h
  exact readsBack_of_candidateAt hd

/-- The decimal written for a positive magnitude is read as that magnitude. -/
theorem ofDecimal?_shortest (negative : Bool) (tie : Tie) {r : Nat} (hpos : 0 < r)
    (h : r < rankLimit) :
    ofDecimal? negative (shortest tie r).coefficient (shortest tie r).exponent =
      some ⟨negative, r, h⟩ := by
  have hunfold : shortest tie r =
      ((firstCandidate? tie r 1 17).getD (exactDecimal (units r))).stripped 800 := rfl
  rw [hunfold, ofDecimal?_stripped]
  cases hc : firstCandidate? tie r 1 17 with
  | none => exact ofDecimal?_exact negative hpos h
  | some d =>
    obtain ⟨x, hx, hrank⟩ := readsBack_iff.1 (readsBack_of_firstCandidate hc)
    rw [Option.getD_some, ofDecimal?_sign, hx]
    subst hrank
    rfl

lemma shortest_ne_zero (tie : Tie) {r : Nat} (hpos : 0 < r) (h : r < rankLimit) :
    (shortest tie r).coefficient ≠ 0 := by
  intro hzero
  have hread := ofDecimal?_shortest false tie hpos h
  rw [hzero, ofDecimal?_zero] at hread
  have hrank : 0 = r := congrArg Binary64.rank (Option.some.inj hread)
  omega

end PromptStudio.Proofs
