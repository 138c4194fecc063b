import PromptStudio.Proofs.Text.Digits

/-!
# Texts that are numbers

Which texts are read as whole numbers, signed or not: an optional sign before decimal digits, zeros
in front included, whose value lies within the limit.
-/

namespace PromptStudio.Proofs
open Text.Numeral

/-- Decimal digits, at least one, with their value. -/
structure DigitsOf (ds : List Char) (n : Nat) : Prop where
  ne_nil : ds ≠ []
  digits : ∀ c ∈ ds, c.isDigit = true
  value : n = Nat.ofDigitChars 10 ds 0

/-- Digits without a sign or after one, with the number that they stand for. -/
inductive Decimal : List Char → Int → Prop where
  | unsigned {ds : List Char} {n : Nat} (h : DigitsOf ds n) : Decimal ds n
  | plus {ds : List Char} {n : Nat} (h : DigitsOf ds n) : Decimal ('+' :: ds) n
  | minus {ds : List Char} {n : Nat} (h : DigitsOf ds n) : Decimal ('-' :: ds) (-n)

lemma DigitsOf.head_ne {c : Char} {ds : List Char} {n : Nat} (h : DigitsOf (c :: ds) n) {sign : Char}
    (hsign : sign.isDigit = false) : c ≠ sign := by
  rintro rfl
  exact Bool.false_ne_true (hsign.symm.trans (h.digits c List.mem_cons_self))

section readDigits

variable {limit v n : Nat} {beyond : Fault} {cs : List Char}

lemma isDigit_of_digit? {c : Char} {d : Nat} (h : digit? c = some d) : c.isDigit = true := by
  unfold digit? at h
  split at h
  · rename_i hrange
    rw [Char.isDigit, Bool.and_eq_true, decide_eq_true_eq, decide_eq_true_eq]
    exact hrange
  · cases h

lemma exists_of_readDigits_cons {c : Char} (h : readDigits limit beyond v (c :: cs) = .ok n) :
    ∃ d, digit? c = some d ∧ v * 10 + d < limit ∧
      readDigits limit beyond (v * 10 + d) cs = .ok n := by
  rw [readDigits] at h
  split at h
  · cases h
  · rename_i d hd
    split at h
    · rename_i hlt
      exact ⟨d, hd, hlt, h⟩
    · cases h

lemma isDigit_of_readDigits (h : readDigits limit beyond v cs = .ok n) :
    ∀ c ∈ cs, c.isDigit = true := by
  induction cs generalizing v with
  | nil => exact fun c hc => absurd hc List.not_mem_nil
  | cons c cs ih =>
    obtain ⟨d, hd, -, hrest⟩ := exists_of_readDigits_cons h
    exact List.forall_mem_cons.2 ⟨isDigit_of_digit? hd, ih hrest⟩

lemma lt_of_readDigits (hv : v < limit) (h : readDigits limit beyond v cs = .ok n) :
    n < limit := by
  induction cs generalizing v with
  | nil =>
    cases h
    exact hv
  | cons c cs ih =>
    obtain ⟨d, -, hlt, hrest⟩ := exists_of_readDigits_cons h
    exact ih hlt hrest

lemma readDigits_cons_eq_ok_iff {c : Char} :
    readDigits limit beyond 0 (c :: cs) = .ok n ↔ DigitsOf (c :: cs) n ∧ n < limit := by
  constructor
  · intro h
    have hdigits := isDigit_of_readDigits h
    obtain ⟨d, -, hlt, hrest⟩ := exists_of_readDigits_cons h
    exact ⟨⟨List.cons_ne_nil c cs, hdigits, eq_of_readDigits hdigits h⟩, lt_of_readDigits hlt hrest⟩
  · rintro ⟨⟨-, hdigits, rfl⟩, hlt⟩
    exact readDigits_of_lt hdigits hlt

/-- On the way to a number below the limit nothing reaches the limit: neither ten times the value of
the digits so far, nor that with the next digit. -/
lemma exists_value_of_front {front back : List Char} {c : Char}
    (h : DigitsOf (front ++ c :: back) n) (hlt : n < limit) :
    ∃ value, readDigits limit beyond 0 front = .ok value ∧
      value * 10 + (c.toNat - '0'.toNat) < limit := by
  rw [h.value, Nat.ofDigitChars_append, Nat.ofDigitChars_cons, Nat.mul_comm 10] at hlt
  have hstep := le_ofDigitChars back
    (Nat.ofDigitChars 10 front 0 * 10 + (c.toNat - '0'.toNat))
  refine ⟨Nat.ofDigitChars 10 front 0, readDigits_of_lt (fun d hd => ?_) ?_, ?_⟩
  · exact h.digits d (List.mem_append_left _ hd)
  · omega
  · exact Nat.lt_of_le_of_lt hstep hlt

end readDigits

section numbers

variable {limit : Nat} {cs : List Char}

lemma not_digitsOf_nil {n : Nat} : ¬ DigitsOf [] n :=
  fun h => h.ne_nil rfl

/-- What is read as a number without a minus sign. -/
theorem readNat_eq_ok_iff {n : Nat} :
    readNat limit cs = .ok n ↔
      (DigitsOf cs n ∨ ∃ ds, cs = '+' :: ds ∧ DigitsOf ds n) ∧ n < limit := by
  unfold readNat
  split
  · constructor
    · intro h
      cases h
    · rintro ⟨h | ⟨ds, h, -⟩, -⟩
      · exact absurd h not_digitsOf_nil
      · cases h
  · rename_i c ds
    rw [readDigits_cons_eq_ok_iff]
    constructor
    · rintro ⟨h, hlt⟩
      exact ⟨Or.inr ⟨_, rfl, h⟩, hlt⟩
    · rintro ⟨h | ⟨ds', hds, h⟩, hlt⟩
      · exact absurd rfl (h.head_ne (by decide))
      · cases hds
        exact ⟨h, hlt⟩
  · rename_i hnil hplus
    cases cs with
    | nil => exact absurd rfl hnil
    | cons c cs =>
      rw [readDigits_cons_eq_ok_iff]
      constructor
      · rintro ⟨h, hlt⟩
        exact ⟨Or.inl h, hlt⟩
      · rintro ⟨h | ⟨ds, hds, h⟩, hlt⟩
        · exact ⟨h, hlt⟩
        · -- A plus sign with digits after it has been taken off before.
          cases ds with
          | nil => exact absurd h not_digitsOf_nil
          | cons d ds => exact absurd hds (hplus d ds)

lemma eq_of_digitsOf_signed {m n : Nat} (hm : DigitsOf cs m ∨ ∃ ds, cs = '+' :: ds ∧ DigitsOf ds m)
    (hn : DigitsOf cs n ∨ ∃ ds, cs = '+' :: ds ∧ DigitsOf ds n) : m = n := by
  have hreadm : readNat (m + n + 1) cs = .ok m := readNat_eq_ok_iff.2 ⟨hm, by omega⟩
  have hreadn : readNat (m + n + 1) cs = .ok n := readNat_eq_ok_iff.2 ⟨hn, by omega⟩
  exact Except.ok.inj (hreadm.symm.trans hreadn)

lemma digitsOf_zeros (zeros n : Nat) : DigitsOf (List.replicate zeros '0' ++ digits n) n where
  ne_nil := List.append_ne_nil_of_right_ne_nil _ Nat.toDigits_ne_nil
  digits c hc := by
    rcases List.mem_append.1 hc with hzero | hdigit
    · rw [List.eq_of_mem_replicate hzero]
      decide
    · exact isDigit_of_mem_digits hdigit
  value := by
    rw [Nat.ofDigitChars_append, Nat.ofDigitChars_replicate_zero, Nat.mul_zero]
    exact Nat.ofDigitChars_ten_toDigits.symm

end numbers

end PromptStudio.Proofs
