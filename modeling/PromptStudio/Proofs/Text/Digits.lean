import Mathlib.Tactic.ByContra
import Mathlib.Tactic.Lemma
import PromptStudio.Text.Numeral

/-!
# Decimal digits

The digits of a number: how many there are, which comes first, and what reading them gives.
-/

namespace PromptStudio.Proofs

lemma exists_of_map {ε α β : Type} {x : Except ε α} {wrap : α → β} {b : β}
    (h : x.map wrap = .ok b) : ∃ a, x = .ok a ∧ wrap a = b := by
  cases x with
  | error e => cases h
  | ok a => exact ⟨a, rfl, Except.ok.inj h⟩

lemma isDigit_of_mem_digits {n : Nat} {c : Char} (h : c ∈ Nat.toDigits 10 n) : c.isDigit = true :=
  Nat.isDigit_of_mem_toDigits (by decide) (by decide) h

lemma length_toDigits_mul_ten {n : Nat} (h : 0 < n) :
    (Nat.toDigits 10 (n * 10)).length = (Nat.toDigits 10 n).length + 1 := by
  have hbase : 10 ≤ n * 10 := by omega
  rw [Nat.toDigits_of_base_le (by decide) hbase, Nat.mul_div_cancel n (by decide),
    List.length_append, List.length_singleton]

lemma le_length_toDigits {n k : Nat} (h : Nat.pow 10 k ≤ n) :
    k < (Nat.toDigits 10 n).length := by
  by_contra hle
  cases k with
  | zero => exact hle Nat.length_toDigits_pos
  | succ k =>
    have hlt := (Nat.length_toDigits_le_iff (by decide) (Nat.succ_pos k)).1 (Nat.le_of_not_lt hle)
    exact Nat.lt_irrefl _ (Nat.lt_of_lt_of_le hlt h)

lemma head_toDigits {n : Nat} (h : 0 < n) : (Nat.toDigits 10 n).head? ≠ some '0' := by
  induction n using Nat.strongRecOn with
  | _ n ih =>
    by_cases hsmall : n < 10
    · rw [Nat.toDigits_of_lt_base hsmall, List.head?_cons]
      intro hzero
      have hn := Nat.digitChar_eq_zero.1 (Option.some.inj hzero)
      omega
    · rw [Nat.toDigits_of_base_le (by decide) (Nat.le_of_not_lt hsmall),
        List.head?_append, Option.or_of_isSome (List.isSome_head?.2 Nat.toDigits_ne_nil)]
      exact ih (n / 10) (by omega) (by omega)

open Text.Numeral

lemma digits_ne_nil (n : Nat) : digits n ≠ [] :=
  Nat.toDigits_ne_nil

lemma digit?_of_isDigit {c : Char} (h : c.isDigit = true) :
    digit? c = some (c.toNat - '0'.toNat) := by
  unfold digit?
  rw [Char.isDigit, Bool.and_eq_true, decide_eq_true_eq, decide_eq_true_eq] at h
  rw [if_pos ⟨h.1, h.2⟩]
  rfl

lemma le_ofDigitChars (cs : List Char) (v : Nat) : v ≤ Nat.ofDigitChars 10 cs v := by
  induction cs generalizing v with
  | nil => exact Nat.le_refl v
  | cons c cs ih =>
    rw [Nat.ofDigitChars_cons]
    have hle := ih (10 * v + (c.toNat - '0'.toNat))
    omega

lemma eq_of_readDigits {limit : Nat} {beyond : Fault} {cs : List Char} {v n : Nat}
    (hd : ∀ c ∈ cs, c.isDigit = true) (h : readDigits limit beyond v cs = .ok n) :
    n = Nat.ofDigitChars 10 cs v := by
  induction cs generalizing v with
  | nil => exact (Except.ok.inj h).symm
  | cons c cs ih =>
    rw [readDigits, digit?_of_isDigit (hd c List.mem_cons_self)] at h
    dsimp only at h
    split at h
    · rw [Nat.ofDigitChars_cons, Nat.mul_comm 10]
      exact ih (fun d hmem => hd d (List.mem_cons_of_mem c hmem)) h
    · exact absurd h (by simp)

lemma readDigits_of_lt {limit : Nat} {beyond : Fault} {cs : List Char} {v : Nat}
    (hd : ∀ c ∈ cs, c.isDigit = true) (h : Nat.ofDigitChars 10 cs v < limit) :
    readDigits limit beyond v cs = .ok (Nat.ofDigitChars 10 cs v) := by
  induction cs generalizing v with
  | nil => rfl
  | cons c cs ih =>
    rw [Nat.ofDigitChars_cons, Nat.mul_comm 10] at h ⊢
    rw [readDigits, digit?_of_isDigit (hd c List.mem_cons_self)]
    dsimp only
    have hfirst := le_ofDigitChars cs (v * 10 + (c.toNat - '0'.toNat))
    rw [if_pos (Nat.lt_of_le_of_lt hfirst h)]
    exact ih (fun d hmem => hd d (List.mem_cons_of_mem c hmem)) h

lemma readNat_digits (limit n : Nat) :
    readNat limit (digits n) = readDigits limit .tooLarge 0 (digits n) := by
  unfold digits
  cases hcs : Nat.toDigits 10 n with
  | nil => exact absurd hcs Nat.toDigits_ne_nil
  | cons c cs =>
    have hc : c.isDigit = true :=
      isDigit_of_mem_digits (n := n) (by rw [hcs]; exact List.mem_cons_self)
    unfold readNat
    split
    · rename_i heq
      exact absurd heq (by simp)
    · rename_i heq
      rw [(List.cons.inj heq).1] at hc
      exact absurd hc (by decide)
    · rfl

lemma readInt_of_no_minus (limit : Nat) {cs : List Char} (h : ∀ c ds, cs ≠ '-' :: c :: ds) :
    readInt limit cs = (readNat limit cs).map fun m : Nat => (m : Int) := by
  unfold readInt
  split
  · rfl
  · exact absurd rfl (h _ _)
  · cases readNat limit cs with
    | error e => rfl
    | ok m => rfl

lemma readInt_minus (limit : Nat) {cs : List Char} (h : cs ≠ []) :
    readInt limit ('-' :: cs) =
      (readDigits (limit + 1) .tooSmall 0 cs).map fun m : Nat => -(m : Int) := by
  cases cs with
  | nil => exact absurd rfl h
  | cons c cs =>
    rw [readInt]
    cases readDigits (limit + 1) .tooSmall 0 (c :: cs) with
    | error e => rfl
    | ok m => rfl

lemma readInt_digits (limit n : Nat) :
    readInt limit (digits n) = (readNat limit (digits n)).map fun m : Nat => (m : Int) := by
  apply readInt_of_no_minus
  intro c ds hdigits
  have hsign : '-' ∈ digits n := by
    rw [hdigits]
    exact List.mem_cons_self
  exact absurd (isDigit_of_mem_digits hsign) (by decide)

/-- The text of an integer is read as no other integer. -/
theorem eq_of_readInt_intDigits {limit : Nat} {i j : Int}
    (h : readInt limit (intDigits i) = .ok j) : j = i := by
  unfold intDigits at h
  have hd (c : Char) (hc : c ∈ digits i.natAbs) : c.isDigit = true := isDigit_of_mem_digits hc
  have hvalue : Nat.ofDigitChars 10 (digits i.natAbs) 0 = i.natAbs := Nat.ofDigitChars_ten_toDigits
  by_cases hneg : i < 0
  · rw [if_pos hneg, readInt_minus limit (digits_ne_nil _)] at h
    obtain ⟨n, hread, hj⟩ := exists_of_map h
    have hn := (eq_of_readDigits hd hread).trans hvalue
    omega
  · rw [if_neg hneg, readInt_digits, readNat_digits] at h
    obtain ⟨n, hread, hj⟩ := exists_of_map h
    have hn := (eq_of_readDigits hd hread).trans hvalue
    omega

/-- The text of an integer within the limit is read as that integer. -/
theorem readInt_intDigits {limit : Nat} {i : Int} (hlow : -(limit : Int) ≤ i) (hhigh : i < limit) :
    readInt limit (intDigits i) = .ok i := by
  unfold intDigits
  have hd (c : Char) (hc : c ∈ digits i.natAbs) : c.isDigit = true := isDigit_of_mem_digits hc
  have hvalue : Nat.ofDigitChars 10 (digits i.natAbs) 0 = i.natAbs := Nat.ofDigitChars_ten_toDigits
  by_cases hneg : i < 0
  · rw [if_pos hneg, readInt_minus limit (digits_ne_nil _),
      readDigits_of_lt hd (by omega), hvalue]
    have hi : -(i.natAbs : Int) = i := by omega
    exact congrArg Except.ok hi
  · rw [if_neg hneg, readInt_digits, readNat_digits, readDigits_of_lt hd (by omega), hvalue]
    have hi : (i.natAbs : Int) = i := by omega
    exact congrArg Except.ok hi

/-! ## Digits up to a width -/

lemma ofDigitChars_padded (width n : Nat) : Nat.ofDigitChars 10 (padded width n) 0 = n := by
  unfold padded digits
  induction width - (Nat.toDigits 10 n).length with
  | zero => exact Nat.ofDigitChars_ten_toDigits
  | succ k ih =>
    rw [List.replicate_succ, List.cons_append, Nat.ofDigitChars_cons]
    exact ih

lemma padded_injective (width : Nat) : Function.Injective (padded width) := by
  intro m n h
  rw [← ofDigitChars_padded width m, h, ofDigitChars_padded]

lemma length_padded {width n : Nat} (hwidth : 0 < width) (h : n < Nat.pow 10 width) :
    (padded width n).length = width := by
  have hle : (digits n).length ≤ width := (Nat.length_toDigits_le_iff (by decide) hwidth).2 h
  rw [padded, List.length_append, List.length_replicate]
  omega

lemma padded_ne_nil (width n : Nat) : padded width n ≠ [] :=
  List.append_ne_nil_of_right_ne_nil _ (digits_ne_nil n)

lemma getLast?_digits (n : Nat) : (digits n).getLast? = some (Nat.digitChar (n % 10)) := by
  unfold digits
  by_cases hsmall : n < 10
  · rw [Nat.toDigits_of_lt_base hsmall, Nat.mod_eq_of_lt hsmall, List.getLast?_singleton]
  · rw [Nat.toDigits_of_base_le (by decide) (Nat.le_of_not_lt hsmall), List.getLast?_concat]

lemma getLast?_padded (width n : Nat) :
    (padded width n).getLast? = some (Nat.digitChar (n % 10)) := by
  rw [padded, List.getLast?_append, getLast?_digits, Option.some_or]

lemma some_digitChar_ne {n : Nat} (h : n ≠ 0) : some (Nat.digitChar n) ≠ some '0' := by
  intro hzero
  exact h (Nat.digitChar_eq_zero.1 (Option.some.inj hzero))

lemma isDigit_of_mem_padded {width n : Nat} {c : Char} (h : c ∈ padded width n) :
    c.isDigit = true := by
  rcases List.mem_append.1 h with hzero | hdigit
  · rw [List.eq_of_mem_replicate hzero]
    rfl
  · exact isDigit_of_mem_digits hdigit

end PromptStudio.Proofs
