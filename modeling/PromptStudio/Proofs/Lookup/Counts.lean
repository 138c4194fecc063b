import PromptStudio.Proofs.Lookup.Spellings

/-!
# Numbers of results

The same number may be given with white space around it, with a plus sign or without, and with any
number of zeros in front. All that counts is the number: it is taken if 64 bits hold it, and the more
results are asked for, the more are wanted.
-/

namespace PromptStudio.Proofs
open Lookup

lemma AsksFor.exists_number {raw : Option String} {t : String} {n : Nat} (h : AsksFor raw n)
    (hgiven : raw.bind Text.nonBlank? = some t) :
    ∃ m, (DigitsOf t.toList m ∨ ∃ ds, t.toList = '+' :: ds ∧ DigitsOf ds m) ∧
      m < Text.Numeral.limit64 ∧ n = max 5 (min m 50) := by
  cases h with
  | standard hblank => cases hblank.symm.trans hgiven
  | given hgiven' hnumber hlimit =>
    obtain rfl := Option.some.inj (hgiven'.symm.trans hgiven)
    exact ⟨_, hnumber, hlimit, rfl⟩

/-- A number as it may be given: a plus sign or none, zeros and its digits, with white space around
them. -/
structure WrittenNumber where
  before : List Char
  plus : Bool
  zeros : Nat
  number : Nat
  after : List Char
  blank_before : ∀ c ∈ before, Text.isBlank c = true
  blank_after : ∀ c ∈ after, Text.isBlank c = true

namespace WrittenNumber

def digits (w : WrittenNumber) : List Char :=
  List.replicate w.zeros '0' ++ Text.Numeral.digits w.number

def signed (w : WrittenNumber) : List Char :=
  if w.plus then '+' :: w.digits else w.digits

def text (w : WrittenNumber) : String :=
  String.ofList (w.before ++ w.signed ++ w.after)

lemma isBlank_of_isDigit {c : Char} (h : c.isDigit = true) : Text.isBlank c = false := by
  simp only [Char.isDigit_iff_toNat, Char.reduceToNat] at h
  simp only [Text.isBlank, Bool.or_eq_false_iff, Bool.and_eq_false_iff, decide_eq_false_iff_not,
    beq_eq_false_iff_ne]
  omega

lemma trimChars_signed (w : WrittenNumber) : Text.trimChars w.signed = w.signed := by
  have hdigits : ∀ c ∈ w.digits, Text.isBlank c = false := fun c hc =>
    isBlank_of_isDigit ((digitsOf_zeros w.zeros w.number).digits c hc)
  apply trimChars_of_not_blank
  unfold signed
  split
  · exact List.forall_mem_cons.2 ⟨by decide, hdigits⟩
  · exact hdigits

lemma nonBlank?_text (w : WrittenNumber) :
    Text.nonBlank? w.text = some (String.ofList w.signed) := by
  have htrim : Text.trim w.text = String.ofList w.signed := by
    rw [← String.toList_inj, Text.toList_trim, text, String.toList_ofList, String.toList_ofList,
      trimChars_padded w.blank_before w.blank_after, trimChars_signed]
  have hne : w.signed ≠ [] := by
    unfold signed
    split
    · exact List.cons_ne_nil _ _
    · exact (digitsOf_zeros w.zeros w.number).ne_nil
  rw [nonBlank?_eq_some_iff, htrim]
  exact ⟨rfl, fun hempty => hne (by simpa using congrArg String.toList hempty)⟩

lemma digitsOf_signed (w : WrittenNumber) :
    DigitsOf w.signed w.number ∨ ∃ ds, w.signed = '+' :: ds ∧ DigitsOf ds w.number := by
  unfold signed
  split
  · exact Or.inr ⟨w.digits, rfl, digitsOf_zeros w.zeros w.number⟩
  · exact Or.inl (digitsOf_zeros w.zeros w.number)

/-- However it is written, a number asks for as many results as it says, moved into the range from 5
to 50, if 64 bits hold it, and for none otherwise. -/
theorem asksFor_text_iff (w : WrittenNumber) {n : Nat} :
    AsksFor (some w.text) n ↔
      w.number < Text.Numeral.limit64 ∧ n = max 5 (min w.number 50) := by
  have hgiven : (some w.text).bind Text.nonBlank? = some (String.ofList w.signed) := by
    rw [Option.bind_some, w.nonBlank?_text]
  constructor
  · intro h
    obtain ⟨m, hnumber, hlimit, rfl⟩ := h.exists_number hgiven
    rw [String.toList_ofList] at hnumber
    obtain rfl := eq_of_digitsOf_signed hnumber w.digitsOf_signed
    exact ⟨hlimit, rfl⟩
  · rintro ⟨hlimit, rfl⟩
    refine .given hgiven ?_ hlimit
    rw [String.toList_ofList]
    exact w.digitsOf_signed

end WrittenNumber
end PromptStudio.Proofs
