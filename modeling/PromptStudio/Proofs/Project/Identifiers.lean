import Mathlib.Algebra.Ring.Nat
import Mathlib.Tactic.Lemma
import PromptStudio.Uuid

/-!
# Identifiers read back

The text of an identifier is read as that identifier, so whoever is told one can ask for what it
names.
-/

namespace PromptStudio.Proofs
open Uuid

lemma hexValue?_uuid_hexDigit : ∀ n < 16, Text.Percent.hexValue? (Uuid.hexDigit n) = some n := by
  decide

lemma hexNumber?_hexDigits {k n : Nat} (h : n < Nat.pow 16 k) :
    hexNumber? (hexDigits k n) = some n := by
  induction k generalizing n with
  | zero =>
    rw [Nat.lt_one_iff.1 h]
    rfl
  | succ k ih =>
    have hlast := hexValue?_uuid_hexDigit (n % 16) (Nat.mod_lt n (by decide))
    have hbound : n < Nat.pow 16 k * 16 := h
    have hfront := ih ((Nat.div_lt_iff_lt_mul (by decide)).2 hbound)
    unfold hexNumber? at hfront ⊢
    rw [hexDigits, List.foldlM_append, hfront]
    simp only [List.foldlM_cons, List.foldlM_nil, hlast, Option.map_some, Option.bind_eq_bind,
      Option.bind_some, Option.pure_def, Nat.div_add_mod]

lemma length_hexDigits (k n : Nat) : (hexDigits k n).length = k := by
  induction k generalizing n with
  | zero => rfl
  | succ k ih => rw [hexDigits, List.length_append, ih, List.length_singleton]

lemma hyphen_not_mem_hexDigits (k n : Nat) : '-' ∉ hexDigits k n := by
  have hdigit : ∀ n < 16, '-' ≠ Uuid.hexDigit n := by decide
  induction k generalizing n with
  | zero => exact List.not_mem_nil
  | succ k ih =>
    rw [hexDigits, List.mem_append, List.mem_singleton, not_or]
    exact ⟨ih (n / 16), hdigit _ (Nat.mod_lt n (by decide))⟩

section split

variable {α : Type} {sizes : List Nat} {l : List α}

lemma flatten_split (h : sizes.sum = l.length) : (split sizes l).flatten = l := by
  induction sizes generalizing l with
  | nil =>
    rw [List.sum_nil] at h
    rw [List.eq_nil_of_length_eq_zero h.symm]
    rfl
  | cons n sizes ih =>
    rw [List.sum_cons] at h
    rw [split, List.flatten_cons, ih, List.take_append_drop]
    rw [List.length_drop]
    omega

lemma map_length_split (h : sizes.sum = l.length) : (split sizes l).map List.length = sizes := by
  induction sizes generalizing l with
  | nil => rfl
  | cons n sizes ih =>
    rw [List.sum_cons] at h
    rw [split, List.map_cons, List.length_take, ih, Nat.min_eq_left]
    · omega
    · rw [List.length_drop]
      omega

lemma mem_of_mem_split {part : List α} {a : α} (h : sizes.sum = l.length)
    (hpart : part ∈ split sizes l) (ha : a ∈ part) : a ∈ l := by
  rw [← flatten_split h]
  exact List.mem_flatten_of_mem hpart ha

end split

/-- An identifier is read back from its text. -/
theorem ofText?_text (u : Uuid) : Uuid.ofText? u.text = some u := by
  have hdigits : (hexDigits digitCount u.bits.toNat).length = digitCount := length_hexDigits _ _
  have hsum : groupSizes.sum = (hexDigits digitCount u.bits.toNat).length := hdigits.symm
  have hgroups : (split groupSizes (hexDigits digitCount u.bits.toNat)).map List.length =
      groupSizes := map_length_split hsum
  have hchars : u.text.toList =
      List.intercalate ['-'] (split groupSizes (hexDigits digitCount u.bits.toNat)) :=
    String.toList_ofList
  have hsplit : u.text.toList.splitOn '-' =
      split groupSizes (hexDigits digitCount u.bits.toNat) := by
    rw [hchars, List.splitOn_intercalate]
    · exact fun part hpart hmem =>
        hyphen_not_mem_hexDigits _ _ (mem_of_mem_split hsum hpart hmem)
    · exact List.cons_ne_nil _ _
  have hplain : ofPlain? (hexDigits digitCount u.bits.toNat) = some u := by
    rw [ofPlain?, if_pos hdigits, hexNumber?_hexDigits u.bits.isLt, Option.map_some,
      BitVec.ofNat_toNat, BitVec.setWidth_eq]
  -- The hyphens make the text too long to be plain digits.
  have hlength : u.text.toList.length = 36 := by
    rw [hchars]
    simp [List.intercalate, List.intersperse, split, groupSizes, length_hexDigits, digitCount]
  have hlong : u.text.toList.length ≠ digitCount := by
    rw [hlength]
    decide
  simp only [Uuid.ofText?, ofPlain?, if_neg hlong, Option.none_or]
  simp only [ofGroups?, hsplit, hgroups, if_true, flatten_split hsum, hplain, Option.some_or]

end PromptStudio.Proofs
