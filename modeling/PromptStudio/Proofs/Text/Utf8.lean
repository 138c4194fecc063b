import Mathlib.Tactic.Lemma
import PromptStudio.Text.Utf8

/-!
# UTF-8 and back

The bytes of characters are decoded as those characters: the first byte of a character tells how
many follow, and the range of the second one lets every character pass and no other form of it.
-/

namespace PromptStudio.Proofs
open Text.Utf8

/-! ## One byte -/

lemma toNat_ofNat_byte {n : Nat} (h : n < 0x100) : (UInt8.ofNat n).toNat = n :=
  UInt8.toNat_ofNat_of_lt' h

lemma decodeFrom_ascii {n : Nat} (h : n < 0x80) (rest : List UInt8) :
    decodeFrom none (UInt8.ofNat n :: rest) = Char.ofNat n :: decodeFrom none rest := by
  have hbyte := toNat_ofNat_byte (n := n) (by omega)
  simp only [decodeFrom, step, start, hbyte, if_pos h, List.singleton_append]

lemma decodeFrom_lead {n : Nat} (h : n < 0x100) (hmulti : ¬ n < 0x80) {p : Pending}
    (hlead : lead? n = some p) (rest : List UInt8) :
    decodeFrom none (UInt8.ofNat n :: rest) = decodeFrom (some p) rest := by
  simp only [decodeFrom, step, start, toNat_ofNat_byte h, if_neg hmulti, hlead, List.nil_append]

section sequence

variable {missing bits low high x : Nat} (hx : x < 64) (hrange : low ≤ x + 128 ∧ x + 128 ≤ high)
  (rest : List UInt8)
include hx hrange

lemma decodeFrom_more (hmissing : missing ≠ 1) :
    decodeFrom (some ⟨missing, bits, low, high⟩) (UInt8.ofNat (x + 128) :: rest) =
      decodeFrom (some ⟨missing - 1, bits * 64 + x, 0x80, 0xBF⟩) rest := by
  have hbyte := toNat_ofNat_byte (n := x + 128) (by omega)
  simp only [decodeFrom, step, hbyte, if_pos hrange, if_neg hmissing, List.nil_append,
    Nat.add_sub_cancel]

lemma decodeFrom_last :
    decodeFrom (some ⟨1, bits, low, high⟩) (UInt8.ofNat (x + 128) :: rest) =
      Char.ofNat (bits * 64 + x) :: decodeFrom none rest := by
  have hbyte := toNat_ofNat_byte (n := x + 128) (by omega)
  simp only [decodeFrom, step, hbyte, if_pos hrange, if_true, List.singleton_append,
    Nat.add_sub_cancel]

end sequence

/-! ## The first two bytes -/

lemma decodeFrom_two {a : Nat} (hlow : 2 ≤ a) (hhigh : a < 32) (rest : List UInt8) :
    decodeFrom none (UInt8.ofNat (a + 192) :: rest) =
      decodeFrom (some ⟨1, a, 0x80, 0xBF⟩) rest := by
  refine decodeFrom_lead (by omega) (by omega) ?_ rest
  rw [lead?, if_pos (by omega), Nat.add_sub_cancel]

/-- A second byte below the first one's range would begin an overlong form, and one above it a
surrogate. -/
lemma decodeFrom_three {a b : Nat} (ha : a < 16) (hb : b < 64) (hlong : a = 0 → 32 ≤ b)
    (hsurrogate : a = 13 → b < 32) (rest : List UInt8) :
    decodeFrom none (UInt8.ofNat (a + 224) :: UInt8.ofNat (b + 128) :: rest) =
      decodeFrom (some ⟨1, a * 64 + b, 0x80, 0xBF⟩) rest := by
  obtain ⟨low, high, hlead, hlow, hhigh⟩ : ∃ low high,
      lead? (a + 224) = some ⟨2, a, low, high⟩ ∧ low ≤ b + 128 ∧ b + 128 ≤ high := by
    by_cases hzero : a = 0
    · subst hzero
      exact ⟨0xA0, 0xBF, rfl, by omega, by omega⟩
    by_cases hthirteen : a = 13
    · subst hthirteen
      exact ⟨0x80, 0x9F, rfl, by omega, by omega⟩
    · refine ⟨0x80, 0xBF, ?_, by omega, by omega⟩
      rw [lead?, if_neg (by omega), if_neg (by omega), if_neg (by omega), if_pos (by omega),
        Nat.add_sub_cancel]
  rw [decodeFrom_lead (by omega) (by omega) hlead]
  exact decodeFrom_more hb ⟨hlow, hhigh⟩ rest (by decide)

lemma decodeFrom_four {a b : Nat} (ha : a ≤ 4) (hb : b < 64) (hlong : a = 0 → 16 ≤ b)
    (hbeyond : a = 4 → b < 16) (rest : List UInt8) :
    decodeFrom none (UInt8.ofNat (a + 240) :: UInt8.ofNat (b + 128) :: rest) =
      decodeFrom (some ⟨2, a * 64 + b, 0x80, 0xBF⟩) rest := by
  obtain ⟨low, high, hlead, hlow, hhigh⟩ : ∃ low high,
      lead? (a + 240) = some ⟨3, a, low, high⟩ ∧ low ≤ b + 128 ∧ b + 128 ≤ high := by
    by_cases hzero : a = 0
    · subst hzero
      exact ⟨0x90, 0xBF, rfl, by omega, by omega⟩
    by_cases hfour : a = 4
    · subst hfour
      exact ⟨0x80, 0x8F, rfl, by omega, by omega⟩
    · refine ⟨0x80, 0xBF, ?_, by omega, by omega⟩
      rw [lead?, if_neg (by omega), if_neg (by omega), if_neg (by omega), if_neg (by omega),
        if_neg (by omega), if_pos (by omega), Nat.add_sub_cancel]
  rw [decodeFrom_lead (by omega) (by omega) hlead]
  exact decodeFrom_more hb ⟨hlow, hhigh⟩ rest (by decide)

/-! ## Characters -/

lemma toNat_bounds (c : Char) :
    c.val.toNat < 0xD800 ∨ (0xDFFF < c.val.toNat ∧ c.val.toNat < 0x110000) :=
  c.valid

lemma decodeFrom_char (c : Char) (rest : List UInt8) :
    decodeFrom none (String.utf8EncodeChar c ++ rest) = c :: decodeFrom none rest := by
  have hvalid := toNat_bounds c
  have hchar : Char.ofNat c.val.toNat = c := Char.ofNat_toNat c
  unfold String.utf8EncodeChar
  dsimp only
  generalize c.val.toNat = v at hvalid hchar
  by_cases hone : v ≤ 0x7F
  · rw [if_pos hone, List.singleton_append, decodeFrom_ascii (by omega), hchar]
  by_cases htwo : v ≤ 0x7FF
  · have hbits : v / 64 % 32 * 64 + v % 64 = v := by omega
    rw [if_neg hone, if_pos htwo, List.cons_append, List.singleton_append,
      decodeFrom_two (by omega) (by omega), decodeFrom_last (by omega) (by omega), hbits,
      hchar]
  by_cases hthree : v ≤ 0xFFFF
  · have hbits : (v / 4096 % 16 * 64 + v / 64 % 64) * 64 + v % 64 = v := by omega
    rw [if_neg hone, if_neg htwo, if_pos hthree, List.cons_append, List.cons_append,
      List.singleton_append, decodeFrom_three (by omega) (by omega) (by omega) (by omega),
      decodeFrom_last (by omega) (by omega), hbits, hchar]
  · have hbits : ((v / 262144 % 8 * 64 + v / 4096 % 64) * 64 + v / 64 % 64) * 64 + v % 64 = v := by
      omega
    rw [if_neg hone, if_neg htwo, if_neg hthree, List.cons_append, List.cons_append,
      List.cons_append, List.singleton_append,
      decodeFrom_four (by omega) (by omega) (by omega) (by omega),
      decodeFrom_more (by omega) (by omega) _ (by decide),
      decodeFrom_last (by omega) (by omega), hbits, hchar]

/-- The bytes of characters are decoded as those characters. -/
theorem utf8_decode_encode (cs : List Char) : decode (encode cs) = cs := by
  unfold decode encode
  induction cs with
  | nil => rfl
  | cons c cs ih => rw [List.flatMap_cons, decodeFrom_char, ih]

theorem utf8_decode?_encode (cs : List Char) : decode? (encode cs) = some cs := by
  unfold decode?
  dsimp only
  rw [utf8_decode_encode, if_pos rfl]

end PromptStudio.Proofs
