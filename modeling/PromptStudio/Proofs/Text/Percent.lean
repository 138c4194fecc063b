import Mathlib.Tactic.Lemma
import PromptStudio.Text.Percent

/-!
# Percent-encoding and back

Where no percent sign stands raw, decoding gives back the bytes that were encoded.
-/

namespace PromptStudio.Proofs
open Text Text.Percent

lemma toNat_ofNat_of_lt {n : Nat} (h : n < 0x80) : (Char.ofNat n).toNat = n := by
  have hvalid : n.isValidChar := Or.inl (by omega)
  unfold Char.ofNat
  rw [dif_pos hvalid]
  rfl

lemma utf8EncodeChar_of_lt {n : Nat} (h : n < 0x80) :
    String.utf8EncodeChar (Char.ofNat n) = [UInt8.ofNat n] := by
  have hval : (Char.ofNat n).val.toNat = n := toNat_ofNat_of_lt h
  unfold String.utf8EncodeChar
  dsimp only
  rw [hval, if_pos (by omega)]

lemma utf8_encode_injective {cs ds : List Char} (h : Utf8.encode cs = Utf8.encode ds) : cs = ds := by
  have hbytes : cs.utf8Encode = ds.utf8Encode := congrArg List.toByteArray h
  apply String.ofList_injective
  rw [← String.toByteArray_inj, String.toByteArray_ofList, String.toByteArray_ofList, hbytes]

lemma utf8_encode_append (cs ds : List Char) :
    Utf8.encode (cs ++ ds) = Utf8.encode cs ++ Utf8.encode ds :=
  List.flatMap_append

def hexByte (n : Nat) : UInt8 :=
  UInt8.ofNat (hexDigit n).toNat

lemma hexByte_spec : ∀ n < 16, String.utf8EncodeChar (hexDigit n) = [hexByte n] ∧
    hexValue? (Char.ofNat (hexByte n).toNat) = some n := by
  decide

lemma utf8_encode_triplet (b : UInt8) :
    Utf8.encode (triplet b) = [37, hexByte (b.toNat / 16), hexByte (b.toNat % 16)] := by
  have hb := b.toNat_lt
  have hhigh := (hexByte_spec (b.toNat / 16) (by omega)).1
  have hlow := (hexByte_spec (b.toNat % 16) (by omega)).1
  have hpercent : String.utf8EncodeChar '%' = [37] := by decide
  unfold Utf8.encode triplet
  simp only [List.flatMap_cons, List.flatMap_nil, hpercent, hhigh, hlow, List.cons_append,
    List.nil_append]

lemma decode_cons_of_ne {b : UInt8} (h : b ≠ 37) (rest : List UInt8) :
    decode (b :: rest) = b :: decode rest := by
  cases rest with
  | nil => rfl
  | cons c rest =>
    cases rest with
    | nil => rfl
    | cons d rest => rw [decode, if_neg h]

lemma decode_triplet (b : UInt8) (rest : List UInt8) :
    decode (Utf8.encode (triplet b) ++ rest) = b :: decode rest := by
  have hb := b.toNat_lt
  have hhigh := (hexByte_spec (b.toNat / 16) (by omega)).2
  have hlow := (hexByte_spec (b.toNat % 16) (by omega)).2
  have hvalue : 16 * (b.toNat / 16) + b.toNat % 16 = b.toNat := by omega
  rw [utf8_encode_triplet, List.cons_append, List.cons_append, List.cons_append, List.nil_append,
    decode, if_pos rfl, hhigh, hlow]
  dsimp only
  rw [hvalue, UInt8.ofNat_toNat]

/-- What was encoded is decoded to the bytes it stands for. -/
theorem decode_encode {raw : UInt8 → Bool} (hraw : ∀ b, raw b = true → b < 0x80 ∧ b ≠ 37)
    (bytes : List UInt8) : decode (Utf8.encode (encode raw bytes)) = bytes := by
  induction bytes with
  | nil => rfl
  | cons b bytes ih =>
    have hsplit : encode raw (b :: bytes) =
        (if raw b then [Char.ofNat b.toNat] else triplet b) ++ encode raw bytes :=
      List.flatMap_cons
    rw [hsplit, utf8_encode_append]
    by_cases h : raw b = true
    · obtain ⟨hascii, hpercent⟩ := hraw b h
      have hone : Utf8.encode [Char.ofNat b.toNat] = [b] := by
        unfold Utf8.encode
        rw [List.flatMap_singleton, utf8EncodeChar_of_lt (UInt8.lt_iff_toNat_lt.1 hascii),
          UInt8.ofNat_toNat]
      rw [if_pos h, hone, List.singleton_append, decode_cons_of_ne hpercent, ih]
    · rw [if_neg h, decode_triplet, ih]

end PromptStudio.Proofs
