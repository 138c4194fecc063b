import PromptStudio.Text.Utf8

/-!
# Percent-encoding

A byte outside the set that may stand raw is written as a percent sign and two upper-case
hexadecimal digits. Decoding leaves a percent sign that no two digits follow as it is.
-/

namespace PromptStudio.Text.Percent

/-- The upper-case hexadecimal digit of a number below sixteen. -/
def hexDigit (n : Nat) : Char :=
  if n < 10 then Char.ofNat (48 + n) else Char.ofNat (55 + n)

/-- The value of a hexadecimal digit of either case. -/
def hexValue? (c : Char) : Option Nat :=
  let n := c.toNat
  if 48 ≤ n ∧ n ≤ 57 then some (n - 48)
  else if 65 ≤ n ∧ n ≤ 70 then some (n - 55)
  else if 97 ≤ n ∧ n ≤ 102 then some (n - 87)
  else none

/-- A percent sign and the two digits of a byte. -/
def triplet (b : UInt8) : List Char :=
  ['%', hexDigit (b.toNat / 16), hexDigit (b.toNat % 16)]

/-- The text of the bytes, with those outside `raw` as triplets. -/
def encode (raw : UInt8 → Bool) (bytes : List UInt8) : List Char :=
  bytes.flatMap fun b => if raw b then [Char.ofNat b.toNat] else triplet b

/-- The bytes that a text with triplets stands for. -/
def decode : List UInt8 → List UInt8
  | b :: h :: l :: rest =>
    if b = 37 then
      match hexValue? (Char.ofNat h.toNat), hexValue? (Char.ofNat l.toNat) with
      | some x, some y => UInt8.ofNat (16 * x + y) :: decode rest
      | _, _ => b :: decode (h :: l :: rest)
    else b :: decode (h :: l :: rest)
  | b :: rest => b :: decode rest
  | [] => []

end PromptStudio.Text.Percent
