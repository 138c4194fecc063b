import PromptStudio.Text.Percent

/-!
# Unique identifiers

An identifier is 128 bits. It is written as 32 small hexadecimal digits in five groups joined by
hyphens, and read in digits of either case: plain, in groups, in groups and braces, or in groups
after `urn:uuid:`.
-/

namespace PromptStudio

structure Uuid where
  bits : BitVec 128
  deriving DecidableEq, Repr

namespace Uuid

/-- The number of digits. -/
def digitCount : Nat := 32

/-- The sizes of the groups. -/
def groupSizes : List Nat := [8, 4, 4, 4, 12]

/-- The value of hexadecimal digits, the first one foremost. -/
def hexNumber? (cs : List Char) : Option Nat :=
  cs.foldlM (fun n c => (Text.Percent.hexValue? c).map fun d => 16 * n + d) 0

def ofPlain? (cs : List Char) : Option Uuid :=
  if cs.length = digitCount then (hexNumber? cs).map fun n => ⟨BitVec.ofNat 128 n⟩ else none

def ofGroups? (cs : List Char) : Option Uuid :=
  let groups := cs.splitOn '-'
  if groups.map List.length = groupSizes then ofPlain? groups.flatten else none

/-- The text in braces. -/
def unbraced? : List Char → Option (List Char)
  | '{' :: cs => if cs.getLast? = some '}' then some cs.dropLast else none
  | _ => none

def urnPrefix : String := "urn:uuid:"

/-- The identifier that a text stands for. -/
def ofText? (s : String) : Option Uuid :=
  let cs := s.toList
  (ofPlain? cs).or <| (ofGroups? cs).or <| ((unbraced? cs).bind ofGroups?).or <|
    (urnPrefix.toList.isPrefixOf? cs).bind ofGroups?

/-- The small hexadecimal digit of a number below sixteen. -/
def hexDigit (n : Nat) : Char :=
  if n < 10 then Char.ofNat (48 + n) else Char.ofNat (87 + n)

/-- The last digits of a number, as many as asked for. -/
def hexDigits : Nat → Nat → List Char
  | 0, _ => []
  | k + 1, n => hexDigits k (n / 16) ++ [hexDigit (n % 16)]

/-- The parts of a list of the sizes given. -/
def split {α : Type} : List Nat → List α → List (List α)
  | [], _ => []
  | n :: sizes, l => l.take n :: split sizes (l.drop n)

/-- The text of an identifier. -/
def text (u : Uuid) : String :=
  String.ofList
    (List.intercalate ['-'] (split groupSizes (hexDigits digitCount u.bits.toNat)))

end Uuid
end PromptStudio
