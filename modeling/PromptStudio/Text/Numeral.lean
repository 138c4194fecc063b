/-!
# Whole numbers in decimal

Reading an unsigned or signed decimal below a limit, with the reasons why a text is none, and
the digits of a number.
-/

namespace PromptStudio.Text.Numeral

/-- The limit of unsigned numbers of 64 bits, and that of signed ones. -/
abbrev limit64 : Nat := 0x10000000000000000

abbrev signedLimit64 : Nat := 0x8000000000000000

/-- Why a text is no number of the type asked for. -/
inductive Fault where
  | empty
  | invalidDigit
  | tooLarge
  | tooSmall
  deriving DecidableEq, Repr

def Fault.message : Fault → String
  | empty => "cannot parse integer from empty string"
  | invalidDigit => "invalid digit found in string"
  | tooLarge => "number too large to fit in target type"
  | tooSmall => "number too small to fit in target type"

/-- The value of a decimal digit. -/
def digit? (c : Char) : Option Nat :=
  if '0' ≤ c ∧ c ≤ '9' then some (c.toNat - 48) else none

/-- Reads digits on from a value, front to back: the first character that is no digit, or that
takes the value to the limit, decides. -/
def readDigits (limit : Nat) (beyond : Fault) : Nat → List Char → Except Fault Nat
  | value, [] => .ok value
  | value, c :: cs =>
    match digit? c with
    | none => .error .invalidDigit
    | some d =>
      if value * 10 + d < limit then readDigits limit beyond (value * 10 + d) cs
      else .error beyond

/-- Reads a number below `limit`: an optional plus sign and at least one digit. -/
def readNat (limit : Nat) : List Char → Except Fault Nat
  | [] => .error .empty
  | '+' :: c :: cs => readDigits limit .tooLarge 0 (c :: cs)
  | cs => readDigits limit .tooLarge 0 cs

/-- Reads a number from `-limit` to `limit - 1`: an optional sign and at least one digit. -/
def readInt (limit : Nat) : List Char → Except Fault Int
  | [] => .error .empty
  | '-' :: c :: cs => (readDigits (limit + 1) .tooSmall 0 (c :: cs)).map fun n => -(n : Int)
  | cs => (readNat limit cs).map fun n => (n : Int)

/-- The decimal digits of a number. -/
def digits (n : Nat) : List Char :=
  Nat.toDigits 10 n

/-- The decimal text of a number. -/
def ofNat (n : Nat) : String :=
  String.ofList (digits n)

/-- The decimal text of an integer, with a minus sign before the digits of a negative one. -/
def intDigits (i : Int) : List Char :=
  if i < 0 then '-' :: digits i.natAbs else digits i.natAbs

/-- The digits of a number, with zeros before them up to a width. -/
def padded (width n : Nat) : List Char :=
  List.replicate (width - (digits n).length) '0' ++ digits n

end PromptStudio.Text.Numeral
