import PromptStudio.Binary64.Basic

/-!
# The fewest digits that read back

The decimal text of a double has the fewest digits that name it: of the decimals with so many
digits on either side of the value, one that rounds back to it, and of two such the nearer. Two
formats write these digits, one with an exponent for very large and very small numbers and one
without.
-/

namespace PromptStudio.Binary64

/-- A positive decimal `coefficient * 10 ^ exponent`. -/
structure Decimal where
  coefficient : Nat
  exponent : Int
  deriving DecidableEq, Repr

/-- How a value half-way between two decimals is written. -/
inductive Tie where
  | even
  | up

/-- The decimal without the zeros at the end of its coefficient. -/
def Decimal.stripped (d : Decimal) : Nat → Decimal
  | 0 => d
  | fuel + 1 =>
    if d.coefficient ≠ 0 ∧ d.coefficient % 10 = 0 then
      Decimal.stripped ⟨d.coefficient / 10, d.exponent + 1⟩ fuel
    else d

/-- The power of ten at the first digit of a positive magnitude in units. -/
def leadingPower (u : Nat) : Int :=
  (Nat.toDigits 10 (u * Nat.pow 10 400 / unit)).length - 401

/-- The magnitude in units divided by a power of ten, as a fraction. -/
def scaled (u : Nat) (power : Int) : Nat × Nat :=
  if 0 ≤ power then (u, unit * Nat.pow 10 power.toNat)
  else (u * Nat.pow 10 (-power).toNat, unit)

/-- Whether a decimal rounds to the magnitude of a rank. -/
def readsBack (rank : Nat) (d : Decimal) : Bool :=
  match ofDecimal? false d.coefficient d.exponent with
  | some x => x.rank == rank
  | none => false

/-- A multiple of a power of ten that rounds to the rank, if one next to the value does. -/
def candidateAt? (tie : Tie) (rank : Nat) (power : Int) : Option Decimal :=
  let (num, den) := scaled (units rank) power
  let low := num / den
  let below : Decimal := ⟨low, power⟩
  let above : Decimal := ⟨low + 1, power⟩
  match readsBack rank below, readsBack rank above with
  | true, true =>
    let twice := 2 * (num % den)
    if twice < den then some below
    else if den < twice then some above
    else match tie with
      | .even => some (if low % 2 = 0 then below else above)
      | .up => some above
  | true, false => some below
  | false, true => some above
  | false, false => none

/-- A decimal of so many digits that rounds to the rank, if there is one. -/
def candidate? (tie : Tie) (rank count : Nat) : Option Decimal :=
  candidateAt? tie rank (leadingPower (units rank) - count + 1)

/-- The first decimal found, of so many digits or up to `more - 1` further ones. -/
def firstCandidate? (tie : Tie) (rank count more : Nat) : Option Decimal :=
  (List.range' count more).findSome? (candidate? tie rank)

/-- The exact decimal of a magnitude in units. -/
def exactDecimal (u : Nat) : Decimal :=
  ⟨u * Nat.pow 5 1074, -1074⟩

/-- The fewest digits that read back, of a positive magnitude. Seventeen always do. -/
def shortest (tie : Tie) (rank : Nat) : Decimal :=
  let d := (firstCandidate? tie rank 1 17).getD (exactDecimal (units rank))
  d.stripped 800

/-- The digits of a decimal around its point: the whole part and the part after it. -/
def Decimal.parts (d : Decimal) : List Char × List Char :=
  let digits := Nat.toDigits 10 d.coefficient
  if 0 ≤ d.exponent then (digits ++ List.replicate d.exponent.toNat '0', [])
  else
    let places := (-d.exponent).toNat
    if places < digits.length then digits.splitAt (digits.length - places)
    else (['0'], List.replicate (places - digits.length) '0' ++ digits)

/-- The sign, then digits without an exponent, and a point only before a fraction. -/
def plainChars (x : Binary64) : List Char :=
  let sign := if x.negative then ['-'] else []
  if x.rank = 0 then sign ++ ['0']
  else
    let (whole, fraction) := (shortest .up x.rank).parts
    sign ++ whole ++ (if fraction = [] then [] else '.' :: fraction)

/-- The text of a number in a prompt. -/
def plain (x : Binary64) : String :=
  String.ofList (plainChars x)

/-- The sign, then digits with a point from 10^-5 up to 10^16, else one digit before the point
and a signed exponent. -/
def jsonChars (x : Binary64) : List Char :=
  let sign := if x.negative then ['-'] else []
  if x.rank = 0 then sign ++ ['0', '.', '0']
  else
    let d := shortest .even x.rank
    let digits := Nat.toDigits 10 d.coefficient
    let power := d.exponent + digits.length - 1
    if -5 ≤ power ∧ power < 16 then
      let (whole, fraction) := d.parts
      sign ++ whole ++ '.' :: (if fraction = [] then ['0'] else fraction)
    else
      let rest := digits.drop 1
      sign ++ digits.take 1 ++ (if rest = [] then [] else '.' :: rest) ++ 'e' ::
        (if power < 0 then '-' else '+') :: Nat.toDigits 10 power.natAbs

end PromptStudio.Binary64
