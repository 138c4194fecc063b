/-!
# Finite double-precision numbers

A finite IEEE 754 double is a sign and a rank: its place among the magnitudes in ascending
order, which is also its bit pattern without the sign. Magnitudes are counted in units of
2^-1074, the smallest of them, so every comparison and every rounding is exact arithmetic on
natural numbers.

Weights, scores and parameters are read from JSON, where a numeral is rounded to the nearest
double however many digits it has. A numeral past the largest finite double is refused there, and
no numeral stands for an infinity or for what is no number, so these are left out.
-/

namespace PromptStudio

/-- A finite double: a sign and the rank of its magnitude. -/
structure Binary64 where
  negative : Bool
  rank : Nat
  rank_lt : rank < 0x7FF0000000000000
  deriving DecidableEq

namespace Binary64

/-- The first rank past the finite magnitudes, where 2^1024 would stand. -/
abbrev rankLimit : Nat := 0x7FF0000000000000

/-- The number of ranks from one power of two to the next, 2^52. -/
abbrev binade : Nat := 0x10000000000000

/-- The number of units in one. -/
abbrev unit : Nat := Nat.pow 2 1074

/-- The magnitude of a rank, in units. From two binades on, the spacing doubles with each. -/
def units (rank : Nat) : Nat :=
  if rank < 2 * binade then rank
  else (binade + rank % binade) * Nat.pow 2 (rank / binade - 1)

/-- The largest rank whose magnitude is at most so many units. -/
def floorRank (u : Nat) : Nat :=
  if u < 2 * binade then u
  else
    let spacing := u.log2 - 52
    spacing * binade + u / Nat.pow 2 spacing

/-- The rank nearest to `num / den` units; half-way between two, the even one. -/
def nearestRank (num den : Nat) : Nat :=
  let r := floorRank (num / den)
  let middle := (units r + units (r + 1)) * den
  if 2 * num < middle then r
  else if middle < 2 * num then r + 1
  else if r % 2 = 0 then r else r + 1

/-- The number of a rank; the largest finite one for a rank past the limit. -/
def ofRank (negative : Bool) (rank : Nat) : Binary64 :=
  ⟨negative, min rank (rankLimit - 1), by simp only [rankLimit]; omega⟩

/-- The number nearest to `num / den` units; none if that rounds past the largest finite one. -/
def ofUnits? (negative : Bool) (num den : Nat) : Option Binary64 :=
  let r := nearestRank num den
  if h : r < rankLimit then some ⟨negative, r, h⟩ else none

def zero : Binary64 := ⟨false, 0, by decide⟩

instance : Inhabited Binary64 := ⟨zero⟩

/-- The number nearest to an integer. -/
def ofInt (i : Int) : Binary64 :=
  ofRank (i < 0) (nearestRank (i.natAbs * unit) 1)

/-- The number nearest to `coefficient * 10 ^ exponent`; none past the largest finite one.
Where the leading digit alone decides, the power is not computed. -/
def ofDecimal? (negative : Bool) (coefficient : Nat) (exponent : Int) : Option Binary64 :=
  let place := (Nat.toDigits 10 coefficient).length + exponent
  if coefficient = 0 then some ⟨negative, 0, by decide⟩
  else if 400 < place then none
  else if place < -400 then some ⟨negative, 0, by decide⟩
  else if 0 ≤ exponent then ofUnits? negative (coefficient * Nat.pow 10 exponent.toNat * unit) 1
  else ofUnits? negative (coefficient * unit) (Nat.pow 10 (-exponent).toNat)

/-- A decimal constant: the number nearest to `coefficient * 10 ^ exponent`. -/
def decimal (coefficient : Nat) (exponent : Int) : Binary64 :=
  (ofDecimal? false coefficient exponent).getD zero

/-- The exact value in units. -/
def toUnits (x : Binary64) : Int :=
  if x.negative then -(units x.rank : Int) else units x.rank

/-- The place in the total order of IEEE 754, in which -0.0 comes just below 0.0. -/
def position (x : Binary64) : Int :=
  if x.negative then -(x.rank : Int) - 1 else x.rank

/-- The total order. -/
def le (x y : Binary64) : Bool :=
  x.position ≤ y.position

/-- The difference, rounded to the nearest number. Equal numbers differ by 0.0, and -0.0 less
0.0 is -0.0. -/
def sub (x y : Binary64) : Binary64 :=
  let d := x.toUnits - y.toUnits
  if d = 0 then ⟨x.negative && !y.negative && x.rank == 0, 0, by decide⟩
  else ofRank (d < 0) (nearestRank d.natAbs 1)

/-- The product with a natural number, rounded to the nearest number. -/
def mulNat (x : Binary64) (n : Nat) : Binary64 :=
  ofRank x.negative (nearestRank (units x.rank * n) 1)

/-- The magnitude rounded to a whole number, a half away from zero. -/
def roundMagnitude (x : Binary64) : Nat :=
  (2 * units x.rank + unit) / (2 * unit)

/-- Whether the number is above zero. -/
def isPositive (x : Binary64) : Bool :=
  !x.negative && x.rank != 0

/-- A number that is not negative, moved into the range from `low` to `high`. -/
def clamp (x low high : Binary64) : Binary64 :=
  if x.position < low.position then low
  else if high.position < x.position then high
  else x

end Binary64
end PromptStudio
