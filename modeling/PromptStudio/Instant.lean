import PromptStudio.Text.Numeral

/-!
# Instants

An instant counts the milliseconds since the first of January 1970, UTC. Two texts show it: one
for machines, with a T and a Z, and one for people. Both leave out milliseconds that are zero.
-/

namespace PromptStudio

/-- Milliseconds since the first of January 1970. -/
structure Instant where
  millis : Int
  deriving DecidableEq, Repr

namespace Instant

/-- The instant so many milliseconds later. -/
def after (t : Instant) (millis : Int) : Instant := ⟨t.millis + millis⟩

/-- The milliseconds from one instant to another. -/
def since (t earlier : Instant) : Int := t.millis - earlier.millis

/-- The first and the last millisecond of the calendar, in the years -262143 and 262142. -/
def first : Int := -8334601228800000

def last : Int := 8210266876799999

/-- The instant of a number of milliseconds that lies in the calendar. -/
def ofMillis? (ms : Int) : Option Instant :=
  if first ≤ ms ∧ ms ≤ last then some ⟨ms⟩ else none

def millisPerDay : Int := 86400000

/-- The days since the first of January 1970. -/
def day (t : Instant) : Int := t.millis / millisPerDay

/-- The milliseconds since midnight. -/
def millisOfDay (t : Instant) : Nat := (t.millis % millisPerDay).toNat

/-- Year, month and day of the Gregorian calendar. The count goes by eras of 400 years, each
beginning on a first of March. -/
def date (t : Instant) : Int × Nat × Nat :=
  let z := t.day + 719468
  let era := z / 146097
  let dayOfEra := (z % 146097).toNat
  let yearOfEra := (dayOfEra - dayOfEra / 1460 + dayOfEra / 36524 - dayOfEra / 146096) / 365
  let dayOfYear := dayOfEra - (365 * yearOfEra + yearOfEra / 4 - yearOfEra / 100)
  let shifted := (5 * dayOfYear + 2) / 153
  let day := dayOfYear - (153 * shifted + 2) / 5 + 1
  let month := if shifted < 10 then shifted + 3 else shifted - 9
  (yearOfEra + era * 400 + (if month ≤ 2 then 1 else 0), month, day)

/-- Four digits, with a sign before them for a year that four digits do not hold. -/
def yearChars (year : Int) : List Char :=
  if 0 ≤ year ∧ year ≤ 9999 then Text.Numeral.padded 4 year.toNat
  else (if year < 0 then '-' else '+') :: Text.Numeral.padded 4 year.natAbs

def dateChars (t : Instant) : List Char :=
  let (year, month, day) := t.date
  yearChars year ++ '-' :: Text.Numeral.padded 2 month ++ '-' :: Text.Numeral.padded 2 day

def timeChars (t : Instant) : List Char :=
  let ms := t.millisOfDay
  Text.Numeral.padded 2 (ms / 3600000) ++ ':' :: Text.Numeral.padded 2 (ms / 60000 % 60) ++
    ':' :: Text.Numeral.padded 2 (ms / 1000 % 60) ++
    (if ms % 1000 = 0 then [] else '.' :: Text.Numeral.padded 3 (ms % 1000))

/-- The text for machines, as in `2024-05-01T12:00:00Z`. -/
def stamp (t : Instant) : String :=
  String.ofList (t.dateChars ++ 'T' :: t.timeChars ++ ['Z'])

/-- The text for people, as in `2024-05-01 12:00:00 UTC`. -/
def shown (t : Instant) : String :=
  String.ofList (t.dateChars ++ ' ' :: t.timeChars) ++ " UTC"

end Instant
end PromptStudio
