import PromptStudio.Rejection
import PromptStudio.Text.Blank

/-!
# What a lookup is asked for

Terms, queries, topics, counts and entity ids are trimmed and bounded before anything is asked.
Bounds count characters.
-/

namespace PromptStudio.Lookup

def maxTermLength : Nat := 80

/-- A trimmed term of 1 to 80 characters. -/
def term (s : String) : Except Rejection String :=
  let t := Text.trim s
  if t = "" then .error .emptyTerm
  else if maxTermLength < t.length then .error (.longTerm maxTermLength)
  else .ok t

/-- Trimmed topics; blank ones are absent. -/
def topics (s : Option String) : Option String :=
  s.bind Text.nonBlank?

/-- A trimmed parameter that must not be blank, of at most so many characters. -/
def required (name : String) (limit : Nat) (s : Option String) : Except Rejection String :=
  let t := Text.trim (s.getD "")
  if t = "" then .error (.missing name)
  else if limit < t.length then .error (.tooLong name limit)
  else .ok t

def standardCount : Nat := 25
def minCount : Nat := 5
def maxCount : Nat := 50

/-- A number of results: 25 if blank or absent, else moved into the range from 5 to 50. -/
def count (name : String) (s : Option String) : Except Rejection Nat :=
  match s.bind Text.nonBlank? with
  | none => .ok standardCount
  | some t =>
    match Text.Numeral.readNat Text.Numeral.limit64 t.toList with
    | .ok n => .ok (max minCount (min n maxCount))
    | .error _ => .error (.notWhole name)

/-- A trimmed entity id: a Q and 1 to 19 digits. -/
def entityId (s : Option String) : Except Rejection String :=
  let t := Text.trim (s.getD "")
  match t.toList with
  | 'Q' :: ds =>
    if ds ≠ [] ∧ ds.length ≤ 19 ∧ ds.all Char.isDigit then .ok t else .error (.entityId t)
  | _ => .error (.entityId t)

end PromptStudio.Lookup
