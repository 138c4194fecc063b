import PromptStudio.Text.LetterCase

/-!
# Lower-casing

Every character has its small form; İ gives i with a dot above, and a capital sigma at the end
of a word gives the final small sigma.
-/

namespace PromptStudio.Text

/-- The small form of a code point. -/
def lowerCode (n : Nat) : Nat :=
  match lowerCaseRanges.find? (·.contains n) with
  | some r => ((n : Int) + r.shift).toNat
  | none => n

/-- The small form of a character on its own. -/
def lowerChar (c : Char) : List Char :=
  if c.toNat = 0x130 then ['i', '\u0307'] else [Char.ofNat (lowerCode c.toNat)]

/-- Whether a cased character comes first once the case-ignorable ones are skipped. -/
def casedAhead (cs : List Char) : Bool :=
  match cs.dropWhile fun c => inRanges caseIgnorableRanges c.toNat with
  | [] => false
  | c :: _ => inRanges casedRanges c.toNat

/-- Lower-cases characters that stand after others, given last first. -/
def lowerAfter (before : List Char) : List Char → List Char
  | [] => []
  | c :: cs =>
    let small :=
      if c = 'Σ' then
        if casedAhead before && !casedAhead cs then ['ς'] else ['σ']
      else lowerChar c
    small ++ lowerAfter (c :: before) cs

/-- The text in small letters. -/
def lowercase (s : String) : String :=
  String.ofList (lowerAfter [] s.toList)

end PromptStudio.Text
