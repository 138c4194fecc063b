import PromptStudio.Prompt.Document
import PromptStudio.Binary64.Shortest
import PromptStudio.Text.Blank
import PromptStudio.Text.Numeral

/-!
# The prompt of a document

The rendered parts are the subject and the fragments' texts, joined by commas; the trailer of
the model follows them. Blank parts and negative fragments are left out.
-/

namespace PromptStudio.Prompt

def minWeight : Binary64 := Binary64.decimal 2 (-1)

def maxWeight : Binary64 := Binary64.ofInt 2

/-- The most often that a text is repeated for emphasis. -/
def maxRepeats : Binary64 := Binary64.ofInt 3

/-- A weight in hundredths, from 0.2 to 2. -/
def hundredths (weight : Binary64) : Nat :=
  ((weight.clamp minWeight maxWeight).mulNat 100).roundMagnitude

/-- Hundredths as a decimal without zeros at its end. -/
def hundredthsChars (n : Nat) : List Char :=
  let whole := Text.Numeral.digits (n / 100)
  if n % 100 = 0 then whole
  else if n % 10 = 0 then whole ++ '.' :: Text.Numeral.digits (n / 10 % 10)
  else whole ++ '.' :: Text.Numeral.padded 2 (n % 100)

/-- How often a text with a weight is repeated, from once to three times. -/
def repeats (weight : Binary64) : Nat :=
  (weight.clamp neutralWeight maxRepeats).roundMagnitude

/-- A text with its emphasis, as parts of the prompt. -/
def emphasized (style : WeightStyle) (text : String) (weight : Binary64) : List String :=
  match style with
  | .numeric => ["(" ++ text ++ ":" ++ String.ofList (hundredthsChars (hundredths weight)) ++ ")"]
  | .repetition => List.replicate (repeats weight) text

/-- The parts of the prompt that a fragment gives. -/
def Fragment.parts (style : WeightStyle) (f : Fragment) : List String :=
  if f.category = .negative then []
  else match Text.nonBlank? f.text with
    | none => []
    | some text =>
      match f.emphasis with
      | none => [text]
      | some weight => emphasized style text weight

/-- The parts of the prompt before its trailer. -/
def Document.parts (d : Document) : List String :=
  (Text.nonBlank? d.subject).toList ++ d.fragments.flatMap (Fragment.parts d.model.weightStyle)

/-- The modifiers that are present. -/
def Params.modifiers (p : Params) : List String :=
  ((p.aspect.bind Text.nonBlank?).map fun s => "--ar " ++ s).toList ++
    (p.stylize.map fun x => "--s " ++ x.plain).toList ++
    (p.quality.map fun x => "--q " ++ x.plain).toList ++
    ((p.seed.bind Text.nonBlank?).map fun s => "--seed " ++ s).toList

/-- The parts, joined. -/
def Document.base (d : Document) : String :=
  String.intercalate ", " d.parts

/-- What follows the parts: modifiers after one space, or the negative prompt as a paragraph of
its own. -/
def Document.trailer (d : Document) : String :=
  match d.model.trailer with
  | .modifiers =>
    let modifiers := String.intercalate " " d.params.modifiers
    if d.params.modifiers = [] then ""
    else if d.base = "" then modifiers
    else " " ++ modifiers
  | .negativePrompt =>
    match Text.nonBlank? d.negative with
    | none => ""
    | some negative => "\n\nNegative prompt: " ++ negative
  | .none => ""

/-- The prompt of a document. -/
def Document.prompt (d : Document) : String :=
  d.base ++ d.trailer

end PromptStudio.Prompt
