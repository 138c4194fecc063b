import PromptStudio.Prompt.Pattern
import PromptStudio.Prompt.Render
import PromptStudio.Text.Lowercase

/-!
# Findings about a document

The rules run in a fixed order, on the document and on its prompt in small letters. Phrases are
the pieces of the prompt between commas and line feeds.
-/

namespace PromptStudio.Prompt

inductive Severity where
  | error
  | warning
  deriving DecidableEq, Repr

/-- What a rule has found. -/
inductive Finding where
  | noSubject
  | noCamera
  | noLighting
  | redundant (phrases : List String)
  | contradiction (message : String)
  | tooLong
  deriving DecidableEq, Repr

namespace Finding

def severity : Finding → Severity
  | noSubject => .error
  | _ => .warning

def code : Finding → String
  | noSubject => "NO_SUBJECT"
  | noCamera => "NO_CAMERA"
  | noLighting => "NO_LIGHTING"
  | redundant _ => "REDUNDANT"
  | contradiction _ => "CONTRADICTION"
  | tooLong => "TOO_LONG"

def message : Finding → String
  | noSubject => "Missing subject."
  | noCamera => "No camera/view cues."
  | noLighting => "No lighting cues."
  | redundant phrases => "Repeated phrases: " ++ String.intercalate ", " phrases
  | contradiction m => m
  | tooLong => "Prompt is very long for sentence-style prompting."

def hint : Finding → String
  | noSubject => "Describe the main subject in one clear sentence."
  | noCamera => "Add lens/shot type (wide, 35mm, macro, aerial, etc.)."
  | noLighting => "Add lighting like golden hour, cinematic, volumetric, softbox."
  | redundant _ => "Remove duplicates; emphasize with weighting instead."
  | contradiction _ => "Pick one direction, or clarify which part each cue applies to."
  | tooLong =>
    "Reduce to the most important details (subject, setting, style, lighting, camera)."

end Finding

/-- The pieces of a text between commas and line feeds, trimmed, without the blank ones. -/
def phrases (s : String) : List String :=
  (s.toList.splitOnP fun c => c == ',' || c == '\n').filterMap fun cs =>
    Text.nonBlank? (String.ofList cs)

/-- The members of a list, each once, in the order of first occurrence. -/
def firsts : List String → List String
  | [] => []
  | p :: ps => p :: (firsts ps).filter (· ≠ p)

/-- The phrases that a text holds three times or more, in the order of first occurrence. -/
def repeatedPhrases (s : String) : List String :=
  let ps := phrases s
  (firsts ps).filter fun p => 3 ≤ ps.count p

/-- The most phrases that a finding lists. -/
def maxListed : Nat := 4

/-- The most characters of a prompt for a model that takes plain sentences. -/
def plainMaxLength : Nat := 900

def findingIf (condition : Bool) (f : Finding) : List Finding :=
  if condition then [f] else []

/-- The findings about a document, rule by rule. -/
def Document.lint (d : Document) : List Finding :=
  let prompt := d.prompt
  let lower := Text.lowercase prompt
  let repeated := repeatedPhrases lower
  findingIf (Text.nonBlank? d.subject).isNone .noSubject ++
    findingIf (!d.hasCategory .camera) .noCamera ++
    findingIf (!d.hasCategory .lighting) .noLighting ++
    findingIf (repeated != []) (.redundant (repeated.take maxListed)) ++
    (contradictions.filter fun c =>
      c.first.occurs lower.toList && c.second.occurs lower.toList).map
        (fun c => .contradiction c.message) ++
    findingIf (d.model == .dalle && decide (plainMaxLength < prompt.length)) .tooLong

end PromptStudio.Prompt
