import PromptStudio.Json.Basic
import PromptStudio.Prompt.Lint

/-!
# Reports

The report on a document is its prompt and what the rules have found.
-/

namespace PromptStudio.Prompt

def Severity.code : Severity → String
  | error => "error"
  | warning => "warning"

def Finding.toJson (f : Finding) : Json :=
  .record [("severity", .str f.severity.code), ("code", .str f.code), ("message", .str f.message),
    ("hint", .str f.hint)]

def Document.report (d : Document) : Json :=
  .record [("prompt", .str d.prompt), ("findings", .arr (d.lint.map Finding.toJson))]

end PromptStudio.Prompt
