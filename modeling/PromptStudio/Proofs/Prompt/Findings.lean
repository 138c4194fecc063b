import Mathlib.Tactic.Lemma
import PromptStudio.Prompt.Lint

/-!
# Findings of each kind

What has to hold of a document for a finding of each kind to be reported.
-/

namespace PromptStudio.Proofs
open Prompt

/-- The prompt of a document in small letters. -/
def smallPrompt (d : Document) : String := Text.lowercase d.prompt

/-- The contradictions that are found in a prompt in small letters. -/
def contradictionsFound (d : Document) : List Contradiction :=
  contradictions.filter fun c =>
    c.first.occurs (smallPrompt d).toList && c.second.occurs (smallPrompt d).toList

@[simp] lemma findingIf_false (f : Finding) : findingIf false f = [] := rfl

@[simp] lemma mem_findingIf {condition : Bool} {f g : Finding} :
    g ∈ findingIf condition f ↔ condition = true ∧ g = f := by
  cases condition <;> simp [findingIf]

@[simp] lemma filter_findingIf (p : Finding → Bool) (condition : Bool) (f : Finding) :
    (findingIf condition f).filter p = findingIf (condition && p f) f := by
  cases condition <;> cases h : p f <;> simp [findingIf, h]

lemma lint_eq (d : Document) :
    d.lint =
      findingIf (Text.nonBlank? d.subject).isNone .noSubject ++
      findingIf (!d.hasCategory .camera) .noCamera ++
      findingIf (!d.hasCategory .lighting) .noLighting ++
      findingIf (repeatedPhrases (smallPrompt d) != [])
        (.redundant ((repeatedPhrases (smallPrompt d)).take maxListed)) ++
      (contradictionsFound d).map (fun c => .contradiction c.message) ++
      findingIf (d.model == .dalle && decide (plainMaxLength < d.prompt.length)) .tooLong :=
  rfl

lemma noSubject_mem_lint_iff (d : Document) : .noSubject ∈ d.lint ↔ Text.trim d.subject = "" := by
  simp [Document.lint, Text.nonBlank?]

lemma noCamera_mem_lint_iff (d : Document) :
    .noCamera ∈ d.lint ↔ d.hasCategory .camera = false := by
  simp [Document.lint]

lemma noLighting_mem_lint_iff (d : Document) :
    .noLighting ∈ d.lint ↔ d.hasCategory .lighting = false := by
  simp [Document.lint]

lemma contradiction_mem_lint_iff (d : Document) (m : String) :
    .contradiction m ∈ d.lint ↔ ∃ c ∈ contradictionsFound d, c.message = m := by
  simp [lint_eq]

lemma tooLong_mem_lint_iff (d : Document) :
    .tooLong ∈ d.lint ↔ d.model = .dalle ∧ plainMaxLength < d.prompt.length := by
  simp [Document.lint]

lemma redundant_mem_lint_iff (d : Document) (phrases : List String) :
    .redundant phrases ∈ d.lint ↔
      repeatedPhrases (smallPrompt d) ≠ [] ∧
        phrases = (repeatedPhrases (smallPrompt d)).take maxListed := by
  simp [Document.lint, smallPrompt]

end PromptStudio.Proofs
