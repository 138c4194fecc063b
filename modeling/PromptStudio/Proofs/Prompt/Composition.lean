import PromptStudio.Proofs.Prompt.Parts

/-!
# Prompts of documents put together

Wherever the fragments of a document are divided, its prompt without the trailer is that of the
first half and that of the second, with a comma between them only if there is something on both
sides. The trailer takes no more from the parts than whether there are any.
-/

namespace PromptStudio.Proofs
open Prompt

/-! ## Joined texts side by side -/

/-- Two texts with a comma between them, if neither is empty. -/
def glue (first second : String) : String :=
  if first = "" then second else if second = "" then first else first ++ ", " ++ second

lemma intercalate_append {texts later : List String} (h : "" ∉ texts) (hlater : "" ∉ later) :
    String.intercalate ", " (texts ++ later) =
      glue (String.intercalate ", " texts) (String.intercalate ", " later) := by
  unfold glue
  simp only [intercalate_eq_empty_iff ", " h, intercalate_eq_empty_iff ", " hlater]
  by_cases hnil : texts = []
  · rw [if_pos hnil, hnil, List.nil_append]
  by_cases hnil' : later = []
  · rw [if_neg hnil, if_pos hnil', hnil', List.append_nil]
  · rw [if_neg hnil, if_neg hnil', String.intercalate_append_of_ne_nil hnil hnil']

/-! ## Without the trailer -/

/-- The prompt of a document without its negative prompt and its parameters. -/
def bare (d : Document) : String :=
  { d with negative := "", params := .empty }.prompt

lemma bare_eq (d : Document) : bare d = d.base :=
  prompt_eq_base Text.trim_empty rfl

lemma parts_append (d : Document) (xs ys : List Fragment) :
    { d with fragments := xs ++ ys }.parts =
      { d with fragments := xs }.parts ++ { d with subject := "", fragments := ys }.parts := by
  have hsubject : (Text.nonBlank? "").toList = [] := rfl
  unfold Document.parts
  rw [List.flatMap_append, hsubject, List.nil_append, List.append_assoc]

/-! ## The trailer -/

/-- The modifiers that are given, in order. -/
def presentModifiers (p : Params) : List String :=
  [(p.aspect.bind Text.nonBlank?).map ("--ar " ++ ·), p.stylize.map ("--s " ++ ·.plain),
    p.quality.map ("--q " ++ ·.plain),
    (p.seed.bind Text.nonBlank?).map ("--seed " ++ ·)].reduceOption

/-- What a model has behind the parts of a prompt, or in their place if there are none. -/
def trailerFor (m : Model) (p : Params) (negative : String) (alone : Prop) [Decidable alone] :
    String :=
  match m with
  | .midjourney =>
    if presentModifiers p = [] then ""
    else (if alone then "" else " ") ++ String.intercalate " " (presentModifiers p)
  | .sdxl | .flux =>
    if Text.trim negative = "" then "" else "\n\nNegative prompt: " ++ Text.trim negative
  | .dalle => ""

lemma modifiers_eq (p : Params) : p.modifiers = presentModifiers p := by
  unfold Params.modifiers presentModifiers
  cases p.aspect.bind Text.nonBlank? <;> cases p.stylize <;> cases p.quality <;>
    cases p.seed.bind Text.nonBlank? <;> rfl

lemma trailer_eq (d : Document) :
    d.trailer = trailerFor d.model d.params d.negative (bare d = "") := by
  unfold Document.trailer trailerFor
  rw [modifiers_eq, bare_eq]
  cases d.model with
  | midjourney =>
    dsimp only [Model.trailer]
    split
    · rfl
    split
    · exact String.empty_append.symm
    · rfl
  | sdxl | flux =>
    dsimp only [Model.trailer]
    by_cases hblank : Text.trim d.negative = ""
    · rw [if_pos hblank, nonBlank?_of_blank hblank]
    · rw [if_neg hblank, nonBlank?_of_ne hblank]
  | dalle => rfl

/-- Divide the fragments of a document anywhere: without the trailer its prompt is that of the first
half glued to that of the second one, which has no subject. The prompt is this and a trailer, which
depends on the model, the parameters, the negative prompt and whether anything stands before it. -/
theorem prompt_composes (d : Document) :
    (∀ xs ys, bare { d with fragments := xs ++ ys } =
      glue (bare { d with fragments := xs }) (bare { d with subject := "", fragments := ys })) ∧
    d.prompt = bare d ++ trailerFor d.model d.params d.negative (bare d = "") := by
  constructor
  · intro xs ys
    simp only [bare_eq, Document.base]
    rw [parts_append]
    exact intercalate_append (empty_not_mem_parts _) (empty_not_mem_parts _)
  · rw [← trailer_eq, bare_eq, Document.prompt]

end PromptStudio.Proofs
