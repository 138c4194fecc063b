import PromptStudio.Proofs.Prompt.Weights
import PromptStudio.Proofs.Text.Splitting
import PromptStudio.Proofs.Text.Trimmed

/-!
# The parts of a prompt

A prompt without a trailer is its parts joined by commas: the subject, then what each fragment that
is shown gives. If no text has a comma in it, splitting at the commas gives the parts back.
-/

namespace PromptStudio.Proofs
open Prompt

/-! ## Parts that are written -/

/-- A fragment is shown if it is not negative and not blank. -/
def Shown (f : Fragment) : Prop :=
  f.category ≠ .negative ∧ Text.trim f.text ≠ ""

instance : DecidablePred Shown := fun _ => inferInstanceAs (Decidable (_ ∧ _))

def shownFragments (d : Document) : List Fragment :=
  d.fragments.filter Shown

/-- What is written for a text: the text, or with emphasis the text beside its weight or as often
as its weight asks for. -/
def writtenParts (m : Model) (text : String) : Option Binary64 → List String
  | none => [text]
  | some weight =>
    match m with
    | .sdxl | .flux => ["(" ++ text ++ ":" ++ weightText weight ++ ")"]
    | .midjourney | .dalle => List.replicate (timesByWeight weight) text

/-- The trimmed subject if there is one, and what is written for each fragment that is shown. -/
def expectedParts (d : Document) : List String :=
  (if Text.trim d.subject = "" then [] else [Text.trim d.subject]) ++
    (shownFragments d).flatMap fun f => writtenParts d.model (Text.trim f.text) f.emphasis

lemma emphasized_eq (m : Model) (text : String) (weight : Binary64) :
    emphasized m.weightStyle text weight = writtenParts m text (some weight) := by
  cases m with
  | sdxl | flux => rfl
  | midjourney | dalle => exact congrArg (List.replicate · text) (repeats_eq weight)

lemma fragment_parts_eq (m : Model) (f : Fragment) :
    f.parts m.weightStyle =
      if Shown f then writtenParts m (Text.trim f.text) f.emphasis else [] := by
  unfold Fragment.parts
  by_cases hnegative : f.category = .negative
  · have hhidden : ¬ Shown f := fun h => h.1 hnegative
    rw [if_pos hnegative, if_neg hhidden]
  by_cases hblank : Text.trim f.text = ""
  · have hhidden : ¬ Shown f := fun h => h.2 hblank
    rw [if_neg hnegative, if_neg hhidden, nonBlank?_of_blank hblank]
  · have hshown : Shown f := ⟨hnegative, hblank⟩
    rw [if_neg hnegative, if_pos hshown, nonBlank?_of_ne hblank]
    dsimp only
    cases f.emphasis with
    | none => rfl
    | some weight => exact emphasized_eq m _ weight

lemma toList_nonBlank? (s : String) :
    (Text.nonBlank? s).toList = if Text.trim s = "" then [] else [Text.trim s] := by
  by_cases hblank : Text.trim s = ""
  · rw [nonBlank?_of_blank hblank, if_pos hblank]
    rfl
  · rw [nonBlank?_of_ne hblank, if_neg hblank]
    rfl

lemma parts_eq (d : Document) : d.parts = expectedParts d := by
  unfold Document.parts expectedParts shownFragments
  rw [toList_nonBlank?]
  refine congrArg _ ?_
  induction d.fragments with
  | nil => rfl
  | cons f fs ih =>
    rw [List.flatMap_cons, ih, fragment_parts_eq, List.filter_cons]
    by_cases hshown : Shown f
    · rw [if_pos hshown, if_pos (decide_eq_true hshown), List.flatMap_cons]
    · rw [if_neg hshown, if_neg fun h => hshown (of_decide_eq_true h), List.nil_append]

/-! ## No part is empty -/

lemma eq_of_mem_writtenParts {m : Model} {text part : String} {emphasis : Option Binary64}
    (h : part ∈ writtenParts m text emphasis) :
    part = text ∨ ∃ weight, part = "(" ++ text ++ ":" ++ weightText weight ++ ")" := by
  cases emphasis with
  | none => exact Or.inl (List.mem_singleton.1 h)
  | some weight =>
    cases m with
    | sdxl | flux => exact Or.inr ⟨weight, List.mem_singleton.1 h⟩
    | midjourney | dalle => exact Or.inl (List.eq_of_mem_replicate h)

lemma mem_expectedParts {d : Document} {part : String} (h : part ∈ expectedParts d) :
    (Text.trim d.subject ≠ "" ∧ part = Text.trim d.subject) ∨
      ∃ f ∈ shownFragments d, part ∈ writtenParts d.model (Text.trim f.text) f.emphasis := by
  rcases List.mem_append.1 h with hsubject | hfragment
  · split at hsubject
    · cases hsubject
    · rename_i hne
      exact Or.inl ⟨hne, List.mem_singleton.1 hsubject⟩
  · exact Or.inr (List.mem_flatMap.1 hfragment)

lemma empty_not_mem_parts (d : Document) : "" ∉ d.parts := by
  rw [parts_eq]
  intro h
  rcases mem_expectedParts h with ⟨hne, hsubject⟩ | ⟨f, hf, hpart⟩
  · exact hne hsubject.symm
  · have hshown : Shown f := of_decide_eq_true (List.mem_filter.1 hf).2
    rcases eq_of_mem_writtenParts hpart with htext | ⟨weight, hbracket⟩
    · exact hshown.2 htext.symm
    · have hclosing : ")" = "" := (String.append_eq_empty_iff.1 hbracket.symm).2
      exact absurd hclosing (by decide)

lemma intercalate_eq_empty_iff (sep : String) {texts : List String} (h : "" ∉ texts) :
    sep.intercalate texts = "" ↔ texts = [] := by
  constructor
  · intro hempty
    cases texts with
    | nil => rfl
    | cons text texts =>
      cases texts with
      | nil =>
        rw [String.intercalate_singleton] at hempty
        exact absurd (hempty ▸ List.mem_cons_self) h
      | cons next texts =>
        rw [String.intercalate_cons_cons, String.append_eq_empty_iff,
          String.append_eq_empty_iff] at hempty
        exact absurd (hempty.1.1 ▸ List.mem_cons_self) h
  · rintro rfl
    exact String.intercalate_nil

lemma base_eq_empty_iff (d : Document) : d.base = "" ↔ d.parts = [] :=
  intercalate_eq_empty_iff ", " (empty_not_mem_parts d)

lemma prompt_eq_base {d : Document} (hnegative : Text.trim d.negative = "")
    (hparams : d.params = .empty) : d.prompt = d.base := by
  have htrailer : d.trailer = "" := by
    unfold Document.trailer
    cases d.model with
    | midjourney =>
      rw [hparams]
      exact if_pos rfl
    | sdxl | flux =>
      dsimp only [Model.trailer]
      rw [nonBlank?_of_blank hnegative]
    | dalle => rfl
  rw [Document.prompt, htrailer, String.append_empty]

/-! ## Splitting -/

end PromptStudio.Proofs
