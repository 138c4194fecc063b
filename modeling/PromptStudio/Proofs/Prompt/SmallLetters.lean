import PromptStudio.Proofs.Prompt.Composition
import PromptStudio.Proofs.Prompt.Findings
import PromptStudio.Proofs.Text.Lowering

/-!
# The prompt in small letters

The parts of a prompt and its trailer are lower-cased on their own: what is put between them ends
every word.
-/

namespace PromptStudio.Proofs
open Prompt

/-! ## Joined texts -/

lemma lowercase_append {c : Char} (hc : IsBorder c) {s t : String} {cs : List Char}
    (ht : t.toList = c :: cs) :
    Text.lowercase (s ++ t) = Text.lowercase s ++ Text.lowercase t := by
  rw [← String.toList_inj, String.toList_append, toList_lowercase, toList_lowercase,
    toList_lowercase, String.toList_append, ht, smallChars_append hc, smallChars_cons hc]

lemma toList_lowercase_of_border {c : Char} (hc : IsBorder c) {s t : String}
    (ht : t.toList = c :: s.toList) : (Text.lowercase t).toList = c :: (Text.lowercase s).toList := by
  rw [toList_lowercase, toList_lowercase, ht, smallChars_cons hc]

lemma lowercase_space_append (s : String) : Text.lowercase (" " ++ s) = " " ++ Text.lowercase s := by
  rw [← String.toList_inj, toList_lowercase_of_border isBorder_space String.toList_append,
    String.toList_append]
  rfl

lemma lowercase_separator_append (s : String) :
    Text.lowercase (", " ++ s) = ", " ++ Text.lowercase s := by
  have hchars : (", " ++ s).toList = ',' :: (" " ++ s).toList := by
    rw [String.toList_append, String.toList_append]
    rfl
  rw [← String.toList_inj, toList_lowercase_of_border isBorder_comma hchars,
    lowercase_space_append, String.toList_append, String.toList_append]
  rfl

lemma lowercase_intercalate (texts : List String) :
    Text.lowercase (", ".intercalate texts) = ", ".intercalate (texts.map Text.lowercase) := by
  induction texts with
  | nil => rfl
  | cons text texts ih =>
    cases texts with
    | nil =>
      rw [String.intercalate_singleton, List.map_singleton, String.intercalate_singleton]
    | cons next texts =>
      have hjoined : ", ".intercalate ((text :: next :: texts).map Text.lowercase) =
          Text.lowercase text ++ (", " ++ ", ".intercalate ((next :: texts).map Text.lowercase)) := by
        rw [List.map_cons, List.map_cons, String.intercalate_cons_cons, String.append_assoc]
      rw [hjoined, ← ih, ← lowercase_separator_append, String.intercalate_cons_cons,
        String.append_assoc]
      exact lowercase_append isBorder_comma (String.toList_append ..)

/-! ## Trailers -/

/-- The modifiers that are given, one after the other. -/
def modifiersText (p : Params) : String := " ".intercalate (presentModifiers p)

lemma exists_modifier {p : Params} {text : String} (h : text ∈ presentModifiers p) :
    ∃ cs, text.toList = '-' :: cs := by
  rw [← modifiers_eq, Params.modifiers] at h
  simp only [List.mem_append, Option.mem_toList, Option.map_eq_some_iff] at h
  obtain ((⟨value, -, rfl⟩ | ⟨value, -, rfl⟩) | ⟨value, -, rfl⟩) | ⟨value, -, rfl⟩ := h
  · exact ⟨"-ar ".toList ++ value.toList, String.toList_append⟩
  · exact ⟨"-s ".toList ++ value.plain.toList, String.toList_append⟩
  · exact ⟨"-q ".toList ++ value.plain.toList, String.toList_append⟩
  · exact ⟨"-seed ".toList ++ value.toList, String.toList_append⟩

lemma exists_toList_modifiersText {p : Params} (h : presentModifiers p ≠ []) :
    ∃ cs, (modifiersText p).toList = '-' :: cs := by
  unfold modifiersText
  cases htexts : presentModifiers p with
  | nil => exact absurd htexts h
  | cons text texts =>
    obtain ⟨cs, hcs⟩ := exists_modifier (htexts ▸ List.mem_cons_self : text ∈ presentModifiers p)
    cases texts with
    | nil => exact ⟨cs, by rw [String.intercalate_singleton, hcs]⟩
    | cons next texts =>
      refine ⟨cs ++ (" " ++ " ".intercalate (next :: texts)).toList, ?_⟩
      rw [String.intercalate_cons_cons, String.append_assoc, String.toList_append, hcs,
        List.cons_append]

/-- Nothing follows the parts, or the modifiers do, with a space if there are any parts, or the
negative prompt as a paragraph of its own. -/
lemma trailer_cases (d : Document) :
    d.trailer = "" ∨
    (d.model = .midjourney ∧ presentModifiers d.params ≠ [] ∧
      d.trailer = (if d.base = "" then "" else " ") ++ modifiersText d.params) ∨
    (d.model ≠ .midjourney ∧ d.trailer = "\n\nNegative prompt: " ++ Text.trim d.negative) := by
  rw [trailer_eq, bare_eq]
  unfold trailerFor
  cases hmodel : d.model with
  | midjourney =>
    dsimp only
    by_cases hnone : presentModifiers d.params = []
    · exact Or.inl (if_pos hnone)
    · exact Or.inr (Or.inl ⟨rfl, hnone, if_neg hnone⟩)
  | sdxl | flux =>
    dsimp only
    by_cases hblank : Text.trim d.negative = ""
    · exact Or.inl (if_pos hblank)
    · exact Or.inr (Or.inr ⟨by decide, if_neg hblank⟩)
  | dalle => exact Or.inl rfl

lemma smallPrompt_eq (d : Document) :
    smallPrompt d = ", ".intercalate (d.parts.map Text.lowercase) ++ Text.lowercase d.trailer := by
  rw [← lowercase_intercalate, smallPrompt, Document.prompt]
  change Text.lowercase (d.base ++ d.trailer) = Text.lowercase d.base ++ Text.lowercase d.trailer
  rcases trailer_cases d with htrailer | ⟨-, -, htrailer⟩ | ⟨-, htrailer⟩
  · rw [htrailer, String.append_empty]
    exact String.append_empty.symm
  · by_cases hbase : d.base = ""
    · rw [hbase, String.empty_append]
      exact String.empty_append.symm
    · rw [if_neg hbase] at htrailer
      have hchars : d.trailer.toList = ' ' :: (modifiersText d.params).toList := by
        rw [htrailer]
        exact String.toList_append
      exact lowercase_append isBorder_space hchars
  · have hchars : d.trailer.toList =
        '\n' :: ("\nNegative prompt: ".toList ++ (Text.trim d.negative).toList) := by
      rw [htrailer]
      exact String.toList_append
    exact lowercase_append isBorder_lineFeed hchars

end PromptStudio.Proofs
