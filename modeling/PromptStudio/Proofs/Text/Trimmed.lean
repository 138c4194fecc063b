import Mathlib.Data.List.TakeWhile
import Mathlib.Tactic.Lemma
import PromptStudio.Lookup.Term
import PromptStudio.Project.Draft

/-!
# Trimmed texts of bounded length

Terms, required parameters and names of projects are accepted by one rule: what is left of the text
once it is trimmed must not be empty, and not longer than a bound.
-/

namespace PromptStudio.Proofs

section padding

variable {before cs after : List Char}

lemma trimChars_append_blank (h : ∀ c ∈ after, Text.isBlank c = true) :
    Text.trimChars (cs ++ after) = Text.trimChars cs := by
  have hafter : after.dropWhile Text.isBlank = [] := List.dropWhile_eq_nil_iff.2 h
  have hreverse : ∀ c ∈ after.reverse, Text.isBlank c = true :=
    fun c hc => h c (List.mem_reverse.1 hc)
  unfold Text.trimChars
  rw [List.dropWhile_append]
  split
  · rename_i hblank
    rw [hafter, List.isEmpty_iff.1 hblank]
  · rw [List.reverse_append, List.dropWhile_append_of_pos hreverse]

lemma trimChars_padded (hbefore : ∀ c ∈ before, Text.isBlank c = true)
    (hafter : ∀ c ∈ after, Text.isBlank c = true) :
    Text.trimChars (before ++ cs ++ after) = Text.trimChars cs := by
  rw [trimChars_append_blank hafter]
  unfold Text.trimChars
  rw [List.dropWhile_append_of_pos hbefore]

lemma trimChars_of_not_blank (h : ∀ c ∈ cs, Text.isBlank c = false) : Text.trimChars cs = cs :=
  Text.trimChars_eq_self (fun c hc => h c (List.mem_of_head? hc))
    fun c hc => h c (List.mem_of_getLast? hc)

end padding

lemma nonBlank?_of_blank {s : String} (h : Text.trim s = "") : Text.nonBlank? s = none :=
  if_pos h

lemma nonBlank?_of_ne {s : String} (h : Text.trim s ≠ "") :
    Text.nonBlank? s = some (Text.trim s) :=
  if_neg h

lemma nonBlank?_eq_some_iff {s t : String} :
    Text.nonBlank? s = some t ↔ t = Text.trim s ∧ t ≠ "" := by
  by_cases hblank : Text.trim s = ""
  · rw [nonBlank?_of_blank hblank, hblank]
    exact ⟨nofun, fun h => absurd h.1 h.2⟩
  · rw [nonBlank?_of_ne hblank, Option.some.injEq]
    constructor
    · rintro rfl
      exact ⟨rfl, hblank⟩
    · exact fun h => h.1.symm

lemma nonBlank?_bind_nonBlank? (s : Option String) :
    (s.bind Text.nonBlank?).bind Text.nonBlank? = s.bind Text.nonBlank? := by
  cases s with
  | none => rfl
  | some s =>
    rw [Option.bind_some]
    by_cases hblank : Text.trim s = ""
    · rw [nonBlank?_of_blank hblank]
      rfl
    · have htrimmed : Text.trim (Text.trim s) ≠ "" := by rwa [Text.trim_trim]
      rw [nonBlank?_of_ne hblank, Option.bind_some, nonBlank?_of_ne htrimmed, Text.trim_trim]

lemma eq_of_bounded {t u : String} {limit : Nat} {empty long : Rejection}
    (h : (if t = "" then .error empty else if limit < t.length then .error long else .ok t) =
      Except.ok u) : u = t ∧ u ≠ "" ∧ u.length ≤ limit := by
  by_cases hempty : t = ""
  · rw [if_pos hempty] at h
    cases h
  · rw [if_neg hempty] at h
    by_cases hlong : limit < t.length
    · rw [if_pos hlong] at h
      cases h
    · rw [if_neg hlong] at h
      cases h
      exact ⟨rfl, hempty, Nat.le_of_not_lt hlong⟩

lemma eq_of_term {s t : String} (h : Lookup.term s = .ok t) :
    t = Text.trim s ∧ t ≠ "" ∧ t.length ≤ 80 :=
  eq_of_bounded h

lemma eq_of_required {name : String} {limit : Nat} {raw : Option String} {t : String}
    (h : Lookup.required name limit raw = .ok t) :
    t = Text.trim (raw.getD "") ∧ t ≠ "" ∧ t.length ≤ limit :=
  eq_of_bounded h

lemma eq_of_projectName {s name : String} (h : Project.projectName s = .ok name) :
    name = Text.trim s ∧ name ≠ "" ∧ name.length ≤ 60 :=
  eq_of_bounded h

/-- A text is given, trimmed, and not empty. -/
structure TrimmedFrom (raw : Option String) (t : String) : Prop where
  given : ∃ s, raw = some s ∧ t = Text.trim s
  trimmed : Text.trim t = t
  nonempty : 1 ≤ t.length

lemma trimmedFrom {raw : Option String} {t : String} (htrim : t = Text.trim (raw.getD ""))
    (hne : t ≠ "") : TrimmedFrom raw t := by
  constructor
  · cases raw with
    | none => exact absurd htrim hne
    | some s => exact ⟨s, rfl, htrim⟩
  · rw [htrim, Text.trim_trim]
  · rw [Nat.one_le_iff_ne_zero]
    intro hzero
    exact hne (String.length_eq_zero_iff.1 hzero)

end PromptStudio.Proofs
