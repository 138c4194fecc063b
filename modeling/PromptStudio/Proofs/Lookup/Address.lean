import Mathlib.Data.List.Basic
import PromptStudio.Lookup.Subject
import PromptStudio.Proofs.Text.Percent
import PromptStudio.Proofs.Text.Trimmed
import PromptStudio.Service.Serve

/-!
# Addresses below a place

What is put below a place stays there, as one segment more or none, with one exception: two dots
that are kept apart by nothing but tabs and line breaks lead one segment up.
-/

namespace PromptStudio.Proofs
open Lookup

/-- The characters that end a segment or the path. -/
def separators : List Char := ['/', '\\', '?', '#']

/-- Whether characters, once decoded, are one dot or two. -/
def isDots (cs : List Char) : Bool :=
  let bytes := Text.Percent.decode (Text.Utf8.encode cs)
  bytes == Text.Utf8.encode ['.'] || bytes == Text.Utf8.encode ['.', '.']

/-- One segment of an address, which leads down. -/
structure IsSegment (s : String) : Prop where
  ne_empty : s ≠ ""
  whole : ∀ c ∈ separators, c ∉ s.toList
  down : isDots s.toList = false

/-- The address is a place, or one segment below it. -/
def StaysBelow (p : Place) (url : String) : Prop :=
  url = p.url ∨ ∃ s, IsSegment s ∧ url = p.url ++ "/" ++ s

/-- What is left of a text without tabs and line breaks. -/
def unbroken (text : String) : List Char :=
  text.toList.filter fun c => !isBreak c

/-- Two dots that only tabs and line breaks keep apart. -/
def Climbs (text : String) : Prop :=
  text ≠ ".." ∧ unbroken text = ['.', '.']

instance (text : String) : Decidable (Climbs text) :=
  inferInstanceAs (Decidable (text ≠ ".." ∧ unbroken text = ['.', '.']))

/-- The texts that a lookup puts below a place: terms, and titles that are required. -/
def Accepted (text : String) : Prop :=
  (∃ s, term s = .ok text) ∨ ∃ name limit s, required name limit s = .ok text

/-! ## Segments -/

lemma standsRaw_iff {b : UInt8} : standsRaw b = true ↔
    0x20 ≤ b ∧ b < 0x7F ∧ Char.ofNat b.toNat ∉ reserved := by
  unfold standsRaw
  simp [and_assoc]

lemma ascii_of_standsRaw (b : UInt8) (h : standsRaw b = true) : b < 0x80 ∧ b ≠ 37 := by
  obtain ⟨-, hhigh, hreserved⟩ := standsRaw_iff.1 h
  refine ⟨UInt8.lt_trans hhigh (by decide), ?_⟩
  rintro rfl
  exact hreserved (by decide)

lemma separator_not_mem_triplet (b : UInt8) : ∀ c ∈ separators, c ∉ Text.Percent.triplet b := by
  have hdigit : ∀ n < 16, Text.Percent.hexDigit n ∉ separators := by decide
  have hb := b.toNat_lt
  intro c hc hmem
  unfold Text.Percent.triplet at hmem
  rcases List.mem_cons.1 hmem with rfl | hmem
  · exact absurd hc (by decide)
  rcases List.mem_cons.1 hmem with rfl | hmem
  · exact hdigit _ (by omega) hc
  · rw [List.mem_singleton.1 hmem] at hc
    exact hdigit _ (by omega) hc

lemma separator_not_mem_segment (cs : List Char) :
    ∀ c ∈ separators, c ∉ (Lookup.segment cs).toList := by
  intro c hc hmem
  unfold Lookup.segment Text.Percent.encode at hmem
  rw [String.toList_ofList] at hmem
  obtain ⟨b, -, hb⟩ := List.mem_flatMap.1 hmem
  split at hb
  · rename_i hraw
    rw [List.mem_singleton.1 hb] at hc
    have hreserved : separators ⊆ reserved := by decide
    exact (standsRaw_iff.1 hraw).2.2 (hreserved hc)
  · exact separator_not_mem_triplet b c hc hb

theorem decode_segment (cs : List Char) :
    Text.Percent.decode (Text.Utf8.encode (Lookup.segment cs).toList) = Text.Utf8.encode cs := by
  unfold Lookup.segment
  rw [String.toList_ofList, decode_encode ascii_of_standsRaw]

lemma isSegment_segment {cs : List Char} (hne : cs ≠ []) (hone : cs ≠ ['.'])
    (htwo : cs ≠ ['.', '.']) : IsSegment (Lookup.segment cs) where
  ne_empty := by
    intro hempty
    have hdecode := decode_segment cs
    rw [hempty] at hdecode
    have hsame : Text.Utf8.encode cs = Text.Utf8.encode [] := hdecode.symm
    exact hne (utf8_encode_injective hsame)
  whole := separator_not_mem_segment cs
  down := by
    unfold isDots
    dsimp only
    rw [decode_segment, Bool.or_eq_false_iff, beq_eq_false_iff_ne, beq_eq_false_iff_ne]
    exact ⟨fun h => hone (utf8_encode_injective h), fun h => htwo (utf8_encode_injective h)⟩

/-! ## Accepted texts -/

lemma Accepted.trimmed {text : String} (h : Accepted text) :
    ∃ s, text = Text.trim s ∧ text ≠ "" := by
  rcases h with ⟨s, h⟩ | ⟨name, limit, raw, h⟩
  · obtain ⟨heq, hne, -⟩ := eq_of_term h
    exact ⟨s, heq, hne⟩
  · obtain ⟨heq, hne, -⟩ := eq_of_required h
    exact ⟨raw.getD "", heq, hne⟩

lemma isBreak_of_not_isBlank {c : Char} (h : Text.isBlank c = false) : isBreak c = false := by
  cases hbreak : isBreak c with
  | false => rfl
  | true =>
    unfold isBreak at hbreak
    rw [Bool.or_eq_true, Bool.or_eq_true, beq_iff_eq, beq_iff_eq, beq_iff_eq] at hbreak
    rcases hbreak with (rfl | rfl) | rfl <;> exact absurd h (by decide)

lemma Accepted.ends {text : String} (h : Accepted text) : ∃ c rest, text.toList = c :: rest ∧
    isBreak c = false ∧ ∀ d, (c :: rest).getLast? = some d → isBreak d = false := by
  obtain ⟨s, rfl, hne⟩ := h.trimmed
  rw [Text.toList_trim]
  cases hchars : Text.trimChars s.toList with
  | nil => exact absurd (by rw [Text.trim, hchars]) hne
  | cons c rest =>
    refine ⟨c, rest, rfl, ?_, ?_⟩
    · apply isBreak_of_not_isBlank
      exact Text.isBlank_of_head?_trimChars (by rw [hchars]; rfl)
    · intro d hd
      apply isBreak_of_not_isBlank
      exact Text.isBlank_of_getLast?_trimChars (by rw [hchars]; exact hd)

lemma unbroken_ne_nil {text : String} (h : Accepted text) : unbroken text ≠ [] := by
  obtain ⟨c, rest, htext, hfirst, -⟩ := h.ends
  unfold unbroken
  rw [htext, List.filter_cons_of_pos (by rw [hfirst]; rfl)]
  exact List.cons_ne_nil _ _

lemma eq_of_unbroken_singleton {text : String} (h : Accepted text) {d : Char}
    (hone : unbroken text = [d]) : text = String.ofList [d] := by
  obtain ⟨c, rest, htext, hfirst, hlast⟩ := h.ends
  unfold unbroken at hone
  rw [htext, List.filter_cons_of_pos (by rw [hfirst]; rfl)] at hone
  obtain ⟨rfl, hnone⟩ := List.cons.inj hone
  have hrest : rest = [] := by
    rcases List.eq_nil_or_concat' rest with hnil | ⟨front, e, rfl⟩
    · exact hnil
    · have he := hlast e (by rw [← List.cons_append, List.getLast?_concat])
      have hmem := List.filter_eq_nil_iff.1 hnone e (by simp)
      rw [he] at hmem
      exact absurd rfl hmem
  rw [← String.toList_inj, htext, hrest, String.toList_ofList]

/-- Where an accepted text leads: to the place itself, one segment up, or one segment down. -/
theorem below_cases (p : Place) {text : String} (h : Accepted text) :
    (¬ Climbs text ∧ p.below text = p.url) ∨
    (Climbs text ∧ p.below text = p.parent.url ++ "/") ∨
    (¬ Climbs text ∧ IsSegment (Lookup.segment (unbroken text)) ∧
      p.below text = p.url ++ "/" ++ Lookup.segment (unbroken text)) := by
  have hempty := unbroken_ne_nil h
  by_cases hdots : text = "." ∨ text = ".."
  · left
    refine ⟨?_, if_pos hdots⟩
    rintro ⟨hne, htwo⟩
    rcases hdots with rfl | rfl
    · exact absurd htwo (by decide)
    · exact hne rfl
  -- An accepted text begins and ends with no break, so what is left as one dot was one.
  have hone : unbroken text ≠ ['.'] := fun heq =>
    hdots (Or.inl (eq_of_unbroken_singleton h heq))
  unfold Place.below
  rw [if_neg hdots]
  right
  split
  · rename_i htwo
    left
    exact ⟨⟨fun heq => hdots (Or.inr heq), htwo⟩, rfl⟩
  · rename_i heq
    exact absurd heq hone
  · rename_i htwo _
    right
    exact ⟨fun hclimbs => htwo hclimbs.2, isSegment_segment hempty hone htwo, rfl⟩

lemma not_staysBelow_parent {p : Place} (h : (p.parent.url ++ "/").length < p.url.length) :
    ¬ StaysBelow p (p.parent.url ++ "/") := by
  rintro (heq | ⟨s, -, heq⟩)
  · rw [heq] at h
    exact Nat.lt_irrefl _ h
  · rw [heq, String.length_append, String.length_append] at h
    omega

/-- The places below which lookups put a text of the client. -/
def openPlaces : List Place := [wordPlace, summaryPlace, relationPlace]

/-- The address of an accepted text stays below its place just if the text is not two dots with
nothing but tabs and line breaks between them. Such a text leads one segment up. -/
theorem staysBelow_iff_not_climbs (p : Place) (hp : p ∈ openPlaces) (text : String)
    (h : Accepted text) :
    (StaysBelow p (p.below text) ↔ ¬ Climbs text) ∧
    (Climbs text → p.below text = p.parent.url ++ "/") := by
  have hshorter : (p.parent.url ++ "/").length < p.url.length := by
    revert p
    decide
  rcases below_cases p h with ⟨hstays, heq⟩ | ⟨hclimbs, heq⟩ | ⟨hstays, hsegment, heq⟩
  · rw [heq]
    exact ⟨iff_of_true (Or.inl rfl) hstays, fun hclimbs => absurd hclimbs hstays⟩
  · rw [heq]
    exact ⟨iff_of_false (not_staysBelow_parent hshorter) (fun hstays => hstays hclimbs),
      fun _ => rfl⟩
  · rw [heq]
    exact ⟨iff_of_true (Or.inr ⟨_, hsegment, rfl⟩) hstays, fun hclimbs => absurd hclimbs hstays⟩

/-- Dots, a tab, a slash and encoded dots make one segment. -/
theorem staysBelow_with_separators :
    (wordPlace ∈ openPlaces ∧ Accepted "..\t/%2e%2E?") ∧
    StaysBelow wordPlace (wordPlace.below "..\t/%2e%2E?") := by
  have hplace : wordPlace ∈ openPlaces := List.mem_cons_self
  have haccepted : Accepted "..\t/%2e%2E?" := Or.inl ⟨"\n..\t/%2e%2E? ", by decide +kernel⟩
  have hstays : ¬ Climbs "..\t/%2e%2E?" := by decide
  exact ⟨⟨hplace, haccepted⟩,
    (staysBelow_iff_not_climbs wordPlace hplace _ haccepted).1.2 hstays⟩

/-- A lookup of two dots around a tab asks the dictionary one segment above its entries. -/
theorem word_of_dots_around_tab_leads_up :
    let around : Service.Surroundings := ⟨⟨0⟩, fun _ => some ⟨200, "[]"⟩, ⟨0⟩, false⟩
    let request : Http.Request := ⟨.get, "/api/v1/lookup/dictionary?word=.%09.", [], ""⟩
    let above := "https://api.dictionaryapi.dev/api/v2/entries/"
    wordPlace.url = "https://api.dictionaryapi.dev/api/v2/entries/en" ∧
    (Service.serve around ⟨.empty, .memory .empty, none⟩ request).sent = [⟨above, []⟩] ∧
    ¬ StaysBelow wordPlace above := by
  refine ⟨by decide +kernel, by decide +kernel, ?_⟩
  exact not_staysBelow_parent (by decide)

end PromptStudio.Proofs
