import PromptStudio.Proofs.Lookup.Address
import PromptStudio.Proofs.Text.Separators
import PromptStudio.Proofs.Text.Utf8

/-!
# Segments tell their texts

A text that nothing is left out of is put below a place as one segment, and decoding the segment
gives the text back. So the address tells both the place and the text.
-/

namespace PromptStudio.Proofs
open Lookup

/-- A text that becomes one segment with nothing left out: it has no tab and no line break, and is
neither one dot nor two. -/
structure Segmental (text : String) : Prop where
  tab : '\t' ∉ text.toList
  lineFeed : '\n' ∉ text.toList
  carriageReturn : '\r' ∉ text.toList
  oneDot : text ≠ "."
  twoDots : text ≠ ".."

/-- The text that a segment stands for, if its bytes are UTF-8. -/
def segmentText? (s : String) : Option String :=
  (Text.Utf8.decode? (Text.Percent.decode (Text.Utf8.encode s.toList))).map String.ofList

lemma segmentText?_segment (cs : List Char) :
    segmentText? (Lookup.segment cs) = some (String.ofList cs) := by
  rw [segmentText?, decode_segment, utf8_decode?_encode, Option.map_some]

lemma Segmental.unbroken_eq {text : String} (h : Segmental text) :
    unbroken text = text.toList := by
  refine List.filter_eq_self.2 fun c hc => ?_
  have htab : c ≠ '\t' := fun heq => h.tab (heq ▸ hc)
  have hfeed : c ≠ '\n' := fun heq => h.lineFeed (heq ▸ hc)
  have hreturn : c ≠ '\r' := fun heq => h.carriageReturn (heq ▸ hc)
  simp [isBreak, htab, hfeed, hreturn]

lemma Segmental.below_eq {text : String} (h : Segmental text) (p : Place) :
    p.below text = p.url ++ "/" ++ Lookup.segment text.toList := by
  have hchars : (text.toList.filter fun c => !isBreak c) = text.toList := h.unbroken_eq
  unfold Place.below
  rw [if_neg (not_or.2 ⟨h.oneDot, h.twoDots⟩), hchars]
  split
  · rename_i heq
    exact absurd (String.toList_inj.1 heq) h.twoDots
  · rename_i heq
    exact absurd (String.toList_inj.1 heq) h.oneDot
  · rfl

lemma url_injective : ∀ p ∈ openPlaces, ∀ q ∈ openPlaces, p.url = q.url → p = q := by
  decide

lemma below_inj {p q : Place} {s t : String} (hs : '/' ∉ s.toList) (ht : '/' ∉ t.toList)
    (h : p.url ++ "/" ++ s = q.url ++ "/" ++ t) : p.url = q.url ∧ s = t := by
  have hchars := congrArg String.toList h
  simp only [String.toList_append, List.append_assoc] at hchars
  obtain ⟨hplace, hsegment⟩ := (append_cons_inj_of_not_mem_right hs ht).1 hchars
  exact ⟨String.toList_inj.1 hplace, String.toList_inj.1 hsegment⟩

/-- A text without tabs and line breaks that is neither one dot nor two is put below a place as one
segment, and decoding this gives the text back. No other such text has the address, below whatever
place. -/
theorem segment_tells_text (p : Place) (hp : p ∈ openPlaces) (text : String)
    (h : Segmental text) :
    (∃ s, p.below text = p.url ++ "/" ++ s ∧ (∀ c ∈ separators, c ∉ s.toList) ∧
      segmentText? s = some text) ∧
    ∀ q ∈ openPlaces, ∀ text', Segmental text' → q.below text' = p.below text →
      q = p ∧ text' = text := by
  have hslash (cs : List Char) : '/' ∉ (Lookup.segment cs).toList :=
    separator_not_mem_segment cs '/' (by decide)
  constructor
  · refine ⟨Lookup.segment text.toList, h.below_eq p, separator_not_mem_segment _, ?_⟩
    rw [segmentText?_segment, String.ofList_toList]
  · intro q hq text' h' hsame
    rw [h.below_eq p, h'.below_eq q] at hsame
    obtain ⟨hplace, hsegment⟩ := below_inj (hslash _) (hslash _) hsame
    refine ⟨url_injective q hq p hp hplace, ?_⟩
    -- Equal segments stand for equal texts.
    have htext := congrArg segmentText? hsegment
    rwa [segmentText?_segment, segmentText?_segment, String.ofList_toList, String.ofList_toList,
      Option.some.injEq] at htext

/-- An escape, a slash, dots and two letters outside ASCII. -/
theorem segment_tells_text_with_escape :
    let text := "%2e/é..ß"
    (wordPlace ∈ openPlaces ∧ Segmental text) ∧
    wordPlace.below text =
      "https://api.dictionaryapi.dev/api/v2/entries/en/%252e%2F%C3%A9..%C3%9F" ∧
    (∃ s, wordPlace.below text = wordPlace.url ++ "/" ++ s ∧
      (∀ c ∈ separators, c ∉ s.toList) ∧ segmentText? s = some text) ∧
    relationPlace.below "./é..ß" ≠ wordPlace.below text := by
  intro text
  have hplace : wordPlace ∈ openPlaces := List.mem_cons_self
  have htext : Segmental text := by constructor <;> decide
  have hother : Segmental "./é..ß" := by constructor <;> decide
  obtain ⟨hsegment, hunique⟩ := segment_tells_text wordPlace hplace text htext
  refine ⟨⟨hplace, htext⟩, by decide +kernel, hsegment, fun hsame => ?_⟩
  obtain ⟨hp, -⟩ := hunique relationPlace (by decide) _ hother hsame
  exact absurd hp (by decide)

end PromptStudio.Proofs
