import Mathlib.Algebra.BigOperators.Group.List.Basic
import Mathlib.Data.List.Perm.Subperm
import PromptStudio.Proofs.Prompt.Cues
import PromptStudio.Proofs.Prompt.SmallLetters

/-!
# Fragments added and moved

No cue reaches from one part of a prompt into the next or into the trailer, so a cue is found in the
prompt just if it is found in a part or in the trailer. More fragments can take a finding of a
missing fragment away, and never one of a contradiction or of the length.
-/

namespace PromptStudio.Proofs
open Prompt

/-! ## Where no phrase goes on -/

/-- Characters into which a phrase does not go on from what stands before them: the first is in no
word of it, and the first behind white space begins none of its later words. -/
structure StopsPhrase (phrase : Phrase) (cs : List Char) : Prop where
  first : ∀ c, cs.head? = some c → ∀ w ∈ phrase, c ∉ w
  later : ∀ c, (cs.dropWhile Text.isBlank).head? = some c → ∀ w ∈ phrase.tail, w.head? ≠ some c

lemma StopsPhrase.rest {w next : List Char} {rest : Phrase} {cs : List Char}
    (h : StopsPhrase (w :: next :: rest) cs) : StopsPhrase (next :: rest) cs where
  first c hc v hv := h.first c hc v (List.mem_cons_of_mem w hv)
  later c hc v hv := h.later c hc v (List.mem_cons_of_mem next hv)

lemma prefix_append_iff {w cs ds : List Char} (h : ∀ c, ds.head? = some c → c ∉ w) :
    w <+: cs ++ ds ↔ w <+: cs := by
  refine ⟨fun hw => ?_, fun hw => hw.trans (List.prefix_append cs ds)⟩
  rcases List.prefix_or_prefix_of_prefix hw (List.prefix_append cs ds) with hcs | ⟨es, rfl⟩
  · exact hcs
  · cases es with
    | nil => exact ⟨[], by simp⟩
    | cons c es =>
      obtain ⟨rest, hrest⟩ := (List.prefix_append_right_inj cs).1 hw
      exact absurd (by simp) (h c (by rw [← hrest]; rfl))

lemma begins_eq_false {w : List Char} {rest : Phrase} {cs : List Char} (hne : w ≠ [])
    (h : ∀ c, cs.head? = some c → w.head? ≠ some c) : Phrase.begins (w :: rest) cs = false := by
  have hprefix : w.isPrefixOf cs = false := by
    rw [Bool.eq_false_iff, Ne, List.isPrefixOf_iff_prefix]
    rintro ⟨ds, rfl⟩
    cases w with
    | nil => exact hne rfl
    | cons c w => exact h c rfl rfl
  cases rest with
  | nil => exact hprefix
  | cons next rest => rw [begins_cons_cons, hprefix, Bool.false_and]

/-- What stands behind a stop does not matter to a phrase that begins before it. -/
lemma begins_append {phrase : Phrase} (hletters : lettered phrase = true) {ds : List Char}
    (hstop : StopsPhrase phrase ds) (cs : List Char) :
    phrase.begins (cs ++ ds) = phrase.begins cs := by
  induction phrase generalizing cs with
  | nil => rfl
  | cons w rest ih =>
    have hw : w.isPrefixOf (cs ++ ds) = w.isPrefixOf cs := by
      rw [Bool.eq_iff_iff, List.isPrefixOf_iff_prefix, List.isPrefixOf_iff_prefix]
      exact prefix_append_iff fun c hc => hstop.first c hc w List.mem_cons_self
    cases rest with
    | nil => exact hw
    | cons next rest =>
      have hrest := (lettered_cons hletters).2 (List.cons_ne_nil next rest)
      obtain ⟨⟨c, letters, rfl, -⟩, -⟩ := lettered_cons hrest
      rw [begins_cons_cons, begins_cons_cons, hw]
      by_cases hcs : w <+: cs
      · obtain ⟨es, rfl⟩ := hcs
        rw [List.append_assoc, List.drop_left, List.drop_left, List.dropWhile_append]
        -- Either the word is followed by blanks up to the stop, or the next word is before it.
        cases hes : es.dropWhile Text.isBlank with
        | nil =>
          rw [List.isEmpty_nil, if_pos rfl,
            begins_eq_false (List.cons_ne_nil c letters)
              fun d hd => hstop.later d hd _ List.mem_cons_self,
            begins_eq_false (List.cons_ne_nil c letters) fun d hd => by cases hd]
        | cons d es => rw [List.isEmpty_cons, if_neg Bool.false_ne_true, ih hrest hstop.rest]
      · rw [← List.isPrefixOf_iff_prefix, Bool.not_eq_true] at hcs
        rw [hcs, Bool.false_and, Bool.false_and]

lemma occurs_nil {p : Pattern} (hletters : ∀ phrase ∈ p, lettered phrase = true) :
    p.occurs [] = false := by
  rw [Pattern.occurs, List.any_eq_false]
  intro phrase hphrase
  rw [Bool.not_eq_true]
  cases phrase with
  | nil => exact absurd (hletters [] hphrase) (by decide)
  | cons w rest =>
    obtain ⟨⟨c, letters, rfl, -⟩, -⟩ := lettered_cons (hletters _ hphrase)
    exact begins_eq_false (List.cons_ne_nil c letters) fun d hd => by cases hd

lemma occurs_append {p : Pattern} (hletters : ∀ phrase ∈ p, lettered phrase = true)
    {ds : List Char} (hstop : ∀ phrase ∈ p, StopsPhrase phrase ds) (cs : List Char) :
    p.occurs (cs ++ ds) = (p.occurs cs || p.occurs ds) := by
  induction cs with
  | nil =>
    rw [List.nil_append, occurs_nil hletters, Bool.false_or]
  | cons c cs ih =>
    have hany : (p.any fun phrase => phrase.begins (c :: (cs ++ ds))) =
        p.any fun phrase => phrase.begins (c :: cs) := by
      rw [Bool.eq_iff_iff, List.any_eq_true, List.any_eq_true]
      refine exists_congr fun phrase => and_congr_right fun hphrase => ?_
      rw [← begins_append (hletters phrase hphrase) (hstop phrase hphrase) (c :: cs),
        List.cons_append]
    rw [List.cons_append, Pattern.occurs, hany, ih, Pattern.occurs, Bool.or_assoc]

/-! ## Cues in the parts and in the trailer -/

def cues : List Pattern := contradictions.flatMap fun c => [c.first, c.second]

lemma lettered_of_mem_cues {p : Pattern} (hp : p ∈ cues) :
    ∀ phrase ∈ p, lettered phrase = true := by
  obtain ⟨c, hc, hmem⟩ := List.mem_flatMap.1 hp
  obtain ⟨hfirst, hsecond⟩ := lettered_of_mem_contradictions hc
  rcases List.mem_cons.1 hmem with rfl | hmem
  · exact hfirst
  · exact List.mem_singleton.1 hmem ▸ hsecond

lemma marks_not_mem_cues : ∀ p ∈ cues, ∀ phrase ∈ p, ∀ w ∈ phrase,
    ',' ∉ w ∧ ' ' ∉ w ∧ '\n' ∉ w := by
  decide

/-- The first of the modifiers and the heading of a negative prompt begin no later word. -/
lemma later_words_of_cues : ∀ p ∈ cues, ∀ phrase ∈ p, ∀ w ∈ phrase.tail,
    w.head? ≠ some ',' ∧ w.head? ≠ some '-' ∧ w.head? ≠ some 'n' := by
  decide

lemma occurs_cons {p : Pattern} (hletters : ∀ phrase ∈ p, lettered phrase = true) {c : Char}
    (hc : ∀ phrase ∈ p, ∀ w ∈ phrase, c ∉ w) (cs : List Char) :
    p.occurs (c :: cs) = p.occurs cs := by
  have hnone : (p.any fun phrase => phrase.begins (c :: cs)) = false := by
    rw [List.any_eq_false]
    intro phrase hphrase
    rw [Bool.not_eq_true]
    cases phrase with
    | nil => exact absurd (hletters [] hphrase) (by decide)
    | cons w rest =>
      obtain ⟨⟨d, letters, rfl, -⟩, -⟩ := lettered_cons (hletters _ hphrase)
      refine begins_eq_false (List.cons_ne_nil d letters) fun e he hd => ?_
      cases he
      exact hc _ hphrase _ List.mem_cons_self (List.mem_of_mem_head? hd)
  rw [Pattern.occurs, hnone, Bool.false_or]

lemma occurs_separated {p : Pattern} (hp : p ∈ cues) (s t : String) :
    p.occurs (s ++ (", " ++ t)).toList = (p.occurs s.toList || p.occurs t.toList) := by
  have hletters := lettered_of_mem_cues hp
  have hmarks := marks_not_mem_cues p hp
  have hchars : (s ++ (", " ++ t)).toList = s.toList ++ ',' :: ' ' :: t.toList := by
    rw [String.toList_append, String.toList_append]
    rfl
  have hstop : ∀ phrase ∈ p, StopsPhrase phrase (',' :: ' ' :: t.toList) := by
    refine fun phrase hphrase => ⟨fun c hc w hw => ?_, fun c hc w hw => ?_⟩
    · cases hc
      exact (hmarks phrase hphrase w hw).1
    · cases hc
      exact (later_words_of_cues p hp phrase hphrase w hw).1
  rw [hchars, occurs_append hletters hstop,
    occurs_cons hletters fun phrase hphrase w hw => (hmarks phrase hphrase w hw).1,
    occurs_cons hletters fun phrase hphrase w hw => (hmarks phrase hphrase w hw).2.1]

lemma occurs_joined {p : Pattern} (hp : p ∈ cues) (texts : List String) :
    p.occurs (", ".intercalate texts).toList = texts.any fun t => p.occurs t.toList := by
  induction texts with
  | nil => exact occurs_nil (lettered_of_mem_cues hp)
  | cons text texts ih =>
    cases texts with
    | nil => rw [String.intercalate_singleton, List.any_cons, List.any_nil, Bool.or_false]
    | cons next texts =>
      rw [String.intercalate_cons_cons, String.append_assoc, occurs_separated hp, ih,
        List.any_cons (l := next :: texts)]

lemma exists_smallChars_heading (negative : String) :
    ∃ cs, smallChars ("\n\nNegative prompt: " ++ negative).toList = '\n' :: '\n' :: 'n' :: cs := by
  have hletter : Text.lowerChar 'N' = ['n'] := by decide +kernel
  have hn (cs : List Char) : smallChars ('N' :: cs) = 'n' :: Text.lowerAfter ['N'] cs := by
    rw [smallChars, lowerAfter_cons, smallForm, if_neg (by decide), hletter]
    exact List.singleton_append
  refine ⟨Text.lowerAfter ['N'] ("egative prompt: ".toList ++ negative.toList), ?_⟩
  rw [← hn, ← smallChars_cons isBorder_lineFeed, ← smallChars_cons isBorder_lineFeed,
    String.toList_append]
  exact congrArg smallChars (List.append_assoc ['\n', '\n', 'N'] _ _)

lemma stops_trailer {p : Pattern} (hp : p ∈ cues) {d : Document} (hbase : d.base ≠ "") :
    ∀ phrase ∈ p, StopsPhrase phrase (Text.lowercase d.trailer).toList := by
  intro phrase hphrase
  have hmarks := marks_not_mem_cues p hp phrase hphrase
  have hlater := later_words_of_cues p hp phrase hphrase
  rw [toList_lowercase]
  rcases trailer_cases d with htrailer | ⟨-, hsome, htrailer⟩ | ⟨-, htrailer⟩
  · rw [htrailer]
    refine ⟨fun c hc => ?_, fun c hc => ?_⟩
    · cases hc
    · cases hc
  · obtain ⟨cs, hcs⟩ := exists_toList_modifiersText hsome
    have hchars : smallChars d.trailer.toList = ' ' :: '-' :: smallChars cs := by
      rw [htrailer, if_neg hbase, String.toList_append, hcs, ← smallChars_cons isBorder_hyphen,
        ← smallChars_cons isBorder_space]
      rfl
    rw [hchars]
    refine ⟨fun c hc w hw => ?_, fun c hc w hw => ?_⟩
    · cases hc
      exact (hmarks w hw).2.1
    · cases hc
      exact (hlater w hw).2.1
  · obtain ⟨cs, hcs⟩ := exists_smallChars_heading (Text.trim d.negative)
    rw [htrailer]
    rw [hcs]
    refine ⟨fun c hc w hw => ?_, fun c hc w hw => ?_⟩
    · cases hc
      exact (hmarks w hw).2.2
    · cases hc
      exact (hlater w hw).2.2

lemma occurs_smallPrompt {p : Pattern} (hp : p ∈ cues) (d : Document) :
    p.occurs (smallPrompt d).toList =
      ((d.parts.any fun part => p.occurs (Text.lowercase part).toList) ||
        p.occurs (Text.lowercase d.trailer).toList) := by
  have hjoined := occurs_joined hp (d.parts.map Text.lowercase)
  rw [List.any_map, Function.comp_def] at hjoined
  rw [smallPrompt_eq]
  by_cases hbase : d.base = ""
  · have hparts := (base_eq_empty_iff d).1 hbase
    rw [hparts, List.map_nil, String.intercalate_nil, String.empty_append, List.any_nil,
      Bool.false_or]
  · rw [String.toList_append, occurs_append (lettered_of_mem_cues hp) (stops_trailer hp hbase),
      hjoined]

lemma occurs_trailerFor {q : Pattern} (hq : q ∈ cues) (m : Model) (p : Params) (negative : String)
    (alone : Prop) [Decidable alone] :
    q.occurs (Text.lowercase (trailerFor m p negative alone)).toList =
      q.occurs (Text.lowercase (trailerFor m p negative True)).toList := by
  cases m with
  | midjourney =>
    unfold trailerFor
    dsimp only
    by_cases hnone : presentModifiers p = []
    · rw [if_pos hnone, if_pos hnone]
    by_cases halone : alone
    · rw [if_neg hnone, if_neg hnone, if_pos halone, if_pos trivial]
    · have hchars : (" " ++ " ".intercalate (presentModifiers p)).toList =
          ' ' :: (" ".intercalate (presentModifiers p)).toList := String.toList_append
      rw [if_neg hnone, if_neg hnone, if_neg halone, if_pos trivial, String.empty_append,
        toList_lowercase, hchars, smallChars_cons isBorder_space,
        occurs_cons (lettered_of_mem_cues hq) fun phrase hphrase w hw =>
          (marks_not_mem_cues q hq phrase hphrase w hw).2.1, toList_lowercase]
  | sdxl | flux => rfl
  | dalle => rfl

/-! ## More fragments -/

section

variable {d : Document} {fragments : List Fragment}

lemma exists_added (h : d.fragments.Subperm fragments) :
    ∃ added, { d with fragments }.parts.Perm (d.parts ++ added) := by
  obtain ⟨kept, hperm, hsub⟩ := h
  obtain ⟨added, hadded⟩ := hsub.exists_perm_append
  refine ⟨added.flatMap (Fragment.parts d.model.weightStyle), ?_⟩
  unfold Document.parts
  rw [List.append_assoc, ← List.flatMap_append]
  exact ((hadded.trans (hperm.append_right added)).flatMap_right _).append_left _

lemma occurs_more {p : Pattern} (hp : p ∈ cues) (h : d.fragments.Subperm fragments)
    (hcue : p.occurs (smallPrompt d).toList = true) :
    p.occurs (smallPrompt { d with fragments }).toList = true := by
  obtain ⟨added, hadded⟩ := exists_added h
  rw [occurs_smallPrompt hp, Bool.or_eq_true, List.any_eq_true, trailer_eq,
    occurs_trailerFor hp] at hcue ⊢
  rcases hcue with ⟨part, hpart, hcue⟩ | hcue
  · exact Or.inl ⟨part, hadded.mem_iff.2 (List.mem_append_left added hpart), hcue⟩
  · exact Or.inr hcue

lemma contradictionsFound_more (h : d.fragments.Subperm fragments) {c : Contradiction}
    (hc : c ∈ contradictionsFound d) : c ∈ contradictionsFound { d with fragments } := by
  obtain ⟨hmem, hboth⟩ := List.mem_filter.1 hc
  rw [Bool.and_eq_true] at hboth
  have hfirst : c.first ∈ cues := List.mem_flatMap.2 ⟨c, hmem, List.mem_cons_self⟩
  have hsecond : c.second ∈ cues :=
    List.mem_flatMap.2 ⟨c, hmem, List.mem_cons_of_mem _ List.mem_cons_self⟩
  refine List.mem_filter.2 ⟨hmem, ?_⟩
  rw [Bool.and_eq_true]
  exact ⟨occurs_more hfirst h hboth.1, occurs_more hsecond h hboth.2⟩

lemma length_joined (texts : List String) :
    (", ".intercalate texts).length = (texts.map fun t => t.length + 2).sum - 2 := by
  induction texts with
  | nil => rfl
  | cons text texts ih =>
    cases texts with
    | nil => simp
    | cons next texts =>
      rw [String.intercalate_cons_cons, String.length_append, String.length_append, ih,
        List.map_cons (l := next :: texts), List.sum_cons, List.map_cons, List.sum_cons]
      have hsep : ", ".length = 2 := rfl
      omega

lemma length_prompt_of_dalle (hmodel : d.model = .dalle) :
    d.prompt.length = (d.parts.map fun t => t.length + 2).sum - 2 := by
  have htrailer : d.trailer = "" := by
    unfold Document.trailer
    rw [hmodel]
    rfl
  rw [Document.prompt, htrailer, String.append_empty, Document.base, length_joined]

lemma length_prompt_more (h : d.fragments.Subperm fragments) (hmodel : d.model = .dalle) :
    d.prompt.length ≤ { d with fragments }.prompt.length := by
  obtain ⟨added, hadded⟩ := exists_added h
  have hmodel' : { d with fragments }.model = .dalle := hmodel
  have hsum := (hadded.map fun t => t.length + 2).sum_eq
  rw [List.map_append, List.sum_append] at hsum
  rw [length_prompt_of_dalle hmodel, length_prompt_of_dalle hmodel', hsum]
  omega

lemma hasCategory_more (h : d.fragments.Subperm fragments) {c : Category}
    (hc : d.hasCategory c = true) : { d with fragments }.hasCategory c = true := by
  obtain ⟨f, hf, hcategory⟩ := List.any_eq_true.1 hc
  exact List.any_eq_true.2 ⟨f, h.subset hf, hcategory⟩

end

/-- All findings of a document but that of its repetitions. -/
def findingsBesideRedundant (d : Document) : List Finding :=
  d.lint.filter fun f => f.code ≠ "REDUNDANT"

lemma findingsBesideRedundant_eq (d : Document) :
    findingsBesideRedundant d =
      findingIf (Text.nonBlank? d.subject).isNone .noSubject ++
      findingIf (!d.hasCategory .camera) .noCamera ++
      findingIf (!d.hasCategory .lighting) .noLighting ++
      (contradictionsFound d).map (fun c => .contradiction c.message) ++
      findingIf (d.model == .dalle && decide (plainMaxLength < d.prompt.length)) .tooLong := by
  unfold findingsBesideRedundant
  rw [lint_eq]
  simp [Finding.code]

lemma findingsBesideRedundant_of_perm {d : Document} {fragments : List Fragment}
    (h : d.fragments.Perm fragments) :
    findingsBesideRedundant d = findingsBesideRedundant { d with fragments } := by
  have hless := h.subperm
  have hmore : ({ d with fragments } : Document).fragments.Subperm d.fragments :=
    h.symm.subperm
  have hcategory (c : Category) : d.hasCategory c = { d with fragments }.hasCategory c :=
    Bool.eq_iff_iff.2 ⟨hasCategory_more hless, hasCategory_more hmore⟩
  have hfound : contradictionsFound d = contradictionsFound { d with fragments } := by
    refine List.filter_congr fun c hc => Bool.eq_iff_iff.2 ⟨fun hboth => ?_, fun hboth => ?_⟩
    · exact (List.mem_filter.1 (contradictionsFound_more hless (List.mem_filter.2 ⟨hc, hboth⟩))).2
    · exact (List.mem_filter.1 (contradictionsFound_more hmore (List.mem_filter.2 ⟨hc, hboth⟩))).2
  have hlong : (d.model == .dalle && decide (plainMaxLength < d.prompt.length)) =
      (d.model == .dalle && decide (plainMaxLength < { d with fragments }.prompt.length)) := by
    by_cases hmodel : d.model = .dalle
    · rw [Nat.le_antisymm (length_prompt_more hless hmodel) (length_prompt_more hmore hmodel)]
    · rw [beq_eq_false_iff_ne.2 hmodel, Bool.false_and, Bool.false_and]
  rw [findingsBesideRedundant_eq, findingsBesideRedundant_eq, hcategory, hcategory, hfound, hlong]

/-- A document with more fragments, in any order, has every contradiction of the first one, and is
too long if that is; it lacks a camera or lighting only if the first one does, and a subject just if
that does. If no fragment is new, all findings are the same but that of repetitions. -/
theorem more_fragments_keep_findings (d : Document) (fragments : List Fragment)
    (h : d.fragments.Subperm fragments) :
    let e : Document := { d with fragments }
    (∀ m, .contradiction m ∈ d.lint → .contradiction m ∈ e.lint) ∧
    (.tooLong ∈ d.lint → .tooLong ∈ e.lint) ∧
    (.noCamera ∈ e.lint → .noCamera ∈ d.lint) ∧
    (.noLighting ∈ e.lint → .noLighting ∈ d.lint) ∧
    (.noSubject ∈ d.lint ↔ .noSubject ∈ e.lint) ∧
    (d.fragments.Perm fragments → findingsBesideRedundant d = findingsBesideRedundant e) := by
  intro e
  refine ⟨fun m hm => ?_, fun hlong => ?_, fun hcamera => ?_, fun hlighting => ?_, ?_,
    findingsBesideRedundant_of_perm⟩
  · obtain ⟨c, hc, hmessage⟩ := (contradiction_mem_lint_iff d m).1 hm
    exact (contradiction_mem_lint_iff e m).2 ⟨c, contradictionsFound_more h hc, hmessage⟩
  · obtain ⟨hmodel, hlength⟩ := (tooLong_mem_lint_iff d).1 hlong
    exact (tooLong_mem_lint_iff e).2 ⟨hmodel, hlength.trans_le (length_prompt_more h hmodel)⟩
  · rw [noCamera_mem_lint_iff, ← Bool.not_eq_true] at hcamera ⊢
    exact mt (hasCategory_more h) hcamera
  · rw [noLighting_mem_lint_iff, ← Bool.not_eq_true] at hlighting ⊢
    exact mt (hasCategory_more h) hlighting
  · rw [noSubject_mem_lint_iff, noSubject_mem_lint_iff]

/-- A camera fragment with a contradicting cue is added in front, and the noir moves to the end. -/
theorem more_fragments_keep_findings_of_noir :
    let neon : Fragment := ⟨"", "", "Neon sign", .lighting, neutralWeight⟩
    let noir : Fragment := ⟨"", "", "film noir", .style, neutralWeight⟩
    let drone : Fragment := ⟨"", "", "drone view", .camera, neutralWeight⟩
    let d : Document := ⟨"a street", [noir, neon], "macro", .flux, .empty⟩
    let e : Document := { d with fragments := [drone, neon, noir] }
    let message := "Color contradiction: monochrome/noir with vibrant/pastel cues."
    d.fragments.Subperm e.fragments ∧ .contradiction message ∈ d.lint ∧
    .contradiction message ∈ e.lint := by
  intro neon noir drone d e message
  have hsub : d.fragments.Subperm e.fragments :=
    ⟨[neon, noir], List.Perm.swap noir neon [], List.sublist_cons_self drone [neon, noir]⟩
  have hfound : .contradiction message ∈ d.lint := by decide +kernel
  exact ⟨hsub, hfound, (more_fragments_keep_findings d e.fragments hsub).1 message hfound⟩

end PromptStudio.Proofs
