import PromptStudio.Proofs.Prompt.Phrases
import PromptStudio.Proofs.Prompt.SmallLetters

/-!
# Repeated parts

A part of a prompt that is a phrase in small letters is a phrase of the whole prompt, unless it is
the last one and modifiers follow it: they are no phrase of their own, but the end of the last one.
A part that is written three times is then found only twice.
-/

namespace PromptStudio.Proofs
open Prompt

/-! ## Trimming -/

lemma trim_eq_self_iff (s : String) : Text.trim s = s ↔ Text.trimChars s.toList = s.toList := by
  rw [← String.toList_inj, Text.toList_trim]

lemma trim_blank_cons {c : Char} (hc : Text.isBlank c = true) (cs : List Char) :
    Text.trim (String.ofList (c :: cs)) = Text.trim (String.ofList cs) := by
  have hchars : Text.trimChars (c :: cs) = Text.trimChars cs := by
    unfold Text.trimChars
    rw [List.dropWhile_cons_of_pos hc]
  rw [Text.trim, Text.trim, String.toList_ofList, String.toList_ofList, hchars]

lemma exists_trimChars_append {cs : List Char} {c : Char}
    (hfirst : ∀ d, cs.head? = some d → Text.isBlank d = false) (hc : Text.isBlank c = false)
    (rest : List Char) : ∃ kept, Text.trimChars (cs ++ c :: rest) = cs ++ c :: kept := by
  have hfront : (cs ++ c :: rest).dropWhile Text.isBlank = cs ++ c :: rest := by
    cases cs with
    | nil => exact List.dropWhile_cons_of_neg (Bool.not_eq_true _ ▸ hc)
    | cons d cs => exact List.dropWhile_cons_of_neg (Bool.not_eq_true _ ▸ hfirst d rfl)
  have hback : (cs ++ c :: rest).reverse.dropWhile Text.isBlank =
      rest.reverse.dropWhile Text.isBlank ++ c :: cs.reverse := by
    rw [List.reverse_append, List.reverse_cons, List.append_assoc, List.singleton_append,
      List.dropWhile_append, List.dropWhile_cons_of_neg (Bool.not_eq_true _ ▸ hc)]
    split
    · rename_i hempty
      rw [List.isEmpty_iff.1 hempty, List.nil_append]
    · rfl
  refine ⟨(rest.reverse.dropWhile Text.isBlank).reverse, ?_⟩
  rw [Text.trimChars, hfront, hback, List.reverse_append, List.reverse_cons, List.reverse_reverse,
    List.append_assoc, List.singleton_append]

/-! ## Phrases of joined texts -/

def NoSeparator (s : String) : Prop := ∀ c ∈ s.toList, ¬ IsSeparator c

instance : DecidablePred NoSeparator := fun s =>
  List.decidableBAll (fun c => ¬ IsSeparator c) s.toList

lemma NoSeparator.append {s t : String} (hs : NoSeparator s) (ht : NoSeparator t) :
    NoSeparator (s ++ t) := by
  unfold NoSeparator
  rw [String.toList_append]
  exact List.forall_mem_append.2 ⟨hs, ht⟩

lemma isMark_of_isSeparator {c : Char} (h : IsSeparator c) : IsMark c := by
  rcases h with rfl | rfl
  · exact Or.inr rfl
  · exact Or.inl (by decide)

lemma NoSeparator.lowercase {s : String} (h : NoSeparator s) : NoSeparator (Text.lowercase s) := by
  intro c hc hsep
  rw [toList_lowercase] at hc
  exact h c (mem_of_mem_lowerAfter hc (isMark_of_isSeparator hsep)) hsep

lemma trimmedPieces_append (pieces later : List (List Char)) :
    trimmedPieces (pieces ++ later) = trimmedPieces pieces ++ trimmedPieces later := by
  rw [trimmedPieces, List.map_append, List.filter_append]
  rfl

lemma phrases_of_separated {s t u : String} {c : Char} (hc : IsSeparator c)
    (h : u.toList = s.toList ++ c :: t.toList) : phrases u = phrases s ++ phrases t := by
  rw [phrases_eq, phrases_eq, phrases_eq, h, piecesOf_append hc, trimmedPieces_append]

lemma phrases_space_append (s : String) : phrases (" " ++ s) = phrases s := by
  have hchars : (" " ++ s).toList = ' ' :: s.toList := String.toList_append
  rw [phrases_eq, phrases_eq, hchars, piecesOf, piecesOf,
    List.splitOnP_cons_eq_if_modifyHead, if_neg (by decide)]
  cases List.splitOnP (fun c => c == ',' || c == '\n') s.toList with
  | nil => rfl
  | cons piece pieces =>
    rw [List.modifyHead_cons, trimmedPieces, trimmedPieces, List.map_cons, List.map_cons,
      trim_blank_cons (by decide)]

lemma phrases_joined (texts : List String) :
    phrases (", ".intercalate texts) = texts.flatMap phrases := by
  induction texts with
  | nil => rfl
  | cons text texts ih =>
    cases texts with
    | nil => rw [String.intercalate_singleton, List.flatMap_singleton]
    | cons next texts =>
      have hchars : (text ++ ", " ++ ", ".intercalate (next :: texts)).toList =
          text.toList ++ ',' :: (" " ++ ", ".intercalate (next :: texts)).toList := by
        rw [String.append_assoc, String.toList_append, String.toList_append, String.toList_append]
        rfl
      rw [String.intercalate_cons_cons, phrases_of_separated (Or.inl rfl) hchars,
        phrases_space_append, ih]
      exact List.flatMap_cons.symm

lemma phrases_eq_filter {s : String} (h : NoSeparator s) :
    phrases s = [Text.trim s].filter (· ≠ "") := by
  rw [phrases_eq, piecesOf_of_no_separator h, trimmedPieces, List.map_singleton,
    String.ofList_toList]

lemma phrases_of_noSeparator {s : String} (h : NoSeparator s) (hne : Text.trim s ≠ "") :
    phrases s = [Text.trim s] := by
  rw [phrases_eq_filter h, List.filter_cons_of_pos (by simpa using hne), List.filter_nil]

lemma eq_trim_of_mem_phrases {s p : String} (h : NoSeparator s) (hp : p ∈ phrases s) :
    p = Text.trim s := by
  rw [phrases_eq_filter h] at hp
  exact List.mem_singleton.1 (List.mem_of_mem_filter hp)

lemma flatMap_phrases_eq_self {texts : List String} (h : ∀ t ∈ texts, phrases t = [t]) :
    texts.flatMap phrases = texts := by
  induction texts with
  | nil => rfl
  | cons text texts ih =>
    obtain ⟨htext, htexts⟩ := List.forall_mem_cons.1 h
    rw [List.flatMap_cons, htext, ih htexts, List.singleton_append]

lemma count_le_count_phrases {p : String} {texts : List String} (h : p ∈ texts → phrases p = [p]) :
    texts.count p ≤ (texts.flatMap phrases).count p := by
  induction texts with
  | nil => exact Nat.le_refl 0
  | cons text texts ih =>
    have hlater := ih fun hp => h (List.mem_cons_of_mem text hp)
    rw [List.flatMap_cons, List.count_append]
    by_cases htext : text = p
    · rw [htext, h (htext ▸ List.mem_cons_self), List.count_cons_self, List.count_cons_self,
        List.count_nil]
      omega
    · rw [List.count_cons_of_ne htext]
      omega

lemma mem_repeatedPhrases_iff (s p : String) :
    p ∈ repeatedPhrases s ↔ 3 ≤ (phrases s).count p :=
  (listsThrice_filter_firsts (phrases s)).members p

/-! ## Parts in small letters -/

def smallParts (d : Document) : List String := d.parts.map Text.lowercase

lemma trim_bracketed (text written : String) :
    Text.trim ("(" ++ text ++ ":" ++ written ++ ")") = "(" ++ text ++ ":" ++ written ++ ")" := by
  rw [trim_eq_self_iff]
  have hclosed : ("(" ++ text ++ ":" ++ written ++ ")").toList =
      ("(" ++ text ++ ":" ++ written).toList ++ [')'] := String.toList_append
  have hopened : ("(" ++ text ++ ":" ++ written ++ ")").toList =
      '(' :: (text ++ (":" ++ (written ++ ")"))).toList := by
    rw [String.append_assoc, String.append_assoc, String.append_assoc]
    exact String.toList_append
  apply Text.trimChars_eq_self
  · rw [hopened]
    rintro c ⟨⟩
    decide
  · rw [hclosed, List.getLast?_concat]
    rintro c ⟨⟩
    decide

lemma trim_of_mem_parts {d : Document} {part : String} (h : part ∈ d.parts) :
    Text.trim part = part := by
  rw [parts_eq] at h
  rcases mem_expectedParts h with ⟨-, rfl⟩ | ⟨f, -, hpart⟩
  · exact Text.trim_trim d.subject
  · rcases eq_of_mem_writtenParts hpart with rfl | ⟨weight, rfl⟩
    · exact Text.trim_trim f.text
    · exact trim_bracketed _ _

lemma trim_of_mem_smallParts {d : Document} {p : String} (h : p ∈ smallParts d) :
    Text.trim p = p ∧ p ≠ "" := by
  obtain ⟨part, hpart, rfl⟩ := List.mem_map.1 h
  constructor
  · rw [trim_eq_self_iff, toList_lowercase]
    exact trimChars_smallChars ((trim_eq_self_iff part).1 (trim_of_mem_parts hpart))
  · rw [Ne, ← String.toList_eq_nil_iff, toList_lowercase, smallChars_eq_nil_iff,
      String.toList_eq_nil_iff]
    rintro rfl
    exact empty_not_mem_parts d hpart

lemma phrases_of_mem_smallParts {d : Document} {p : String} (h : p ∈ smallParts d)
    (hp : NoSeparator p) : phrases p = [p] := by
  obtain ⟨htrim, hne⟩ := trim_of_mem_smallParts h
  rw [phrases_of_noSeparator hp (by rwa [htrim]), htrim]

/-! ## Parts and the trailer -/

lemma exists_phrases_after {d : Document}
    (h : ¬ (d.model = .midjourney ∧ presentModifiers d.params ≠ [])) :
    ∃ later, phrases (smallPrompt d) = (smallParts d).flatMap phrases ++ later := by
  rw [smallPrompt_eq]
  rcases trailer_cases d with htrailer | ⟨hmodel, hsome, -⟩ | ⟨-, htrailer⟩
  · refine ⟨[], ?_⟩
    have hempty : Text.lowercase d.trailer = "" := by
      rw [htrailer]
      rfl
    rw [hempty, String.append_empty, phrases_joined, List.append_nil]
    rfl
  · exact absurd ⟨hmodel, hsome⟩ h
  · have hchars : d.trailer.toList =
        '\n' :: ("\nNegative prompt: " ++ Text.trim d.negative).toList := by
      rw [htrailer, String.toList_append, String.toList_append]
      rfl
    refine ⟨phrases (Text.lowercase ("\nNegative prompt: " ++ Text.trim d.negative)), ?_⟩
    rw [smallParts, ← phrases_joined]
    refine phrases_of_separated (Or.inr rfl) ?_
    rw [String.toList_append, toList_lowercase_of_border isBorder_lineFeed hchars]

lemma intercalate_concat_append (sep : String) (texts : List String) (last rest : String) :
    sep.intercalate (texts ++ [last]) ++ rest = sep.intercalate (texts ++ [last ++ rest]) := by
  by_cases hnil : texts = []
  · rw [hnil, List.nil_append, List.nil_append, String.intercalate_singleton,
      String.intercalate_singleton]
  · rw [String.intercalate_append_of_ne_nil hnil (List.cons_ne_nil _ _),
      String.intercalate_append_of_ne_nil hnil (List.cons_ne_nil _ _),
      String.intercalate_singleton, String.intercalate_singleton, String.append_assoc]

section

variable {d : Document} {texts : List String} {last : String}

/-- Modifiers are written to the end of the last phrase. -/
lemma phrases_before_modifiers (hmodel : d.model = .midjourney)
    (hsome : presentModifiers d.params ≠ []) (hparts : smallParts d = texts ++ [last]) :
    phrases (smallPrompt d) = texts.flatMap phrases ++
      phrases (last ++ (" " ++ Text.lowercase (modifiersText d.params))) := by
  have hbase : d.base ≠ "" := by
    rw [Ne, base_eq_empty_iff]
    intro hnil
    rw [smallParts, hnil, List.map_nil] at hparts
    exact List.append_ne_nil_of_right_ne_nil texts (List.cons_ne_nil last []) hparts.symm
  have htrailer : d.trailer = " " ++ modifiersText d.params := by
    rw [trailer_eq, bare_eq, hmodel]
    unfold trailerFor
    dsimp only
    rw [if_neg hsome, if_neg hbase]
    rfl
  have hjoined : smallPrompt d = ", ".intercalate
      (texts ++ [last ++ (" " ++ Text.lowercase (modifiersText d.params))]) := by
    rw [smallPrompt_eq, htrailer, lowercase_space_append, ← intercalate_concat_append, ← hparts]
    rfl
  rw [hjoined, phrases_joined, List.flatMap_append, List.flatMap_singleton]

end

/-! ## Three parts in small letters -/

/-- A part is found only twice: it is written three times, and one of them is the last part, which
has modifiers behind it. -/
structure HiddenByModifiers (d : Document) (p : String) : Prop where
  model : d.model = .midjourney
  modifiers : presentModifiers d.params ≠ []
  thrice : (smallParts d).count p = 3
  last : (smallParts d).getLast? = some p

lemma three_le_count_of_concat {texts : List String} {last p : String}
    (hthrice : 3 ≤ (texts ++ [last]).count p)
    (hseen : ¬ ((texts ++ [last]).count p = 3 ∧ last = p)) : 3 ≤ texts.count p := by
  by_cases hlast : last = p
  · have hmore : (texts ++ [last]).count p ≠ 3 := fun hcount => hseen ⟨hcount, hlast⟩
    rw [hlast, List.count_append, List.count_singleton_self] at hthrice hmore
    omega
  · rw [List.count_append, List.count_singleton, beq_eq_false_iff_ne.2 hlast] at hthrice
    exact hthrice

lemma three_le_count_phrases {d : Document} {p : String} (hp : NoSeparator p)
    (hthrice : 3 ≤ (smallParts d).count p) (hseen : ¬ HiddenByModifiers d p) :
    3 ≤ (phrases (smallPrompt d)).count p := by
  -- In front of modifiers the last part is no phrase of its own, so the others are counted.
  by_cases hmodifiers : d.model = .midjourney ∧ presentModifiers d.params ≠ []
  · rcases List.eq_nil_or_concat (smallParts d) with hnil | ⟨texts, last, hparts⟩
    · rw [hnil] at hthrice
      cases hthrice
    rw [List.concat_eq_append] at hparts
    have hfound : texts.count p ≤ (texts.flatMap phrases).count p :=
      count_le_count_phrases fun hmem =>
        phrases_of_mem_smallParts (hparts ▸ List.mem_append_left [last] hmem) hp
    have htexts : 3 ≤ texts.count p := by
      refine three_le_count_of_concat (hparts ▸ hthrice) fun ⟨hcount, hlast⟩ => ?_
      exact hseen ⟨hmodifiers.1, hmodifiers.2, hparts ▸ hcount,
        by rw [hparts, hlast, List.getLast?_concat]⟩
    rw [phrases_before_modifiers hmodifiers.1 hmodifiers.2 hparts, List.count_append]
    omega
  · obtain ⟨later, hlater⟩ := exists_phrases_after hmodifiers
    have hfound : (smallParts d).count p ≤ ((smallParts d).flatMap phrases).count p :=
      count_le_count_phrases fun hmem => phrases_of_mem_smallParts hmem hp
    rw [hlater, List.count_append]
    omega

lemma trim_before_modifiers {p : String} (htrim : Text.trim p = p) (hne : p ≠ "") {params : Params}
    (hsome : presentModifiers params ≠ []) :
    Text.trim (p ++ (" " ++ Text.lowercase (modifiersText params))) ≠ p := by
  obtain ⟨cs, hcs⟩ := exists_toList_modifiersText hsome
  have hchars : (p ++ (" " ++ Text.lowercase (modifiersText params))).toList =
      (p.toList ++ [' ']) ++ '-' :: smallChars cs := by
    rw [String.toList_append, String.toList_append, toList_lowercase, hcs,
      smallChars_cons isBorder_hyphen, List.append_assoc]
    rfl
  have hfirst : ∀ c, (p.toList ++ [' ']).head? = some c → Text.isBlank c = false := by
    intro c hc
    have hhead : p.toList.head? = some c := by
      cases hp : p.toList with
      | nil => exact absurd (String.toList_eq_nil_iff.1 hp) hne
      | cons d ds =>
        rw [hp] at hc
        exact hc
    exact Text.isBlank_of_head?_trimChars (((trim_eq_self_iff p).1 htrim).symm ▸ hhead)
  have hhyphen : Text.isBlank '-' = false := by decide
  obtain ⟨kept, hkept⟩ := exists_trimChars_append hfirst hhyphen (smallChars cs)
  intro heq
  have hlength : (p.toList ++ [' '] ++ '-' :: kept).length = p.toList.length := by
    rw [← hkept, ← hchars, ← Text.toList_trim, heq]
  rw [List.length_append, List.length_append, List.length_singleton] at hlength
  omega

lemma not_mem_repeatedPhrases {d : Document} {p : String} (h : HiddenByModifiers d p)
    (hclear : ∀ text ∈ modifiersText d.params :: d.parts, NoSeparator text) :
    p ∉ repeatedPhrases (smallPrompt d) := by
  obtain ⟨hmodifiers, hclearParts⟩ := List.forall_mem_cons.1 hclear
  obtain ⟨texts, hparts⟩ := List.getLast?_eq_some_iff.1 h.last
  have hpart : ∀ text ∈ smallParts d, NoSeparator text := by
    intro text htext
    obtain ⟨part, hmem, rfl⟩ := List.mem_map.1 htext
    exact (hclearParts part hmem).lowercase
  have hlast : p ∈ smallParts d := List.mem_of_getLast? h.last
  have htexts : texts.flatMap phrases = texts := by
    refine flatMap_phrases_eq_self fun text htext => ?_
    have hmem : text ∈ smallParts d := hparts ▸ List.mem_append_left [p] htext
    exact phrases_of_mem_smallParts hmem (hpart text hmem)
  have htwice : texts.count p = 2 := by
    have hthrice := h.thrice
    rw [hparts, List.count_append, List.count_singleton_self] at hthrice
    exact Nat.succ.inj hthrice
  have hnone : (phrases (p ++ (" " ++ Text.lowercase (modifiersText d.params)))).count p = 0 := by
    have hglued : NoSeparator (p ++ (" " ++ Text.lowercase (modifiersText d.params))) := by
      have hspace : NoSeparator " " := by decide
      exact (hpart p hlast).append (hspace.append hmodifiers.lowercase)
    obtain ⟨htrim, hne⟩ := trim_of_mem_smallParts hlast
    refine List.count_eq_zero.2 fun hmem => ?_
    exact trim_before_modifiers htrim hne h.modifiers (eq_trim_of_mem_phrases hglued hmem).symm
  rw [mem_repeatedPhrases_iff, phrases_before_modifiers h.model h.modifiers hparts,
    List.count_append, htexts, htwice, hnone]
  decide

/-- A phrase that is written three times as a part of a document, in small letters and without a
comma or a line feed, is found to be repeated, and a finding tells of repetitions; but not if it is
written just three times and the last time is before modifiers. Then it is not found, unless a comma
or a line feed in the other parts or in the modifiers makes the same phrase once more. -/
theorem repetition_found_unless_before_modifiers (d : Document) (p : String) (hp : NoSeparator p)
    (hthrice : 3 ≤ (smallParts d).count p) :
    (¬ HiddenByModifiers d p →
      p ∈ repeatedPhrases (Text.lowercase d.prompt) ∧ ∃ listed, .redundant listed ∈ d.lint) ∧
    (HiddenByModifiers d p →
      (∀ text ∈ modifiersText d.params :: d.parts, NoSeparator text) →
      p ∉ repeatedPhrases (Text.lowercase d.prompt)) := by
  refine ⟨fun hseen => ?_, not_mem_repeatedPhrases⟩
  have hfound : p ∈ repeatedPhrases (smallPrompt d) :=
    (mem_repeatedPhrases_iff (smallPrompt d) p).2 (three_le_count_phrases hp hthrice hseen)
  exact ⟨hfound, _, (redundant_mem_lint_iff d _).2 ⟨List.ne_nil_of_mem hfound, rfl⟩⟩

/-- A glow of weight three is found with a shot behind it. It is not found behind the shot, where
the aspect follows. -/
theorem repetition_found_unless_before_modifiers_of_glow :
    let glow : Fragment := ⟨"", "", "lava glow", .lighting, Binary64.ofInt 3⟩
    let shot : Fragment := ⟨"", "", "macro shot", .camera, neutralWeight⟩
    let params : Params := ⟨some "16:9", none, none, none⟩
    let d : Document := ⟨"a volcano", [glow, shot], "", .midjourney, params⟩
    let e : Document := { d with fragments := [shot, glow] }
    let p := "lava glow"
    NoSeparator p ∧
    (3 ≤ (smallParts d).count p ∧ ¬ HiddenByModifiers d p ∧
      p ∈ repeatedPhrases (Text.lowercase d.prompt)) ∧
    (3 ≤ (smallParts e).count p ∧ HiddenByModifiers e p ∧
      (∀ text ∈ modifiersText e.params :: e.parts, NoSeparator text) ∧
      p ∉ repeatedPhrases (Text.lowercase e.prompt)) := by
  intro glow shot params d e p
  have hp : NoSeparator p := by decide
  have hpartsD : smallParts d =
      ["a volcano", "lava glow", "lava glow", "lava glow", "macro shot"] := by decide +kernel
  have hpartsE : smallParts e =
      ["a volcano", "macro shot", "lava glow", "lava glow", "lava glow"] := by decide +kernel
  have hd : 3 ≤ (smallParts d).count p := by
    rw [hpartsD]
    decide
  have he : 3 ≤ (smallParts e).count p := by
    rw [hpartsE]
    decide
  have hseen : ¬ HiddenByModifiers d p := by
    intro h
    have hlast := h.last
    rw [hpartsD] at hlast
    revert hlast
    decide
  have hhidden : HiddenByModifiers e p := by
    refine ⟨rfl, by decide +kernel, ?_, ?_⟩
    · rw [hpartsE]
      decide
    · rw [hpartsE]
      rfl
  have hclear : ∀ text ∈ modifiersText e.params :: e.parts, NoSeparator text := by decide +kernel
  exact ⟨hp, ⟨hd, hseen, ((repetition_found_unless_before_modifiers d p hp hd).1 hseen).1⟩,
    he, hhidden, hclear, (repetition_found_unless_before_modifiers e p hp he).2 hhidden hclear⟩

/-- Three parts are the same without a comma or a line feed, and no finding tells of it. -/
theorem repetition_hidden_by_modifiers :
    let glow : Fragment := ⟨"", "", "lava glow", .lighting, Binary64.ofInt 3⟩
    let shot : Fragment := ⟨"", "", "macro shot", .camera, neutralWeight⟩
    let d : Document :=
      ⟨"a volcano", [shot, glow], "", .midjourney, ⟨some "16:9", none, none, none⟩⟩
    NoSeparator "lava glow" ∧
    d.parts.map Text.lowercase =
      ["a volcano", "macro shot", "lava glow", "lava glow", "lava glow"] ∧
    ∀ listed, .redundant listed ∉ d.lint := by
  intro glow shot d
  have hparts : d.parts.map Text.lowercase =
      ["a volcano", "macro shot", "lava glow", "lava glow", "lava glow"] := by decide +kernel
  have hnone : repeatedPhrases (smallPrompt d) = [] := by decide +kernel
  refine ⟨by decide, hparts, fun listed hfinding => ?_⟩
  exact ((redundant_mem_lint_iff d listed).1 hfinding).1 hnone

end PromptStudio.Proofs
