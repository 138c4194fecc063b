import Mathlib.Computability.Language
import PromptStudio.Proofs.Prompt.Findings

/-!
# Cues that speak against each other

A pattern stands for a language: its words one after the other, with any white space between them.
It is found in a text wherever a member of the language stands there, whatever comes before or
after.
-/

namespace PromptStudio.Proofs
open Prompt
open scoped Computability

/-! ## Languages of patterns -/

def blank : Language Char := {cs | ∃ c, Text.isBlank c = true ∧ cs = [c]}

def spelled (s : String) : Language Char := {s.toList}

def phraseLanguage : Phrase → Language Char
  | [] => 1
  | [w] => {w}
  | w :: next :: rest => {w} * blank∗ * phraseLanguage (next :: rest)

def patternLanguage (p : Pattern) : Language Char :=
  (p.map phraseLanguage).sum

lemma mem_blanks_iff (cs : List Char) : cs ∈ blank∗ ↔ ∀ c ∈ cs, Text.isBlank c = true := by
  rw [Language.mem_kstar]
  constructor
  · rintro ⟨pieces, rfl, hpieces⟩ c hc
    obtain ⟨piece, hpiece, hmem⟩ := List.mem_flatten.1 hc
    obtain ⟨d, hd, rfl⟩ := hpieces piece hpiece
    rw [List.mem_singleton.1 hmem]
    exact hd
  · intro h
    refine ⟨cs.map fun c => [c], ?_, fun piece hpiece => ?_⟩
    · rw [← List.flatMap_def, List.flatMap_singleton']
    · obtain ⟨c, hc, rfl⟩ := List.mem_map.1 hpiece
      exact ⟨c, h c hc, rfl⟩

lemma mem_patternLanguage_iff (p : Pattern) (cs : List Char) :
    cs ∈ patternLanguage p ↔ ∃ phrase ∈ p, cs ∈ phraseLanguage phrase := by
  induction p with
  | nil => simp [patternLanguage]
  | cons phrase p ih =>
    have hsum : patternLanguage (phrase :: p) = phraseLanguage phrase + patternLanguage p := rfl
    rw [hsum, Language.mem_add, ih, List.exists_mem_cons_iff]

/-! ## Finding a phrase -/

/-- A phrase of words that have no white space in them, and at least one letter. -/
def lettered (phrase : Phrase) : Bool :=
  !phrase.isEmpty && phrase.all fun w => !w.isEmpty && w.all fun c => !Text.isBlank c

lemma lettered_cons {w : List Char} {rest : Phrase} (h : lettered (w :: rest) = true) :
    (∃ c cs, w = c :: cs ∧ Text.isBlank c = false) ∧ (rest ≠ [] → lettered rest = true) := by
  simp only [lettered, List.isEmpty_cons, Bool.not_false, Bool.true_and, List.all_cons,
    Bool.and_eq_true, Bool.not_eq_true'] at h
  constructor
  · cases w with
    | nil => exact absurd h.1.1 (by decide)
    | cons c cs =>
      have hc := List.all_eq_true.1 h.1.2 c List.mem_cons_self
      exact ⟨c, cs, rfl, Bool.not_eq_true' _ ▸ hc⟩
  · intro hne
    rw [lettered, Bool.and_eq_true]
    exact ⟨by simpa using hne, h.2⟩

lemma begins_cons_cons (w next : List Char) (rest : Phrase) (cs : List Char) :
    Phrase.begins (w :: next :: rest) cs =
      (w.isPrefixOf cs &&
        Phrase.begins (next :: rest) ((cs.drop w.length).dropWhile Text.isBlank)) :=
  rfl

lemma exists_append_of_mem {w cs : List Char} {rest : Phrase}
    (h : cs ∈ phraseLanguage (w :: rest)) : ∃ ds, cs = w ++ ds := by
  cases rest with
  | nil => exact ⟨[], by rw [h, List.append_nil]⟩
  | cons next rest =>
    obtain ⟨_, ⟨_, rfl, ds, -, rfl⟩, es, -, rfl⟩ := h
    exact ⟨ds ++ es, List.append_assoc _ _ _⟩

/-- White space is skipped up to the first letter of the next word, so nothing is missed. -/
lemma begins_iff {phrase : Phrase} (h : lettered phrase = true) (cs : List Char) :
    phrase.begins cs = true ↔ ∃ m ∈ phraseLanguage phrase, m <+: cs := by
  induction phrase generalizing cs with
  | nil => cases h
  | cons w rest ih =>
    cases rest with
    | nil =>
      have hword : (∃ m ∈ phraseLanguage [w], m <+: cs) ↔ w <+: cs :=
        ⟨fun ⟨_, hm, hcs⟩ => hm ▸ hcs, fun hcs => ⟨w, rfl, hcs⟩⟩
      rw [hword]
      exact List.isPrefixOf_iff_prefix
    | cons next rest =>
      obtain ⟨hfirst, hrest⟩ := lettered_cons h
      have hnext := hrest (List.cons_ne_nil next rest)
      rw [begins_cons_cons, Bool.and_eq_true, List.isPrefixOf_iff_prefix, ih hnext]
      constructor
      · rintro ⟨⟨ds, rfl⟩, m, hm, hprefix⟩
        rw [List.drop_left] at hprefix
        refine ⟨w ++ ds.takeWhile Text.isBlank ++ m, ?_, ?_⟩
        · refine Language.append_mem_mul (Language.append_mem_mul rfl ?_) hm
          exact (mem_blanks_iff _).2 (List.all_eq_true.1 List.all_takeWhile)
        · rw [List.append_assoc, List.prefix_append_right_inj]
          calc ds.takeWhile Text.isBlank ++ m
              <+: ds.takeWhile Text.isBlank ++ ds.dropWhile Text.isBlank :=
                (List.prefix_append_right_inj _).2 hprefix
            _ = ds := List.takeWhile_append_dropWhile
      · rintro ⟨_, ⟨_, ⟨w, rfl, gap, hgap, rfl⟩, m, hm, rfl⟩, rest', rfl⟩
        obtain ⟨ds, rfl⟩ := exists_append_of_mem hm
        -- The next word begins with a letter, so the blanks that are skipped are those of the gap.
        obtain ⟨⟨c, es, rfl, hc⟩, -⟩ := lettered_cons hnext
        refine ⟨⟨gap ++ (c :: es ++ ds) ++ rest', by simp⟩, _, hm, ?_⟩
        have hskip : ((w ++ gap ++ (c :: es ++ ds) ++ rest').drop w.length).dropWhile
            Text.isBlank = c :: es ++ ds ++ rest' := by
          rw [List.append_assoc, List.append_assoc, List.drop_left,
            List.dropWhile_append_of_pos ((mem_blanks_iff _).1 hgap), List.cons_append,
            List.cons_append, List.dropWhile_cons_of_neg (Bool.eq_false_iff.1 hc)]
        rw [hskip]
        exact List.prefix_append _ _

lemma occurs_iff_begins (p : Pattern) (cs : List Char) :
    p.occurs cs = true ↔ ∃ ds, ds <:+ cs ∧ ∃ phrase ∈ p, phrase.begins ds = true := by
  induction cs with
  | nil => simp [Pattern.occurs]
  | cons c cs ih =>
    rw [Pattern.occurs, Bool.or_eq_true, ih, List.any_eq_true]
    simp only [List.suffix_cons_iff, or_and_right, exists_or, exists_eq_left]

/-- A text has a member of a language in it. -/
def StandsIn (l : Language Char) (s : String) : Prop :=
  ∃ u m v, s.toList = u ++ m ++ v ∧ m ∈ l

noncomputable instance : DecidableRel StandsIn := fun _ _ => Classical.propDecidable _

lemma occurs_iff {p : Pattern} (h : ∀ phrase ∈ p, lettered phrase = true) (s : String) :
    p.occurs s.toList = true ↔ StandsIn (patternLanguage p) s := by
  rw [occurs_iff_begins]
  constructor
  · rintro ⟨ds, ⟨u, hu⟩, phrase, hphrase, hbegins⟩
    obtain ⟨m, hm, v, rfl⟩ := (begins_iff (h phrase hphrase) ds).1 hbegins
    refine ⟨u, m, v, ?_, (mem_patternLanguage_iff p m).2 ⟨phrase, hphrase, hm⟩⟩
    rw [List.append_assoc, hu]
  · rintro ⟨u, m, v, hs, hm⟩
    obtain ⟨phrase, hphrase, hmem⟩ := (mem_patternLanguage_iff p m).1 hm
    refine ⟨m ++ v, ⟨u, by rw [hs, List.append_assoc]⟩, phrase, hphrase, ?_⟩
    exact (begins_iff (h phrase hphrase) _).2 ⟨m, hmem, List.prefix_append m v⟩

/-! ## The table -/

/-- Two languages that speak against each other. -/
structure Opposition where
  first : Language Char
  second : Language Char
  message : String

def oppositions : List Opposition :=
  [{ first := spelled "black" * blank∗ * spelled "and" * blank∗ * spelled "white" +
       spelled "monochrome" + spelled "noir"
     second := spelled "vibrant" + spelled "neon" + spelled "pastel" + spelled "colorful"
     message := "Color contradiction: monochrome/noir with vibrant/pastel cues." },
   { first := spelled "macro" +
       spelled "extreme" * blank∗ * spelled "close" * blank∗ * spelled "up"
     second := spelled "wide" * blank∗ * spelled "shot" + spelled "panoramic" +
       spelled "aerial" + spelled "drone"
     message := "Camera contradiction: macro/close-up with wide/drone cues." },
   { first := spelled "minimal" + spelled "minimalist"
     second := spelled "ornate" + spelled "baroque" + spelled "maximal"
     message := "Style contradiction: minimal with ornate/maximal cues." }]

lemma oppositions_eq :
    oppositions = contradictions.map fun c =>
      ⟨patternLanguage c.first, patternLanguage c.second, c.message⟩ := by
  simp only [oppositions, contradictions, Pattern.ofWords, List.map_cons, List.map_nil,
    patternLanguage, phraseLanguage, List.sum_cons, List.sum_nil, spelled, mul_assoc, add_assoc,
    add_zero]

lemma lettered_of_mem_contradictions {c : Contradiction} (h : c ∈ contradictions) :
    (∀ phrase ∈ c.first, lettered phrase = true) ∧
      ∀ phrase ∈ c.second, lettered phrase = true := by
  have hall : (contradictions.all fun c =>
      c.first.all lettered && c.second.all lettered) = true := by decide
  have hc := List.all_eq_true.1 hall c h
  rw [Bool.and_eq_true, List.all_eq_true, List.all_eq_true] at hc
  exact hc

/-- The contradictions that are reported of a document are those of the table, each once and in the
order of the table, of which a member of either language stands in the prompt in small letters. -/
theorem contradictions_found_where_both_stand (d : Document) :
    (d.lint.filter fun f => f.code = "CONTRADICTION") =
      (oppositions.filter fun o =>
        StandsIn o.first (Text.lowercase d.prompt) ∧
          StandsIn o.second (Text.lowercase d.prompt)).map fun o => .contradiction o.message := by
  have hfound : contradictionsFound d = contradictions.filter fun c =>
      StandsIn (patternLanguage c.first) (Text.lowercase d.prompt) ∧
        StandsIn (patternLanguage c.second) (Text.lowercase d.prompt) := by
    refine List.filter_congr fun c hc => ?_
    obtain ⟨hfirst, hsecond⟩ := lettered_of_mem_contradictions hc
    rw [Bool.eq_iff_iff, Bool.and_eq_true, decide_eq_true_iff, occurs_iff hfirst,
      occurs_iff hsecond]
    rfl
  have hlint : (d.lint.filter fun f => f.code = "CONTRADICTION") =
      (contradictionsFound d).map fun c => .contradiction c.message := by
    rw [lint_eq]
    simp [Finding.code]
  rw [hlint, hfound, oppositions_eq, List.filter_map, List.map_map]
  rfl

end PromptStudio.Proofs
