import Mathlib.Data.List.Basic
import Mathlib.Data.List.Induction
import Mathlib.Logic.Function.Basic
import PromptStudio.Proofs.Prompt.Findings

/-!
# Phrases and their repetitions

Commas and line feeds cut a text into pieces, and the phrases are what is left of the pieces once
they are trimmed and the blank ones are dropped. A phrase is repeated if it is found three times.
-/

namespace PromptStudio.Proofs
open Prompt

/-! ## Cutting at separators -/

/-- Commas and line feeds separate phrases. -/
def IsSeparator (c : Char) : Prop := c = ',' ∨ c = '\n'

instance : DecidablePred IsSeparator := fun _ => inferInstanceAs (Decidable (_ ∨ _))

/-- Characters and the pieces into which the separators cut them. No piece has a separator in it,
and each reaches from a separator or the beginning to the next separator or the end. -/
inductive CutAtSeparators : List Char → List (List Char) → Prop
  | last {piece : List Char} (hpiece : ∀ c ∈ piece, ¬ IsSeparator c) :
    CutAtSeparators piece [piece]
  | next {piece rest : List Char} {c : Char} {pieces : List (List Char)}
    (hpiece : ∀ c ∈ piece, ¬ IsSeparator c) (hc : IsSeparator c)
    (hrest : CutAtSeparators rest pieces) :
    CutAtSeparators (piece ++ c :: rest) (piece :: pieces)

def piecesOf (cs : List Char) : List (List Char) :=
  cs.splitOnP fun c => c == ',' || c == '\n'

lemma isSeparator_iff (c : Char) : (c == ',' || c == '\n') = true ↔ IsSeparator c := by
  simp [IsSeparator]

lemma not_isSeparator_iff (c : Char) : (c == ',' || c == '\n') = false ↔ ¬ IsSeparator c := by
  rw [← isSeparator_iff, Bool.not_eq_true]

lemma piecesOf_append {c : Char} (hc : IsSeparator c) (cs rest : List Char) :
    piecesOf (cs ++ c :: rest) = piecesOf cs ++ piecesOf rest :=
  List.splitOnP_append_cons cs rest ((isSeparator_iff c).2 hc)

lemma piecesOf_of_no_separator {cs : List Char} (h : ∀ c ∈ cs, ¬ IsSeparator c) :
    piecesOf cs = [cs] :=
  List.splitOnP_eq_singleton fun c hc => (not_isSeparator_iff c).2 (h c hc)

lemma CutAtSeparators.eq_piecesOf {cs : List Char} {pieces : List (List Char)}
    (h : CutAtSeparators cs pieces) : pieces = piecesOf cs := by
  induction h with
  | last hpiece => exact (piecesOf_of_no_separator hpiece).symm
  | next hpiece hc _ ih =>
    rw [piecesOf_append hc, piecesOf_of_no_separator hpiece, ih, List.singleton_append]

lemma CutAtSeparators.cons {cs piece : List Char} {pieces : List (List Char)} {c : Char}
    (hc : ¬ IsSeparator c) (h : CutAtSeparators cs (piece :: pieces)) :
    CutAtSeparators (c :: cs) ((c :: piece) :: pieces) := by
  cases h with
  | last hpiece => exact .last (List.forall_mem_cons.2 ⟨hc, hpiece⟩)
  | next hpiece hsep hrest => exact .next (List.forall_mem_cons.2 ⟨hc, hpiece⟩) hsep hrest

lemma exists_cutAtSeparators (cs : List Char) : ∃ pieces, CutAtSeparators cs pieces := by
  induction cs with
  | nil => exact ⟨[[]], .last (List.forall_mem_nil _)⟩
  | cons c cs ih =>
    obtain ⟨pieces, hpieces⟩ := ih
    by_cases hc : IsSeparator c
    · exact ⟨[] :: pieces, .next (List.forall_mem_nil _) hc hpieces⟩
    · cases pieces with
      | nil => cases hpieces
      | cons piece pieces => exact ⟨(c :: piece) :: pieces, hpieces.cons hc⟩

/-! ## Phrases -/

/-- What is left of pieces once they are trimmed and the blank ones are dropped. -/
def trimmedPieces (pieces : List (List Char)) : List String :=
  (pieces.map fun piece => Text.trim (String.ofList piece)).filter (· ≠ "")

lemma phrases_eq (s : String) : phrases s = trimmedPieces (piecesOf s.toList) := by
  unfold phrases trimmedPieces piecesOf
  rw [List.filter_map, ← List.filterMap_eq_map, List.filterMap_filter]
  refine List.filterMap_congr fun piece _ => ?_
  by_cases hblank : Text.trim (String.ofList piece) = ""
  · simp [Text.nonBlank?, hblank]
  · simp [Text.nonBlank?, hblank]

/-! ## Members in the order of first occurrence -/

lemma mem_firsts {p : String} {ps : List String} : p ∈ firsts ps ↔ p ∈ ps := by
  induction ps with
  | nil => exact Iff.rfl
  | cons q ps ih => by_cases hpq : p = q <;> simp [firsts, ih, hpq]

lemma firsts_in_order (ps : List String) :
    (firsts ps).Pairwise fun p q => ps.idxOf p < ps.idxOf q := by
  induction ps with
  | nil => exact List.Pairwise.nil
  | cons p ps ih =>
    refine List.pairwise_cons.2 ⟨fun q hq => ?_, ?_⟩
    · have hne : p ≠ q := fun h => by simp [h] at hq
      rw [List.idxOf_cons_self, List.idxOf_cons_ne _ hne]
      exact Nat.succ_pos _
    · refine List.Pairwise.imp_of_mem (fun {q r} hq hr hlt => ?_) (ih.filter _)
      have hq : p ≠ q := fun h => by simp [h] at hq
      have hr : p ≠ r := fun h => by simp [h] at hr
      rw [List.idxOf_cons_ne _ hq, List.idxOf_cons_ne _ hr]
      exact Nat.succ_lt_succ hlt

lemma firsts_concat (ps : List String) (p : String) :
    firsts (ps ++ [p]) = if p ∈ ps then firsts ps else firsts ps ++ [p] := by
  induction ps with
  | nil => rfl
  | cons q ps ih =>
    rw [List.cons_append, firsts, ih, firsts]
    by_cases hpq : p = q
    · subst hpq
      by_cases hp : p ∈ ps <;> simp [hp]
    · by_cases hp : p ∈ ps <;> simp [hp, hpq]

/-- A list of the texts that another list holds three times or more, in the order in which they
come up there first. -/
structure ListsThrice (texts listed : List String) : Prop where
  once : listed.Nodup
  members : ∀ p, p ∈ listed ↔ 3 ≤ texts.count p
  order : listed.Pairwise fun p q => texts.idxOf p < texts.idxOf q

lemma listsThrice_filter_firsts (ps : List String) :
    ListsThrice ps ((firsts ps).filter fun p => 3 ≤ ps.count p) where
  once := ((firsts_in_order ps).imp fun h heq => by rw [heq] at h; exact Nat.lt_irrefl _ h).filter _
  members p := by
    rw [List.mem_filter, mem_firsts, decide_eq_true_iff, and_iff_right_iff_imp]
    intro hcount
    exact List.count_pos_iff.1 (by omega)
  order := (firsts_in_order ps).filter _

/-! ## Counting in one pass -/

/-- What is kept of the phrases seen so far: how often each was seen, and the order in which they
were seen first. -/
structure Tally where
  counts : String → Nat
  order : List String

namespace Tally

def empty : Tally := ⟨fun _ => 0, []⟩

def add (t : Tally) (p : String) : Tally where
  counts := Function.update t.counts p (t.counts p + 1)
  order := if t.counts p = 0 then t.order ++ [p] else t.order

def thrice (t : Tally) : List String := t.order.filter fun p => 3 ≤ t.counts p

end Tally

/-- After any phrases the counts are theirs, and each is in the order once, where it came first. -/
lemma foldl_add (ps : List String) :
    ps.foldl Tally.add .empty = ⟨fun p => ps.count p, firsts ps⟩ := by
  -- The fold meets the last phrase last, so the phrases before it are already counted.
  induction ps using List.reverseRecOn with
  | nil => rfl
  | append_singleton ps p ih =>
    rw [List.foldl_append, ih, List.foldl_cons, List.foldl_nil, Tally.add, firsts_concat]
    congr 1
    · funext q
      by_cases hqp : q = p
      · simp [hqp]
      · simp [Function.update_of_ne hqp, Ne.symm hqp]
    · simp only [List.count_eq_zero]
      split <;> simp_all

lemma repeatedPhrases_eq_thrice (s : String) :
    repeatedPhrases s = ((phrases s).foldl Tally.add .empty).thrice := by
  rw [foldl_add]
  rfl

/-! ## The finding -/

lemma filter_redundant_lint (d : Document) :
    d.lint.filter (fun f => f.code = "REDUNDANT") =
      findingIf (repeatedPhrases (smallPrompt d) != [])
        (.redundant ((repeatedPhrases (smallPrompt d)).take maxListed)) := by
  rw [lint_eq]
  simp [Finding.code]

/-- The separators cut a text into pieces in one way, and the repeated phrases of the text are those
that come up at least three times among the trimmed pieces that are not blank, each once, in the
order in which they come up first. One pass over the phrases finds them, with a count for each and
the order kept. A document has a finding of them if there are any in its prompt in small letters,
and only one, which names the first four or fewer. -/
theorem repeated_phrases_found_thrice :
    (∀ s : String, ∃ pieces, CutAtSeparators s.toList pieces ∧
      (∀ other, CutAtSeparators s.toList other → other = pieces) ∧
      ListsThrice (trimmedPieces pieces) (repeatedPhrases s) ∧
      repeatedPhrases s = ((trimmedPieces pieces).foldl Tally.add .empty).thrice) ∧
    ∀ d : Document,
      let repeated := repeatedPhrases (Text.lowercase d.prompt)
      (d.lint.filter fun f => f.code = "REDUNDANT").map Finding.message =
        if repeated = [] then []
        else ["Repeated phrases: " ++ ", ".intercalate (repeated.take (min 4 repeated.length))] := by
  refine ⟨fun s => ?_, fun d => ?_⟩
  · obtain ⟨pieces, hpieces⟩ := exists_cutAtSeparators s.toList
    have hphrases : phrases s = trimmedPieces pieces := by rw [phrases_eq, hpieces.eq_piecesOf]
    refine ⟨pieces, hpieces, fun other hother => ?_, ?_, ?_⟩
    · rw [hother.eq_piecesOf, hpieces.eq_piecesOf]
    · rw [← hphrases]
      exact listsThrice_filter_firsts (phrases s)
    · rw [← hphrases]
      exact repeatedPhrases_eq_thrice s
  · intro repeated
    have htake : repeated.take (min 4 repeated.length) = repeated.take maxListed := by
      rw [← List.take_take, List.take_length]
      rfl
    have hlint : d.lint.filter (fun f => f.code = "REDUNDANT") =
        findingIf (repeated != []) (.redundant (repeated.take maxListed)) :=
      filter_redundant_lint d
    rw [hlint, htake]
    by_cases hnone : repeated = []
    · rw [if_pos hnone, hnone]
      rfl
    · rw [if_neg hnone, findingIf, if_pos (bne_iff_ne.2 hnone)]
      rfl

end PromptStudio.Proofs
