import Mathlib.Data.List.Dedup
import Mathlib.Data.List.Perm.Basic
import Mathlib.Tactic.Lemma
import PromptStudio.Lookup.Candidate

/-!
# Merged words by rank

Merging keeps the first of the words that agree in small letters, and puts those in the only order
in which the scores less their penalties never rise and equal ones stand as they came. The best of
them are the answer. Scores are read from JSON, where every number is finite.
-/

namespace PromptStudio.Proofs
open Lookup

/-! ## The total order of doubles -/

lemma position_injective : Function.Injective Binary64.position := by
  rintro ⟨negative, rank, hrank⟩ ⟨negative', rank', hrank'⟩ h
  unfold Binary64.position at h
  -- The negative numbers lie below the others, so signs and ranks can be told from the position.
  cases negative <;> cases negative' <;>
    simp only [Bool.false_eq_true, if_false, if_true] at h
  case false.false =>
    obtain rfl : rank = rank' := by omega
    rfl
  case false.true => omega
  case true.false => omega
  case true.true =>
    obtain rfl : rank = rank' := by omega
    rfl

lemma ranksBefore_iff (a b : Candidate) :
    a.ranksBefore b = true ↔ b.adjusted.position ≤ a.adjusted.position := by
  unfold Candidate.ranksBefore Binary64.le
  exact decide_eq_true_iff

lemma ranksBefore_trans (a b c : Candidate) (hab : a.ranksBefore b = true)
    (hbc : b.ranksBefore c = true) : a.ranksBefore c = true := by
  rw [ranksBefore_iff] at hab hbc ⊢
  exact Int.le_trans hbc hab

lemma ranksBefore_total (a b : Candidate) : (a.ranksBefore b || b.ranksBefore a) = true := by
  rw [Bool.or_eq_true, ranksBefore_iff, ranksBefore_iff]
  exact Int.le_total _ _

lemma adjusted_eq_of_ranksBefore {a b : Candidate} (hab : a.ranksBefore b = true)
    (hba : b.ranksBefore a = true) : a.adjusted = b.adjusted := by
  rw [ranksBefore_iff] at hab hba
  exact position_injective (Int.le_antisymm hba hab)

/-! ## The first word of each text -/

def inSmall (c : Candidate) : String := Text.lowercase c.text

/-- The words of a list whose text in small letters does not occur earlier. -/
def firstWords (cs : List Candidate) : List Candidate :=
  (cs.zipIdx.filter fun w => inSmall w.1 ∉ (cs.take w.2).map inSmall).map Prod.fst

/-- A word is one of the first just if none before it agrees with it in small letters. -/
lemma mem_firstWords_iff {cs : List Candidate} {c : Candidate} :
    c ∈ firstWords cs ↔ ∃ before after, cs = before ++ c :: after ∧
      ∀ e ∈ before, inSmall e ≠ inSmall c := by
  unfold firstWords
  simp only [List.mem_map, List.mem_filter, List.mem_zipIdx_iff_getElem?, decide_eq_true_iff]
  constructor
  · rintro ⟨⟨w, i⟩, ⟨hget, hnew⟩, rfl⟩
    obtain ⟨hi, hw⟩ := List.getElem?_eq_some_iff.1 hget
    refine ⟨cs.take i, cs.drop (i + 1), ?_, fun e he heq => hnew ⟨e, he, heq⟩⟩
    rw [← hw, ← List.drop_eq_getElem_cons hi, List.take_append_drop]
  · rintro ⟨before, after, rfl, hnew⟩
    refine ⟨⟨c, before.length⟩, ⟨by simp, ?_⟩, rfl⟩
    rintro ⟨e, he, heq⟩
    rw [List.take_left] at he
    exact hnew e he heq

lemma distinctFrom_cons (seen : List String) (c : Candidate) (cs : List Candidate) :
    Candidate.distinctFrom seen (c :: cs) =
      if inSmall c ∈ seen then Candidate.distinctFrom seen cs
      else c :: Candidate.distinctFrom (inSmall c :: seen) cs := rfl

lemma distinctFrom_eq (seen : List String) (cs : List Candidate) :
    Candidate.distinctFrom seen cs =
      (cs.zipIdx.filter fun w => inSmall w.1 ∉ seen ++ (cs.take w.2).map inSmall).map Prod.fst := by
  induction cs generalizing seen with
  | nil => rfl
  | cons c cs ih =>
    have hshift : (c :: cs).zipIdx = (c, 0) :: cs.zipIdx.map fun w => (w.1, w.2 + 1) := by
      rw [List.zipIdx_cons, List.zipIdx_succ]
    -- For the words after it the text of the first counts as seen, whether it was new or not.
    have hrest (seen' : List String) (h : ∀ s, s ∈ seen' ↔ s = inSmall c ∨ s ∈ seen) :
        ((cs.zipIdx.map fun w => (w.1, w.2 + 1)).filter fun w =>
          inSmall w.1 ∉ seen ++ ((c :: cs).take w.2).map inSmall).map Prod.fst =
        Candidate.distinctFrom seen' cs := by
      rw [ih, List.filter_map, List.map_map]
      refine congrArg _ (List.filter_congr fun w _ => decide_eq_decide.2 (not_congr ?_))
      simp only [List.take_succ_cons, List.map_cons, List.mem_append, List.mem_cons, h]
      tauto
    rw [hshift, List.filter_cons, distinctFrom_cons]
    simp only [List.take_zero, List.map_nil, List.append_nil, decide_eq_true_iff]
    by_cases hseen : inSmall c ∈ seen
    · rw [if_pos hseen, if_neg (not_not.2 hseen), hrest seen]
      exact fun s => ⟨Or.inr, fun hs => hs.elim (fun heq => heq ▸ hseen) id⟩
    · rw [if_neg hseen, if_pos hseen, List.map_cons, hrest (inSmall c :: seen)]
      exact fun s => List.mem_cons

lemma mem_map_distinctFrom {seen : List String} {cs : List Candidate} {s : String} :
    s ∈ (Candidate.distinctFrom seen cs).map inSmall ↔ s ∈ cs.map inSmall ∧ s ∉ seen := by
  induction cs generalizing seen with
  | nil => simp [Candidate.distinctFrom]
  | cons c cs ih =>
    rw [distinctFrom_cons]
    by_cases hseen : inSmall c ∈ seen
    · rw [if_pos hseen, ih, List.map_cons, List.mem_cons]
      exact and_congr_left fun hs => ⟨Or.inr, fun h => h.resolve_left fun heq => hs (heq ▸ hseen)⟩
    · rw [if_neg hseen, List.map_cons, List.map_cons, List.mem_cons, List.mem_cons, ih,
        List.mem_cons]
      by_cases heq : s = inSmall c
      · simp [heq, hseen]
      · simp [heq]

lemma nodup_map_distinctFrom (seen : List String) (cs : List Candidate) :
    ((Candidate.distinctFrom seen cs).map inSmall).Nodup := by
  induction cs generalizing seen with
  | nil => exact List.nodup_nil
  | cons c cs ih =>
    rw [distinctFrom_cons]
    by_cases hseen : inSmall c ∈ seen
    · rw [if_pos hseen]
      exact ih seen
    · rw [if_neg hseen, List.map_cons, List.nodup_cons]
      exact ⟨fun hmem => (mem_map_distinctFrom.1 hmem).2 List.mem_cons_self, ih _⟩

lemma firstWords_eq (cs : List Candidate) : firstWords cs = Candidate.distinctFrom [] cs :=
  (distinctFrom_eq [] cs).symm

lemma length_firstWords (cs : List Candidate) :
    (firstWords cs).length = (cs.map inSmall).dedup.length := by
  rw [firstWords_eq, ← List.length_map (f := inSmall)]
  refine List.Perm.length_eq ((List.perm_ext_iff_of_nodup (nodup_map_distinctFrom [] cs)
    (List.nodup_dedup _)).2 fun s => ?_)
  rw [mem_map_distinctFrom, List.mem_dedup]
  exact and_iff_left List.not_mem_nil

/-! ## Arrangements by rank -/

/-- The words of one score less the penalty. -/
def withScore (score : Binary64) (cs : List Candidate) : List Candidate :=
  cs.filter fun c => c.adjusted = score

lemma mem_withScore {score : Binary64} {cs : List Candidate} {c : Candidate} :
    c ∈ withScore score cs ↔ c ∈ cs ∧ c.adjusted = score := by
  rw [withScore, List.mem_filter, decide_eq_true_iff]

lemma withScore_cons (score : Binary64) (c : Candidate) (cs : List Candidate) :
    withScore score (c :: cs) =
      if c.adjusted = score then c :: withScore score cs else withScore score cs := by
  simp only [withScore, List.filter_cons, decide_eq_true_iff]

lemma mem_iff_of_withScore {cs cs' : List Candidate}
    (h : ∀ score, withScore score cs = withScore score cs') (c : Candidate) : c ∈ cs ↔ c ∈ cs' := by
  have hmem (l : List Candidate) : c ∈ l ↔ c ∈ withScore c.adjusted l := by
    rw [mem_withScore, and_iff_left rfl]
  rw [hmem, h, ← hmem]

/-- An arrangement of words in which the scores less their penalties never rise and equal ones
stand as they came. -/
structure RankedFrom (kept ranked : List Candidate) : Prop where
  perm : ranked.Perm kept
  falling : ranked.Pairwise fun a b => b.adjusted.le a.adjusted = true
  ties : ∀ score, withScore score ranked = withScore score kept

lemma rankedFrom_mergeSort (kept : List Candidate) :
    RankedFrom kept (kept.mergeSort Candidate.ranksBefore) := by
  have hperm := List.mergeSort_perm kept Candidate.ranksBefore
  refine ⟨hperm, List.pairwise_mergeSort ranksBefore_trans ranksBefore_total kept, fun score => ?_⟩
  -- Words of one score are in order as they are, so they stay a part of the list as they are.
  have hequal : (withScore score kept).Pairwise fun a b => a.ranksBefore b = true := by
    refine List.pairwise_of_forall_mem_list fun a ha b hb => ?_
    have hscores : b.adjusted = a.adjusted :=
      (mem_withScore.1 hb).2.trans (mem_withScore.1 ha).2.symm
    exact (ranksBefore_iff a b).2 (Int.le_of_eq (congrArg Binary64.position hscores))
  have hpart := List.sublist_mergeSort ranksBefore_trans ranksBefore_total hequal
    (List.filter_sublist (l := kept))
  have hfiltered := hpart.filter fun c => c.adjusted = score
  unfold withScore at hfiltered ⊢
  rw [List.filter_filter] at hfiltered
  simp only [Bool.and_self] at hfiltered
  exact (hfiltered.eq_of_length (hperm.filter _).length_eq.symm).symm

/-- A list whose scores less the penalties never rise is known from the words of each score. -/
lemma eq_of_falling {ranked other : List Candidate}
    (h : ranked.Pairwise fun a b => b.adjusted.le a.adjusted = true)
    (h' : other.Pairwise fun a b => b.adjusted.le a.adjusted = true)
    (hties : ∀ score, withScore score ranked = withScore score other) : ranked = other := by
  induction ranked generalizing other with
  | nil =>
    exact (List.eq_nil_iff_forall_not_mem.2 fun c hc =>
      List.not_mem_nil ((mem_iff_of_withScore hties c).2 hc)).symm
  | cons a ranked ih =>
    obtain ⟨ha, hranked⟩ := List.pairwise_cons.1 h
    have hmem := (mem_iff_of_withScore hties a).1 List.mem_cons_self
    cases other with
    | nil => cases hmem
    | cons b other =>
      obtain ⟨hb, hother⟩ := List.pairwise_cons.1 h'
      have hmem' := (mem_iff_of_withScore hties b).2 List.mem_cons_self
      -- Each of the two heads is among the highest, so they share a score and head its words.
      have hscore : a.adjusted = b.adjusted := by
        rcases List.mem_cons.1 hmem with rfl | hlater
        · rfl
        · rcases List.mem_cons.1 hmem' with rfl | hlater'
          · rfl
          · exact adjusted_eq_of_ranksBefore (ha b hlater') (hb a hlater)
      have hheads := hties b.adjusted
      rw [withScore_cons, withScore_cons, if_pos hscore, if_pos rfl] at hheads
      obtain ⟨rfl, -⟩ := List.cons.inj hheads
      refine congrArg _ (ih hranked hother fun score => ?_)
      have hrest := hties score
      rw [withScore_cons, withScore_cons] at hrest
      by_cases hequal : a.adjusted = score
      · rw [if_pos hequal, if_pos hequal] at hrest
        exact (List.cons.inj hrest).2
      · rwa [if_neg hequal, if_neg hequal] at hrest

lemma RankedFrom.eq_mergeSort {kept ranked : List Candidate} (h : RankedFrom kept ranked) :
    ranked = kept.mergeSort Candidate.ranksBefore := by
  have hsorted := rankedFrom_mergeSort kept
  apply eq_of_falling h.falling hsorted.falling
  intro score
  exact (h.ties score).trans (hsorted.ties score).symm

/-! ## Merging -/

lemma rel_of_not_mem_take {α : Type} {R : α → α → Prop} {l : List α} {n : Nat} {a b : α}
    (h : l.Pairwise R) (ha : a ∈ l.take n) (hb : b ∈ l) (hout : b ∉ l.take n) : R a b := by
  rw [← List.take_append_drop n l, List.mem_append] at hb
  exact h.rel_of_mem_take_of_mem_drop ha (hb.resolve_left hout)

/-- Of words that agree in small letters the first counts. Of these there is one arrangement in
which the scores less their penalties never rise and equal ones stand as they came, and merging
gives the front of it: as many words as there are texts, up to the limit, no two of which agree.
Each is the first of its text, with the score and the flavor of that, and what is left out ranks no
higher. -/
theorem merged_words_are_the_best (batches : List (List Candidate)) (limit : Nat) :
    let found := batches.flatten
    let kept := firstWords found
    let merged := Candidate.merge batches limit
    (∃! ranked, RankedFrom kept ranked) ∧
    (∀ ranked, RankedFrom kept ranked → merged = ranked.take limit) ∧
    merged.length = min limit (found.map inSmall).dedup.length ∧
    (merged.map inSmall).Nodup ∧
    (∀ c ∈ merged, ∃ before after, found = before ++ c :: after ∧
      ∀ e ∈ before, inSmall e ≠ inSmall c) ∧
    ∀ c ∈ kept, c ∉ merged → ∀ a ∈ merged, c.adjusted.le a.adjusted = true := by
  intro found kept merged
  have hranked := rankedFrom_mergeSort kept
  have hmerged : merged = (kept.mergeSort Candidate.ranksBefore).take limit := by
    unfold merged Candidate.merge
    rw [← firstWords_eq]
  have hmem (c : Candidate) (hc : c ∈ merged) : c ∈ kept := by
    rw [hmerged] at hc
    exact hranked.perm.mem_iff.1 (List.mem_of_mem_take hc)
  refine ⟨⟨_, hranked, fun ranked h => h.eq_mergeSort⟩, fun ranked h => ?_, ?_, ?_, ?_, ?_⟩
  · rw [hmerged, h.eq_mergeSort]
  · rw [hmerged, List.length_take, hranked.perm.length_eq, length_firstWords]
  · have hnodup : (kept.map inSmall).Nodup := by
      unfold kept
      rw [firstWords_eq]
      exact nodup_map_distinctFrom [] found
    rw [hmerged, List.map_take]
    exact ((hranked.perm.map inSmall).nodup_iff.2 hnodup).sublist (List.take_sublist _ _)
  · exact fun c hc => mem_firstWords_iff.1 (hmem c hc)
  · intro c hc hout a ha
    rw [hmerged] at hout ha
    have hbefore := rel_of_not_mem_take hranked.falling ha (hranked.perm.mem_iff.2 hc) hout
    exact hbefore

/-- Two words tie after the penalty, one is found twice, and zero ranks above negative zero. -/
theorem merged_words_are_the_best_among_ties :
    let ash : Candidate := ⟨"Ash", .ofInt 5, .meansLike⟩
    let tuff : Candidate := ⟨"tuff", ⟨true, 0, by decide⟩, .meansLike⟩
    let flow : Candidate := ⟨"lava flow", .ofInt 65, .synonym⟩
    let slag : Candidate := ⟨"slag", .zero, .synonym⟩
    let batches := [[ash, tuff], [⟨"ASH", .ofInt 900, .synonym⟩, flow, slag]]
    RankedFrom (firstWords batches.flatten) [ash, flow, slag, tuff] ∧
    Candidate.merge batches 3 = [ash, flow, slag] := by
  intro ash tuff flow slag batches
  have hkept : firstWords batches.flatten = [ash, tuff, flow, slag] := by decide +kernel
  have hranked : RankedFrom (firstWords batches.flatten) [ash, flow, slag, tuff] := by
    rw [hkept]
    refine ⟨by decide +kernel, by decide +kernel, fun score => ?_⟩
    have hash : ash.adjusted = .ofInt 5 := by decide +kernel
    have hflow : flow.adjusted = .ofInt 5 := by decide +kernel
    have hslag : slag.adjusted = .zero := by decide +kernel
    have htuff : tuff.adjusted = ⟨true, 0, by decide⟩ := by decide +kernel
    simp only [withScore_cons, hash, hflow, hslag, htuff]
    by_cases hfive : Binary64.ofInt 5 = score
    · subst hfive
      decide +kernel
    · by_cases hzero : Binary64.zero = score
      · subst hzero
        decide +kernel
      · simp only [if_neg hfive, if_neg hzero]
  exact ⟨hranked, (merged_words_are_the_best batches 3).2.1 _ hranked⟩

end PromptStudio.Proofs
