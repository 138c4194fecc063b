import PromptStudio.Proofs.Lookup.Ranking

/-!
# Merging what is merged

Merging arranges words by rank, so that a later merge meets them in another order than they came
in. It still keeps the same word of each text, and equal words still stand as they came at first:
a merged list can take the place of the batches it was merged from.
-/

namespace PromptStudio.Proofs
open Lookup

/-! ## New words after those seen -/

/-- What is new depends on which texts have been seen, not on their order or number. -/
lemma distinctFrom_congr {seen seen' : List String} (h : ∀ s, s ∈ seen ↔ s ∈ seen')
    (cs : List Candidate) :
    Candidate.distinctFrom seen cs = Candidate.distinctFrom seen' cs := by
  rw [distinctFrom_eq, distinctFrom_eq]
  refine congrArg _ (List.filter_congr fun w _ => decide_eq_decide.2 (not_congr ?_))
  rw [List.mem_append, List.mem_append, h]

lemma distinctFrom_append (seen : List String) (cs later : List Candidate) :
    Candidate.distinctFrom seen (cs ++ later) =
      Candidate.distinctFrom seen cs ++ Candidate.distinctFrom (cs.map inSmall ++ seen) later := by
  induction cs generalizing seen with
  | nil => rfl
  | cons c cs ih =>
    rw [List.cons_append, distinctFrom_cons, distinctFrom_cons, List.map_cons]
    by_cases hseen : inSmall c ∈ seen
    · rw [if_pos hseen, if_pos hseen, ih]
      refine congrArg _ (distinctFrom_congr (fun s => ?_) later)
      simp only [List.mem_append, List.mem_cons, List.cons_append]
      exact ⟨Or.inr, fun h => h.elim (fun heq => Or.inr (heq ▸ hseen)) id⟩
    · rw [if_neg hseen, if_neg hseen, ih, List.cons_append]
      refine congrArg (c :: Candidate.distinctFrom _ cs ++ ·)
        (distinctFrom_congr (fun s => ?_) later)
      simp only [List.mem_append, List.mem_cons, List.cons_append]
      tauto

lemma distinctFrom_of_nodup {seen : List String} {cs : List Candidate}
    (hnodup : (cs.map inSmall).Nodup) (hnew : ∀ c ∈ cs, inSmall c ∉ seen) :
    Candidate.distinctFrom seen cs = cs := by
  induction cs generalizing seen with
  | nil => rfl
  | cons c cs ih =>
    obtain ⟨hfirst, hrest⟩ := List.nodup_cons.1 hnodup
    rw [distinctFrom_cons, if_neg (hnew c List.mem_cons_self), ih hrest]
    intro e he hmem
    rcases List.mem_cons.1 hmem with heq | hseen
    · exact hfirst (heq ▸ List.mem_map_of_mem he)
    · exact hnew e (List.mem_cons_of_mem c he) hseen

lemma firstWords_of_nodup {cs : List Candidate} (h : (cs.map inSmall).Nodup) :
    firstWords cs = cs := by
  rw [firstWords_eq]
  exact distinctFrom_of_nodup h fun _ _ => List.not_mem_nil

lemma firstWords_append (cs later : List Candidate) :
    firstWords (cs ++ later) =
      firstWords cs ++ Candidate.distinctFrom (cs.map inSmall) later := by
  rw [firstWords_eq, firstWords_eq, distinctFrom_append, List.append_nil]

/-! ## Arrangements of arranged words -/

lemma withScore_append (score : Binary64) (cs later : List Candidate) :
    withScore score (cs ++ later) = withScore score cs ++ withScore score later :=
  List.filter_append ..

lemma RankedFrom.of_arranged_part {kept part later ranked : List Candidate}
    (hpart : RankedFrom kept part) (h : RankedFrom (part ++ later) ranked) :
    RankedFrom (kept ++ later) ranked where
  perm := h.perm.trans (hpart.perm.append_right later)
  falling := h.falling
  ties score := by
    rw [h.ties, withScore_append, withScore_append, hpart.ties]

lemma mergeSort_of_falling {ranked : List Candidate}
    (h : ranked.Pairwise fun a b => b.adjusted.le a.adjusted = true) :
    ranked.mergeSort Candidate.ranksBefore = ranked :=
  (RankedFrom.eq_mergeSort ⟨List.Perm.refl ranked, h, fun _ => rfl⟩).symm

/-! ## Merging -/

lemma merge_eq (batches : List (List Candidate)) (limit : Nat) :
    Candidate.merge batches limit =
      ((firstWords batches.flatten).mergeSort Candidate.ranksBefore).take limit := by
  rw [firstWords_eq]
  rfl

lemma merge_eq_take {batches : List (List Candidate)} {ranked : List Candidate}
    (h : RankedFrom (firstWords batches.flatten) ranked) (limit : Nat) :
    Candidate.merge batches limit = ranked.take limit := by
  rw [merge_eq, h.eq_mergeSort]

lemma length_firstWords_le (cs : List Candidate) : (firstWords cs).length ≤ cs.length := by
  rw [length_firstWords, ← List.length_map (f := inSmall)]
  exact (List.dedup_sublist _).length_le

lemma nodup_firstWords (cs : List Candidate) : ((firstWords cs).map inSmall).Nodup := by
  rw [firstWords_eq]
  exact nodup_map_distinctFrom [] cs

lemma mem_map_firstWords {cs : List Candidate} {s : String} :
    s ∈ (firstWords cs).map inSmall ↔ s ∈ cs.map inSmall := by
  rw [firstWords_eq, mem_map_distinctFrom]
  exact and_iff_left List.not_mem_nil

lemma rankedFrom_merge {batches : List (List Candidate)} {limit : Nat}
    (h : batches.flatten.length ≤ limit) :
    RankedFrom (firstWords batches.flatten) (Candidate.merge batches limit) := by
  have hranked := rankedFrom_mergeSort (firstWords batches.flatten)
  have hlength : ((firstWords batches.flatten).mergeSort Candidate.ranksBefore).length ≤ limit := by
    rw [hranked.perm.length_eq]
    exact Nat.le_trans (length_firstWords_le _) h
  rw [merge_eq, List.take_of_length_le hlength]
  exact hranked

/-- Merging a merged list keeps all of it, up to the limit. -/
lemma merge_merge (batches : List (List Candidate)) (limit limit' : Nat) :
    Candidate.merge [Candidate.merge batches limit] limit' =
      (Candidate.merge batches limit).take limit' := by
  have hranked := rankedFrom_mergeSort (firstWords batches.flatten)
  have hnodup : ((Candidate.merge batches limit).map inSmall).Nodup := by
    rw [merge_eq, List.map_take]
    exact ((hranked.perm.map inSmall).nodup_iff.2 (nodup_firstWords _)).sublist
      (List.take_sublist _ _)
  have hfalling : (Candidate.merge batches limit).Pairwise
      fun a b => b.adjusted.le a.adjusted = true := by
    rw [merge_eq]
    exact hranked.falling.sublist (List.take_sublist _ _)
  rw [merge_eq, List.flatten_singleton, firstWords_of_nodup hnodup, mergeSort_of_falling hfalling]

/-- Batches that were merged without a limit in the way, and are put in front of further ones as
one batch, give what they would have given unmerged. A list that has been merged, to whatever
limit, stays as it is when it is merged again to that limit or a higher one. -/
theorem merged_batches_merge_as_before (batches later : List (List Candidate)) (all limit : Nat)
    (h : batches.flatten.length ≤ all) :
    Candidate.merge ([Candidate.merge batches all] ++ later) limit =
      Candidate.merge (batches ++ later) limit ∧
    ∀ lower higher, lower ≤ higher →
      Candidate.merge [Candidate.merge batches lower] higher = Candidate.merge batches lower := by
  constructor
  · have hpart := rankedFrom_merge h
    -- The words that the further batches add are the same, whichever order the first stand in.
    have hadded : firstWords (Candidate.merge batches all ++ later.flatten) =
        Candidate.merge batches all ++
          Candidate.distinctFrom (batches.flatten.map inSmall) later.flatten := by
      have hnodup : ((Candidate.merge batches all).map inSmall).Nodup :=
        (hpart.perm.map inSmall).nodup_iff.2 (nodup_firstWords _)
      rw [firstWords_append, firstWords_of_nodup hnodup]
      refine congrArg _ (distinctFrom_congr (fun s => ?_) later.flatten)
      rw [(hpart.perm.map inSmall).mem_iff, mem_map_firstWords]
    have hranked := rankedFrom_mergeSort
      (firstWords (Candidate.merge batches all ++ later.flatten))
    have hall := hpart.of_arranged_part (hadded ▸ hranked)
    rw [← firstWords_append, ← hadded] at hall
    rw [merge_eq (_ ++ later), merge_eq (_ ++ later), List.flatten_append, List.flatten_append,
      List.flatten_singleton, hall.eq_mergeSort]
  · intro lower higher hle
    have hlength : (Candidate.merge batches lower).length ≤ higher := by
      rw [merge_eq, List.length_take]
      exact Nat.le_trans (Nat.min_le_left _ _) hle
    rw [merge_merge, List.take_of_length_le hlength]

/-- Merging turns the first two words around, and one of them ties with a word found later. -/
theorem merged_batches_merge_as_before_at_tie :
    let ash : Candidate := ⟨"ash", .ofInt 5, .meansLike⟩
    let tuff : Candidate := ⟨"tuff", .ofInt 7, .synonym⟩
    let flow : Candidate := ⟨"flow", .ofInt 5, .trigger⟩
    let batches := [[ash], [tuff]]
    let later := [[⟨"TUFF", .ofInt 900, .trigger⟩, flow]]
    batches.flatten.length ≤ 2 ∧ Candidate.merge batches 2 = [tuff, ash] ∧
    Candidate.merge ([[tuff, ash]] ++ later) 3 = Candidate.merge (batches ++ later) 3 ∧
    Candidate.merge (batches ++ later) 3 = [tuff, ash, flow] := by
  intro ash tuff flow batches later
  have hash : ash.adjusted = .ofInt 5 := by decide +kernel
  have htuff : tuff.adjusted = .ofInt 7 := by decide +kernel
  have hties (score : Binary64) (rest : List Candidate) :
      withScore score (tuff :: ash :: rest) = withScore score (ash :: tuff :: rest) := by
    simp only [withScore_cons, hash, htuff]
    by_cases hfive : Binary64.ofInt 5 = score
    · subst hfive
      simp only [if_neg (by decide +kernel : ¬ Binary64.ofInt 7 = Binary64.ofInt 5)]
    · simp only [if_neg hfive]
  have hmerged : Candidate.merge batches 2 = [tuff, ash] := by
    have hkept : firstWords batches.flatten = [ash, tuff] := by decide +kernel
    have hranked : RankedFrom (firstWords batches.flatten) [tuff, ash] := by
      rw [hkept]
      exact ⟨by decide +kernel, by decide +kernel, fun score => hties score []⟩
    exact merge_eq_take hranked 2
  have hall : Candidate.merge (batches ++ later) 3 = [tuff, ash, flow] := by
    have hkept : firstWords (batches ++ later).flatten = [ash, tuff, flow] := by decide +kernel
    have hranked : RankedFrom (firstWords (batches ++ later).flatten) [tuff, ash, flow] := by
      rw [hkept]
      exact ⟨by decide +kernel, by decide +kernel, fun score => hties score [flow]⟩
    exact merge_eq_take hranked 3
  have hlength : batches.flatten.length ≤ 2 := by decide
  have hlater := (merged_batches_merge_as_before batches later 2 3 hlength).1
  rw [hmerged] at hlater
  exact ⟨hlength, hmerged, hlater, hall⟩

end PromptStudio.Proofs
