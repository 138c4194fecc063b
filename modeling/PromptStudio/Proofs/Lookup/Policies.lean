import PromptStudio.Proofs.Lookup.Absorption
import PromptStudio.Proofs.Lookup.Turns

/-!
# What a failure policy decides

The policy of a search decides what is answered where a flavor has failed, and nothing else: the
lookups run to their end under either policy, send the same requests and leave the same store.
-/

namespace PromptStudio.Proofs
open Cache Lookup

section conclude

variable {outcomes before after : List (Except Remote.Failure (List Candidate))}
  {e : Remote.Failure}

lemma firstFailure?_of_all_ok (h : ∀ o ∈ outcomes, ∃ found, o = .ok found) :
    firstFailure? outcomes = none := by
  refine List.findSome?_eq_none_iff.2 fun o ho => ?_
  obtain ⟨found, rfl⟩ := h o ho
  rfl

lemma firstFailure?_append (outcomes outcomes' : List (Except Remote.Failure (List Candidate))) :
    firstFailure? (outcomes ++ outcomes') =
      (firstFailure? outcomes).or (firstFailure? outcomes') :=
  List.findSome?_append

lemma firstFailure?_of_first (h : ∀ o ∈ before, ∃ found, o = .ok found) :
    firstFailure? (before ++ .error e :: after) = some e := by
  rw [firstFailure?_append, firstFailure?_of_all_ok h, Option.none_or]
  rfl

lemma mem_of_firstFailure? (h : firstFailure? outcomes = some e) : .error e ∈ outcomes := by
  obtain ⟨o, ho, heq⟩ := List.exists_of_findSome?_eq_some h
  cases o with
  | error e' =>
    cases heq
    exact ho
  | ok found => cases heq

lemma conclude_cases (d : Discovery) (outcomes : List (Except Remote.Failure (List Candidate))) :
    (d.conclude outcomes = .ok (Candidate.merge (successes outcomes) d.limit) ∧
      (d.policy = .failFast → ∀ e, .error e ∉ outcomes)) ∨
    d.policy = .failFast ∧ ∃ e, .error e ∈ outcomes ∧ d.conclude outcomes = .error e := by
  unfold Discovery.conclude
  split
  case h_1 e hpolicy hfirst => exact Or.inr ⟨hpolicy, e, mem_of_firstFailure? hfirst, rfl⟩
  case h_2 hother =>
    refine Or.inl ⟨rfl, fun hpolicy e he => ?_⟩
    cases hfirst : firstFailure? outcomes with
    | none => cases List.findSome?_eq_none_iff.1 hfirst _ he
    | some e' => exact hother e' hpolicy hfirst

end conclude

/-- The search under another policy. -/
def under (d : Discovery) (p : FailurePolicy) : Discovery :=
  { d with policy := p }

@[simp] lemma term_under (d : Discovery) (p : FailurePolicy) : (under d p).term = d.term := rfl

/-- The batches are those of the flavors that have not failed, one for each of them and in their
order. -/
inductive Batches :
    List (Except Remote.Failure (List Candidate)) → List (List Candidate) → Prop where
  | nothing : Batches [] []
  | found {batch : List Candidate} {outcomes : List (Except Remote.Failure (List Candidate))}
      {batches : List (List Candidate)} (h : Batches outcomes batches) :
      Batches (.ok batch :: outcomes) (batch :: batches)
  | failed {e : Remote.Failure} {outcomes : List (Except Remote.Failure (List Candidate))}
      {batches : List (List Candidate)} (h : Batches outcomes batches) :
      Batches (.error e :: outcomes) batches

lemma batches_successes (outcomes : List (Except Remote.Failure (List Candidate))) :
    Batches outcomes (successes outcomes) := by
  induction outcomes with
  | nil => exact .nothing
  | cons outcome outcomes ih =>
    cases outcome with
    | error e => exact .failed ih
    | ok batch => exact .found ih

lemma Batches.eq_successes {outcomes : List (Except Remote.Failure (List Candidate))}
    {batches : List (List Candidate)} (h : Batches outcomes batches) :
    batches = successes outcomes := by
  induction h with
  | nothing => rfl
  | found _ ih => exact congrArg _ ih
  | failed _ ih => exact ih

/-- The answers that the two policies give to the same outcomes, which stand in the order of the
flavors. -/
structure AnswersByPolicy (limit : Nat) (outcomes : List (Except Remote.Failure (List Candidate)))
    (answer : FailurePolicy → Except Failure (List Candidate)) : Prop where
  isolate : (∃ batches, Batches outcomes batches) ∧ ∀ batches, Batches outcomes batches →
    answer .isolate = .ok (Candidate.merge batches limit)
  failure : ∀ before e after, outcomes = before ++ .error e :: after →
    (∀ o ∈ before, ∃ found, o = .ok found) → answer .failFast = .error (.remote e)
  success : (∀ o ∈ outcomes, ∃ found, o = .ok found) → answer .failFast = answer .isolate

lemma answersByPolicy_conclude (d : Discovery)
    (outcomes : List (Except Remote.Failure (List Candidate))) :
    AnswersByPolicy d.limit outcomes fun p =>
      ((under d p).conclude outcomes).mapError Failure.remote where
  isolate := by
    refine ⟨⟨_, batches_successes outcomes⟩, fun batches h => ?_⟩
    rw [h.eq_successes]
    rfl
  failure := by
    rintro before e after rfl hbefore
    unfold Discovery.conclude
    rw [firstFailure?_of_first hbefore]
    rfl
  success := by
    intro hok
    unfold Discovery.conclude
    rw [firstFailure?_of_all_ok hok]
    rfl

lemma fetchFlavors_congr (d d' : Discovery) (htopics : d'.topics = d.topics)
    (hlimit : d'.limit = d.limit) (remote : Remote) (now : Instant) (t : String) (store : Store)
    (fs : List Flavor) :
    fetchFlavors remote now d' t store fs = fetchFlavors remote now d t store fs := by
  have hflavor (s : Store) (f : Flavor) :
      fetchFlavor remote now d' t s f = fetchFlavor remote now d t s f := by
    unfold fetchFlavor
    rw [htopics, hlimit]
  induction fs generalizing store with
  | nil => rfl
  | cons f fs ih => rw [fetchFlavors, fetchFlavors, hflavor, ih]

lemma fetchFlavors_append (remote : Remote) (now : Instant) (d : Discovery) (t : String)
    (store : Store) (fs gs : List Flavor) :
    let first := fetchFlavors remote now d t store fs
    let rest := fetchFlavors remote now d t first.store gs
    fetchFlavors remote now d t store (fs ++ gs) =
      ⟨first.outcome ++ rest.outcome, rest.store, first.sent ++ rest.sent⟩ := by
  induction fs generalizing store with
  | nil => rfl
  | cons f fs ih =>
    dsimp only at ih ⊢
    rw [List.cons_append, fetchFlavors, ih]
    simp only [fetchFlavors, List.cons_append, List.append_assoc]

lemma length_fetchFlavors (remote : Remote) (now : Instant) (d : Discovery) (t : String)
    (store : Store) (fs : List Flavor) :
    (fetchFlavors remote now d t store fs).outcome.length = fs.length := by
  induction fs generalizing store with
  | nil => rfl
  | cons f fs ih =>
    rw [fetchFlavors]
    simp only [List.length_cons, ih]

/-- A search with a term answers by its policy alone, from the outcomes of its lookups in the order
of the flavors: the policy changes neither the requests that are sent nor the store that is left,
whether the lookups take turns in any way, amid changing answers and times, or follow one another
to the end. Without a term nothing is done. -/
theorem answer_follows_policy (d : Discovery) (store : Store) :
    (∀ t, Lookup.term d.term = .ok t →
      (∀ (turns : List (Turn d.flavors.length))
          (outcomes : Fin d.flavors.length → Except Remote.Failure Json),
        let run := afterTurns (flavorQueries d t) store turns
        Ended run outcomes →
        ∃ answer, AnswersByPolicy d.limit (flavorOutcomes d outcomes) answer ∧
          ∀ p, searchByTurns (under d p) store turns = some ⟨answer p, run.store, run.sent⟩) ∧
      ∀ remote now,
        let run := fetchFlavors remote now d t store d.flavors
        (∀ before f after, d.flavors = before ++ f :: after →
          let earlier := fetchFlavors remote now d t store before
          let lookup := fetchFlavor remote now d t earlier.store f
          run.outcome[before.length]? = some lookup.outcome ∧
            earlier.sent ++ lookup.sent <+: run.sent) ∧
        ∃ answer, AnswersByPolicy d.limit run.outcome answer ∧
          ∀ p, (under d p).run remote now store = ⟨answer p, run.store, run.sent⟩) ∧
    ∀ e, Lookup.term d.term = .error e → ∀ p remote now turns,
      (under d p).run remote now store = ⟨.error e.failure, store, []⟩ ∧
      searchByTurns (under d p) store turns = some ⟨.error e.failure, store, []⟩ := by
  refine ⟨fun t hterm => ⟨fun turns outcomes hended => ?_, fun remote now => ⟨?_, ?_⟩⟩, ?_⟩
  · exact ⟨_, answersByPolicy_conclude d _, fun p =>
      searchByTurns_of_ended (d := under d p) hterm hended⟩
  · rintro before f after hflavors
    dsimp only
    rw [hflavors, fetchFlavors_append, fetchFlavors]
    dsimp only
    constructor
    · rw [List.getElem?_append_right (length_fetchFlavors ..).le, length_fetchFlavors,
        Nat.sub_self, List.getElem?_cons_zero]
    · rw [← List.append_assoc]
      exact List.prefix_append _ _
  · refine ⟨_, answersByPolicy_conclude d _, fun p => ?_⟩
    unfold Discovery.run
    rw [term_under, hterm]
    dsimp only
    rw [fetchFlavors_congr d (under d p) rfl rfl]
    rfl
  · intro e hterm p remote now turns
    constructor
    · unfold Discovery.run
      rw [term_under, hterm]
    · unfold searchByTurns
      rw [term_under, hterm]

/-- Synonyms are asked for while the service is down. The words of the last flavor come first, and
yet stand behind those of the first one. -/
theorem answer_follows_policy_amid_failure :
    let down : Remote := fun _ => some ⟨500, "[]"⟩
    let up : Remote := fun r => some ⟨200,
      if r.query.contains ("ml", "lava") then "[[\"ash\"]]" else "[[\"elm\"]]"⟩
    let d : Discovery := ⟨" lava", none, 25, [.meansLike, .synonym, .trigger], .isolate⟩
    let turns : List (Turn d.flavors.length) :=
      [⟨2, up, ⟨0⟩⟩, ⟨1, down, ⟨0⟩⟩, ⟨2, up, ⟨1⟩⟩, ⟨2, up, ⟨1⟩⟩, ⟨1, down, ⟨2⟩⟩, ⟨0, up, ⟨3⟩⟩,
        ⟨0, up, ⟨4⟩⟩, ⟨1, up, ⟨4⟩⟩, ⟨0, up, ⟨5⟩⟩]
    let run := afterTurns (flavorQueries d "lava") .failing turns
    ∃ outcomes, (Lookup.term d.term = .ok "lava" ∧ Ended run outcomes) ∧
      searchByTurns (under d .failFast) .failing turns =
        some ⟨.error (.remote (.status 500)), run.store, run.sent⟩ ∧
      searchByTurns (under d .isolate) .failing turns =
        some ⟨.ok [⟨"ash", .zero, .meansLike⟩, ⟨"elm", .zero, .trigger⟩], run.store, run.sent⟩ := by
  intro down up d turns run
  let ash : Candidate := ⟨"ash", .zero, .meansLike⟩
  let elm : Candidate := ⟨"elm", .zero, .trigger⟩
  have hterm : Lookup.term d.term = .ok "lava" := by decide +kernel
  obtain ⟨outcomes, hended⟩ :=
    ended_of_three_turns (flavorQueries d "lava") .failing turns (by decide)
  obtain ⟨answer, hanswer, hrun⟩ :=
    ((answer_follows_policy d .failing).1 "lava" hterm).1 turns outcomes hended
  have hfound : flavorOutcomes d outcomes = [.ok [ash], .error (.status 500), .ok [elm]] := by
    apply Option.some.inj
    rw [← flavorOutcomes?_of_ended hended]
    decide +kernel
  rw [hfound] at hanswer
  have hmerged : Candidate.merge [[ash], [elm]] 25 = [ash, elm] := by
    have hkept : firstWords [[ash], [elm]].flatten = [ash, elm] := by decide +kernel
    have hranked : RankedFrom (firstWords [[ash], [elm]].flatten) [ash, elm] := by
      rw [hkept]
      exact ⟨.refl _, by decide +kernel, fun _ => rfl⟩
    exact merge_eq_take hranked 25
  refine ⟨outcomes, ⟨hterm, hended⟩, ?_, ?_⟩
  · rw [hrun, hanswer.failure [.ok [ash]] _ [.ok [elm]] rfl (by simp)]
  · rw [hrun, hanswer.isolate.2 [[ash], [elm]] (.found (.failed (.found .nothing))), hmerged]

end PromptStudio.Proofs
