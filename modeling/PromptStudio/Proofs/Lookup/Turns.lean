import Mathlib.Data.List.FinRange
import Mathlib.Data.List.Induction
import Mathlib.Data.List.OfFn
import Mathlib.Logic.Function.Basic
import Mathlib.Tactic.Lemma
import PromptStudio.Lookup.Discover

/-!
# Lookups taking turns

The lookups of a search run side by side. In its turns a lookup reads the cache, sends its request
if nothing fresh is there, and keeps what the request brought, while the others go on in between.
Every turn may meet another time and other answers. The search is answered when all lookups have
ended.
-/

namespace PromptStudio.Proofs
open Cache Lookup

inductive Stage where
  | begun
  | missed
  | brought (v : Json)
  | ended (outcome : Except Remote.Failure Json)

namespace Stage

/-- The next step of a lookup, with the requests that it sends. -/
def next (q : Query) (remote : Remote) (now : Instant) (store : Store) : Stage → Fetched Stage
  | begun =>
    match store.get? q.key q.ttl now with
    | some v => ⟨.ended (.ok v), store, []⟩
    | none => ⟨.missed, store, []⟩
  | missed =>
    match remote.ask q.request with
    | .ok v => ⟨.brought v, store, [q.request]⟩
    | .error e => ⟨.ended (.error e), store, [q.request]⟩
  | brought v => ⟨.ended (.ok v), store.set q.key v now, []⟩
  | ended outcome => ⟨.ended outcome, store, []⟩

def outcome? : Stage → Option (Except Remote.Failure Json)
  | ended outcome => some outcome
  | _ => none

def rank : Stage → Nat
  | begun => 0
  | missed => 1
  | brought _ => 2
  | ended _ => 3

lemma rank_next (q : Query) (remote : Remote) (now : Instant) (store : Store) (stage : Stage) :
    min 3 (stage.rank + 1) ≤ (stage.next q remote now store).outcome.rank := by
  cases stage with
  | begun =>
    cases hget : store.get? q.key q.ttl now with
    | some v => simp [next, hget, rank]
    | none => simp [next, hget, rank]
  | missed =>
    cases hask : remote.ask q.request with
    | ok v => simp [next, hask, rank]
    | error e => simp [next, hask, rank]
  | brought v => simp [next, rank]
  | ended outcome => simp [next, rank]

lemma next_ne_begun (q : Query) (remote : Remote) (now : Instant) (store : Store) (stage : Stage) :
    (stage.next q remote now store).outcome ≠ begun := by
  intro h
  have hrank := rank_next q remote now store stage
  rw [h, rank] at hrank
  omega

lemma exists_ended_of_rank {stage : Stage} (h : 3 ≤ stage.rank) :
    ∃ outcome, stage = .ended outcome := by
  cases stage with
  | begun => exact absurd h (by decide)
  | missed => exact absurd h (by decide)
  | brought v => exact absurd h (by simp [rank])
  | ended outcome => exact ⟨outcome, rfl⟩

end Stage

/-- A turn of one of `n` lookups, with the time and the other services that it meets. -/
structure Turn (n : Nat) where
  lookup : Fin n
  remote : Remote
  now : Instant

section turns

variable {n : Nat} (queries : Fin n → Query)

/-- The stages of the lookups, the store and the requests sent so far, after one turn more. -/
def takeTurn (run : Fetched (Fin n → Stage)) (turn : Turn n) : Fetched (Fin n → Stage) :=
  let next := (run.outcome turn.lookup).next (queries turn.lookup) turn.remote turn.now run.store
  ⟨Function.update run.outcome turn.lookup next.outcome, next.store, run.sent ++ next.sent⟩

def afterTurns (store : Store) (turns : List (Turn n)) : Fetched (Fin n → Stage) :=
  turns.foldl (takeTurn queries) ⟨fun _ => .begun, store, []⟩

lemma afterTurns_concat (store : Store) (turns : List (Turn n)) (turn : Turn n) :
    afterTurns queries store (turns ++ [turn]) =
      takeTurn queries (afterTurns queries store turns) turn := by
  unfold afterTurns
  rw [List.foldl_append, List.foldl_cons, List.foldl_nil]

lemma le_rank_afterTurns (store : Store) (turns : List (Turn n)) (i : Fin n) :
    min 3 (turns.countP fun turn => turn.lookup = i) ≤
      ((afterTurns queries store turns).outcome i).rank := by
  induction turns using List.reverseRecOn with
  | nil => exact Nat.zero_le _
  | append_singleton turns turn ih =>
    rw [afterTurns_concat, List.countP_append, takeTurn]
    dsimp only
    by_cases h : turn.lookup = i
    · subst h
      have hnext := Stage.rank_next (queries turn.lookup) turn.remote turn.now
        (afterTurns queries store turns).store
        ((afterTurns queries store turns).outcome turn.lookup)
      rw [Function.update_self, List.countP_singleton]
      simp only [decide_true, if_true]
      omega
    · rw [Function.update_of_ne (Ne.symm h), List.countP_singleton]
      simpa [h] using ih

/-- The lookups have all ended, with these outcomes. -/
def Ended (run : Fetched (Fin n → Stage)) (outcomes : Fin n → Except Remote.Failure Json) : Prop :=
  ∀ i, run.outcome i = .ended (outcomes i)

theorem ended_of_three_turns (store : Store) (turns : List (Turn n))
    (h : ∀ i, 3 ≤ turns.countP fun turn => turn.lookup = i) :
    ∃ outcomes, Ended (afterTurns queries store turns) outcomes := by
  have hend (i : Fin n) :
      ∃ outcome, (afterTurns queries store turns).outcome i = .ended outcome := by
    have hrank := le_rank_afterTurns queries store turns i
    have hturns := h i
    exact Stage.exists_ended_of_rank (by omega)
  exact Classical.skolem.1 hend

end turns

/-! ## The turns of a search -/

def flavorQueries (d : Discovery) (term : String) (i : Fin d.flavors.length) : Query :=
  flavorQuery d.flavors[i] (topics d.topics) term d.limit

/-- What came of each flavor, in the order of the list, once all lookups have ended. -/
def flavorOutcomes? (d : Discovery) (run : Fetched (Fin d.flavors.length → Stage)) :
    Option (List (Except Remote.Failure (List Candidate))) :=
  (List.finRange d.flavors.length).mapM fun i =>
    (run.outcome i).outcome?.map fun outcome => outcome.bind (Lookup.words d.flavors[i])

/-- The answer to a search whose lookups take turns; none before all of them have ended. -/
def searchByTurns (d : Discovery) (store : Store) (turns : List (Turn d.flavors.length)) :
    Option (Fetched (Except Failure (List Candidate))) :=
  match Lookup.term d.term with
  | .error e => some ⟨.error e.failure, store, []⟩
  | .ok t =>
    let run := afterTurns (flavorQueries d t) store turns
    (flavorOutcomes? d run).map fun outcomes =>
      ⟨(d.conclude outcomes).mapError Failure.remote, run.store, run.sent⟩

/-- The words of each flavor in the order of the list, from what its lookup came to. -/
def flavorOutcomes (d : Discovery) (outcomes : Fin d.flavors.length → Except Remote.Failure Json) :
    List (Except Remote.Failure (List Candidate)) :=
  (List.finRange d.flavors.length).map fun i => (outcomes i).bind (Lookup.words d.flavors[i])

lemma mapM_eq_some_map {α β : Type} {f : α → Option β} {g : α → β} (h : ∀ a, f a = some (g a))
    (as : List α) : as.mapM f = some (as.map g) := by
  have hf : f = fun a => pure (g a) := funext h
  rw [hf, List.mapM_pure]
  rfl

lemma flavorOutcomes?_of_ended {d : Discovery} {run : Fetched (Fin d.flavors.length → Stage)}
    {outcomes : Fin d.flavors.length → Except Remote.Failure Json} (h : Ended run outcomes) :
    flavorOutcomes? d run = some (flavorOutcomes d outcomes) := by
  refine mapM_eq_some_map (fun i => ?_) _
  rw [h i]
  rfl

lemma isSome_of_mapM_eq_some {α β : Type} {f : α → Option β} {as : List α} {bs : List β}
    (h : as.mapM f = some bs) : ∀ a ∈ as, (f a).isSome := by
  induction as generalizing bs with
  | nil => simp
  | cons a as ih =>
    rw [List.mapM_cons] at h
    obtain ⟨b, hb, hrest⟩ := Option.bind_eq_some_iff.1 h
    obtain ⟨bs', hbs', -⟩ := Option.bind_eq_some_iff.1 hrest
    rintro a' (_ | ⟨_, ha'⟩)
    · rw [hb, Option.isSome_some]
    · exact ih hbs' a' ha'

lemma exists_ended_of_flavorOutcomes? {d : Discovery} {run : Fetched (Fin d.flavors.length → Stage)}
    {found : List (Except Remote.Failure (List Candidate))}
    (h : flavorOutcomes? d run = some found) :
    ∃ outcomes, Ended run outcomes := by
  have hend (i : Fin d.flavors.length) : ∃ outcome, run.outcome i = .ended outcome := by
    have hsome := isSome_of_mapM_eq_some h i (List.mem_finRange i)
    rw [Option.isSome_map] at hsome
    cases hstage : run.outcome i with
    | ended outcome => exact ⟨outcome, rfl⟩
    | begun | missed | brought =>
      rw [hstage] at hsome
      exact absurd hsome Bool.false_ne_true
  exact Classical.skolem.1 hend

lemma searchByTurns_of_ended {d : Discovery} {t : String} (hterm : Lookup.term d.term = .ok t)
    {store : Store} {turns : List (Turn d.flavors.length)}
    {outcomes : Fin d.flavors.length → Except Remote.Failure Json}
    (h : Ended (afterTurns (flavorQueries d t) store turns) outcomes) :
    searchByTurns d store turns =
      some ⟨(d.conclude (flavorOutcomes d outcomes)).mapError Failure.remote,
        (afterTurns (flavorQueries d t) store turns).store,
        (afterTurns (flavorQueries d t) store turns).sent⟩ := by
  unfold searchByTurns
  rw [hterm]
  dsimp only
  rw [flavorOutcomes?_of_ended h, Option.map_some]

end PromptStudio.Proofs
