import PromptStudio.Proofs.Lookup.Misses
import PromptStudio.Proofs.Lookup.Turns

/-!
# Lookups in any order

The flavors of a list without repetition have different keys. So the order of the lookups does not
show, whether they follow one another or take turns: each comes to what it would have come to
alone, and all of them together leave the same store and send the same requests.
-/

namespace PromptStudio.Proofs
open Cache Lookup

/-! ## One step of a lookup -/

namespace Stage

/-- Whether the request has been sent. A lookup that has ended sent it if it missed. -/
def hasAsked (miss : Bool) : Stage → Bool
  | begun | missed => false
  | brought _ => true
  | ended _ => miss

def hasKept (miss : Bool) : Stage → Bool
  | begun | missed | brought _ => false
  | ended _ => miss

section step

variable (remote : Remote) (now : Instant) (s : Store) (q : Query)

/-- What a stage tells about a lookup that began with this store. -/
def Sound : Stage → Prop
  | begun => True
  | missed => missing now s q = true
  | brought v => missing now s q = true ∧ remote.ask q.request = .ok v
  | ended outcome => outcome = (q.fetch remote now s).outcome

lemma ask_eq_outcome_fetch (h : missing now s q = true) :
    remote.ask q.request = (q.fetch remote now s).outcome := by
  rw [fetch_of_missing remote now h]

variable {remote now s q} {time : Instant} {stage : Stage} {held : Store}

/-- What one step of a lookup does at a time: it goes on to a sound stage, it keeps its reply or
leaves what is held, and it sends its request or nothing. -/
structure Step (remote : Remote) (now : Instant) (s : Store) (q : Query) (time : Instant)
    (held : Store) (stage : Stage) (next : Fetched Stage) : Prop where
  sound : next.outcome.Sound remote now s q
  holds :
    next.outcome.hasKept (missing now s q) = stage.hasKept (missing now s q) ∧
      holdings next.store = holdings held ∨
    stage.hasKept (missing now s q) = false ∧ next.outcome.hasKept (missing now s q) = true ∧
      holdings next.store = (holdings held).putReply remote time q
  sent :
    next.outcome.hasAsked (missing now s q) = stage.hasAsked (missing now s q) ∧ next.sent = [] ∨
    stage.hasAsked (missing now s q) = false ∧ next.outcome.hasAsked (missing now s q) = true ∧
      next.sent = [q.request]

lemma step_next (h : stage.Sound remote now s q)
    (hread : stage = .begun → held.get? q.key q.ttl time = s.get? q.key q.ttl now) :
    Step remote now s q time held stage (stage.next q remote time held) := by
  cases stage with
  | begun =>
    unfold next
    rw [hread rfl]
    cases hget : s.get? q.key q.ttl now with
    | some v =>
      have hmiss : missing now s q = false := by rw [missing, hget, Option.isNone_some]
      have hfetch : .ok v = (q.fetch remote now s).outcome := by
        unfold Query.fetch
        rw [hget]
      exact ⟨hfetch, .inl ⟨hmiss, rfl⟩, .inl ⟨hmiss, rfl⟩⟩
    | none =>
      have hmiss : missing now s q = true := by rw [missing, hget, Option.isNone_none]
      exact ⟨hmiss, .inl ⟨rfl, rfl⟩, .inl ⟨rfl, rfl⟩⟩
  | missed =>
    have hmiss : missing now s q = true := h
    have hfetch := ask_eq_outcome_fetch remote now s q hmiss
    unfold next
    cases hask : remote.ask q.request with
    | ok v => exact ⟨⟨hmiss, hask⟩, .inl ⟨rfl, rfl⟩, .inr ⟨rfl, rfl, rfl⟩⟩
    | error e =>
      have hput : holdings held = (holdings held).putReply remote time q := by
        rw [Holdings.putReply, hask]
      exact ⟨hask.symm.trans hfetch, .inr ⟨rfl, hmiss, hput⟩, .inr ⟨rfl, hmiss, rfl⟩⟩
  | brought v =>
    obtain ⟨hmiss, hask⟩ := h
    have hfetch := ask_eq_outcome_fetch remote now s q hmiss
    have hput : holdings (held.set q.key v time) = (holdings held).putReply remote time q := by
      rw [Holdings.putReply, hask]
      exact holdings_set held q.key v time
    exact ⟨hask.symm.trans hfetch, .inr ⟨rfl, hmiss, hput⟩, .inl ⟨hmiss, rfl⟩⟩
  | ended outcome => exact ⟨h, .inl ⟨rfl, rfl⟩, .inl ⟨rfl, rfl⟩⟩

lemma get?_next_of_ne {key : String} (hne : q.key ≠ key) (ttl : Int) (at' : Instant) :
    (stage.next q remote now held).store.get? key ttl at' = held.get? key ttl at' := by
  cases stage with
  | begun =>
    unfold next
    cases held.get? q.key q.ttl now with
    | some v => rfl
    | none => rfl
  | missed =>
    unfold next
    cases remote.ask q.request with
    | ok v => rfl
    | error e => rfl
  | brought v => exact get?_set_of_ne held hne v ttl now at'
  | ended outcome => rfl

end step

end Stage

/-! ## Turns of all lookups -/

section schedules

variable {n : Nat} (remote : Remote) (now : Instant) (queries : Fin n → Query) (s : Store)

/-- The queries of the lookups that have got so far. -/
def reached (mark : Bool → Stage → Bool) (stages : Fin n → Stage) : List Query :=
  ((List.finRange n).filter fun i => mark (missing now s (queries i)) (stages i)).map queries

section reached

variable {mark : Bool → Stage → Bool} {stages : Fin n → Stage} {i : Fin n} {next : Stage}

lemma reached_update_of_eq
    (h : mark (missing now s (queries i)) next = mark (missing now s (queries i)) (stages i)) :
    reached now queries s mark (Function.update stages i next) =
      reached now queries s mark stages := by
  unfold reached
  refine congrArg _ (List.filter_congr fun j _ => ?_)
  by_cases hj : j = i
  · subst hj
    rw [Function.update_self, h]
  · rw [Function.update_of_ne hj]

lemma reached_update_perm (h : mark (missing now s (queries i)) (stages i) = false)
    (hnext : mark (missing now s (queries i)) next = true) :
    (reached now queries s mark (Function.update stages i next)).Perm
      (reached now queries s mark stages ++ [queries i]) := by
  unfold reached
  rw [← List.map_singleton, ← List.map_append]
  refine List.Perm.map queries ?_
  have hnodup := List.nodup_finRange n
  rw [List.perm_ext_iff_of_nodup (hnodup.filter _)
    (List.nodup_append_comm.1 (List.nodup_cons.2 ⟨by simp [h], hnodup.filter _⟩))]
  intro j
  by_cases hj : j = i
  · subst hj
    simp [hnext]
  · simp [hj, Function.update_of_ne]

end reached

/-- The turns meet one upstream, at times when the same is found for the queries. -/
def Steady (turns : List (Turn n)) : Prop :=
  ∀ turn ∈ turns, turn.remote = remote ∧ ∀ i,
    s.get? (queries i).key (queries i).ttl turn.now = s.get? (queries i).key (queries i).ttl now

/-- Where the lookups are that began with this store, after these turns. What they have kept bears
the time of its writing, so it is the same only if no time has passed. -/
structure Underway (turns : List (Turn n)) (run : Fetched (Fin n → Stage)) : Prop where
  sound : ∀ i, (run.outcome i).Sound remote now s (queries i)
  unread : ∀ i, run.outcome i = .begun → ∀ time,
    run.store.get? (queries i).key (queries i).ttl time =
      s.get? (queries i).key (queries i).ttl time
  sent : run.sent.Perm ((reached now queries s Stage.hasAsked run.outcome).map Query.request)
  holds : (∀ turn ∈ turns, turn.now = now) →
    holdings run.store = (reached now queries s Stage.hasKept run.outcome).foldl
      (Holdings.putReply remote now) (holdings s)

variable {remote now queries s}

lemma eq_of_key_eq_of_mem_reached (hkeys : ∀ i j, (queries i).key = (queries j).key → i = j)
    {mark : Bool → Stage → Bool} {stages : Fin n → Stage} :
    ∀ q ∈ reached now queries s mark stages, ∀ q' ∈ reached now queries s mark stages,
      q.key = q'.key → q = q' := by
  intro q hq q' hq' hkey
  obtain ⟨i, -, rfl⟩ := List.mem_map.1 hq
  obtain ⟨j, -, rfl⟩ := List.mem_map.1 hq'
  rw [hkeys i j hkey]

lemma underway_begun : Underway remote now queries s [] ⟨fun _ => .begun, s, []⟩ := by
  constructor
  · exact fun _ => trivial
  · exact fun _ _ _ => rfl
  · simp [reached, Stage.hasAsked]
  · simp [reached, Stage.hasKept]

lemma Underway.takeTurn (hkeys : ∀ i j, (queries i).key = (queries j).key → i = j)
    {turns : List (Turn n)} {run : Fetched (Fin n → Stage)}
    (h : Underway remote now queries s turns run) (i : Fin n) {time : Instant}
    (htime : s.get? (queries i).key (queries i).ttl time =
      s.get? (queries i).key (queries i).ttl now) :
    Underway remote now queries s (turns ++ [⟨i, remote, time⟩])
      (takeTurn queries run ⟨i, remote, time⟩) := by
  -- Only the lookup whose turn it is goes on; the others find under their own keys what they found.
  have hstep := Stage.step_next (h.sound i) fun hbegun => (h.unread i hbegun time).trans htime
  unfold Proofs.takeTurn
  dsimp only
  constructor
  · intro j
    by_cases hj : j = i
    · subst hj
      simpa using hstep.sound
    · simpa [Function.update_of_ne hj] using h.sound j
  · intro j hbegun
    by_cases hj : j = i
    · subst hj
      simp only [Function.update_self] at hbegun
      exact absurd hbegun (Stage.next_ne_begun _ _ _ _ _)
    · have hkey : (queries i).key ≠ (queries j).key := fun hkey => hj (hkeys i j hkey).symm
      have hj' : run.outcome j = .begun := by
        simpa [Function.update_of_ne hj] using hbegun
      exact fun time' => (Stage.get?_next_of_ne hkey _ time').trans (h.unread j hj' time')
  · rcases hstep.sent with ⟨hsame, heq⟩ | ⟨hbefore, hafter, heq⟩
    · rw [heq, List.append_nil, reached_update_of_eq now queries s hsame]
      exact h.sent
    · have hperm := (reached_update_perm now queries s hbefore hafter).map Query.request
      rw [heq]
      rw [List.map_append] at hperm
      exact (h.sent.append_right _).trans hperm.symm
  · intro hnow
    have hholds := h.holds fun turn hturn => hnow turn (List.mem_append_left _ hturn)
    have hthen : time = now := hnow _ (List.mem_append_right _ List.mem_cons_self)
    subst hthen
    rcases hstep.holds with ⟨hsame, heq⟩ | ⟨hbefore, hafter, heq⟩
    · rw [heq, hholds, reached_update_of_eq _ queries s hsame]
    · have hperm := reached_update_perm _ queries s hbefore hafter
      rw [heq, hholds, foldl_putReply_of_perm hperm (eq_of_key_eq_of_mem_reached hkeys),
        List.foldl_append]
      rfl

lemma underway_afterTurns (hkeys : ∀ i j, (queries i).key = (queries j).key → i = j)
    {turns : List (Turn n)} (hsteady : Steady remote now queries s turns) :
    Underway remote now queries s turns (afterTurns queries s turns) := by
  induction turns using List.reverseRecOn with
  | nil => exact underway_begun
  | append_singleton turns turn ih =>
    obtain ⟨hremote, htime⟩ := hsteady turn (List.mem_append_right _ List.mem_cons_self)
    obtain ⟨i, remote', time⟩ := turn
    obtain rfl : remote' = remote := hremote
    rw [afterTurns_concat]
    have hearlier := ih fun turn hturn => hsteady turn (List.mem_append_left _ hturn)
    exact hearlier.takeTurn hkeys i (htime i)

section ended

variable {turns : List (Turn n)} {run : Fetched (Fin n → Stage)}
  {outcomes : Fin n → Except Remote.Failure Json}

/-- A lookup that has ended came to what it would have come to alone. -/
lemma Underway.outcome_eq (h : Underway remote now queries s turns run)
    (hended : Ended run outcomes) (i : Fin n) :
    outcomes i = ((queries i).fetch remote now s).outcome := by
  have hsound := h.sound i
  rwa [hended i] at hsound

lemma reached_of_ended (hended : Ended run outcomes) (mark : Bool → Stage → Bool)
    (hmark : ∀ miss outcome, mark miss (.ended outcome) = miss) :
    reached now queries s mark run.outcome =
      ((List.finRange n).map queries).filter (missing now s) := by
  rw [List.filter_map]
  refine congrArg _ (List.filter_congr fun i _ => ?_)
  rw [hended i, hmark, Function.comp_apply]

lemma Underway.sent_of_ended (h : Underway remote now queries s turns run)
    (hended : Ended run outcomes) :
    run.sent.Perm ((((List.finRange n).map queries).filter (missing now s)).map Query.request) := by
  rw [← reached_of_ended hended Stage.hasAsked fun _ _ => rfl]
  exact h.sent

lemma Underway.askedOf (h : Underway remote now queries s turns run) (hended : Ended run outcomes)
    (hnow : ∀ turn ∈ turns, turn.now = now) :
    AskedOf remote now ((List.finRange n).map queries) s run := by
  refine ⟨?_, h.sent_of_ended hended⟩
  rw [h.holds hnow, reached_of_ended hended Stage.hasKept fun _ _ => rfl]

end ended

end schedules

/-! ## The turns of a search -/

section search

variable (d : Discovery) (t : String)

lemma map_flavorQueries :
    (List.finRange d.flavors.length).map (flavorQueries d t) = d.flavors.map (queryOf d t) := by
  conv_rhs => rw [← List.map_getElem_finRange d.flavors, List.map_map]
  rfl

variable {d} {remote : Remote} {now : Instant} {store : Store}

lemma eq_of_flavorQueries_key_eq (hd : d.flavors.Nodup) (i j : Fin d.flavors.length)
    (hkey : (flavorQueries d t i).key = (flavorQueries d t j).key) : i = j :=
  Fin.ext (hd.getElem_inj_iff.1 (flavor_eq_of_key_eq t (topics d.topics) hkey))

lemma steady_of_now {turns : List (Turn d.flavors.length)}
    (h : ∀ turn ∈ turns, turn.remote = remote ∧ turn.now = now) :
    Steady remote now (flavorQueries d t) store turns := by
  intro turn hturn
  obtain ⟨hremote, hnow⟩ := h turn hturn
  exact ⟨hremote, fun i => by rw [hnow]⟩

section turns

variable {turns : List (Turn d.flavors.length)}
  {outcomes : Fin d.flavors.length → Except Remote.Failure Json}

lemma outcomes_of_turns (hd : d.flavors.Nodup)
    (hsteady : Steady remote now (flavorQueries d t) store turns)
    (hended : Ended (afterTurns (flavorQueries d t) store turns) outcomes) :
    flavorOutcomes d outcomes = (fetchFlavors remote now d t store d.flavors).outcome := by
  have hunderway := underway_afterTurns (eq_of_flavorQueries_key_eq t hd) hsteady
  rw [outcome_fetchFlavors remote now d t store d.flavors]
  conv_rhs => rw [← List.map_getElem_finRange d.flavors, List.map_map]
  unfold flavorOutcomes
  refine List.map_congr_left fun i _ => ?_
  rw [hunderway.outcome_eq hended i]
  rfl

lemma sent_of_turns (hd : d.flavors.Nodup)
    (hsteady : Steady remote now (flavorQueries d t) store turns)
    (hended : Ended (afterTurns (flavorQueries d t) store turns) outcomes) :
    (afterTurns (flavorQueries d t) store turns).sent.Perm
      (fetchFlavors remote now d t store d.flavors).sent := by
  have hunderway := underway_afterTurns (eq_of_flavorQueries_key_eq t hd) hsteady
  have hsent := hunderway.sent_of_ended hended
  rw [map_flavorQueries] at hsent
  exact hsent.trans (askedOf_fetchFlavors remote now d t store hd).sent.symm

lemma sameEffects_of_turns (hd : d.flavors.Nodup)
    (hnow : ∀ turn ∈ turns, turn.remote = remote ∧ turn.now = now)
    (hended : Ended (afterTurns (flavorQueries d t) store turns) outcomes) :
    SameEffects (afterTurns (flavorQueries d t) store turns)
      (fetchFlavors remote now d t store d.flavors) := by
  have hsteady : Steady remote now (flavorQueries d t) store turns := steady_of_now t hnow
  have hunderway := underway_afterTurns (eq_of_flavorQueries_key_eq t hd) hsteady
  have hasked := hunderway.askedOf hended fun turn hturn => (hnow turn hturn).2
  rw [map_flavorQueries] at hasked
  exact hasked.sameEffects (askedOf_fetchFlavors remote now d t store hd)
    (fun q hq q' hq' => queryOf_eq_of_key_eq d t hq hq') (.refl _)

lemma answer_of_turns (hd : d.flavors.Nodup)
    (hsteady : ∀ t, Steady remote now (flavorQueries d t) store turns)
    {found : Fetched (Except Failure (List Candidate))}
    (hfound : searchByTurns d store turns = some found) :
    found.outcome = (d.run remote now store).outcome ∧
      found.sent.Perm (d.run remote now store).sent ∧
      ((∀ turn ∈ turns, turn.remote = remote ∧ turn.now = now) →
        SameEffects found (d.run remote now store)) := by
  unfold searchByTurns at hfound
  unfold Discovery.run
  cases hterm : Lookup.term d.term with
  | error e =>
    rw [hterm] at hfound
    obtain rfl := Option.some.inj hfound
    exact ⟨rfl, .refl _, fun _ => ⟨rfl, .refl _⟩⟩
  | ok t =>
    rw [hterm] at hfound
    obtain ⟨came, hcame, rfl⟩ := Option.map_eq_some_iff.1 hfound
    obtain ⟨outcomes, hended⟩ := exists_ended_of_flavorOutcomes? hcame
    rw [flavorOutcomes?_of_ended hended] at hcame
    obtain rfl := Option.some.inj hcame
    rw [outcomes_of_turns t hd (hsteady t) hended]
    refine ⟨rfl, sent_of_turns t hd (hsteady t) hended, fun hnow => ?_⟩
    have heffects := sameEffects_of_turns t hd hnow hended
    exact ⟨heffects.holds, heffects.sent⟩

lemma exists_answer_of_three_turns
    (hturns : ∀ i, 3 ≤ turns.countP fun turn => turn.lookup = i) :
    ∃ found, searchByTurns d store turns = some found := by
  unfold searchByTurns
  cases hterm : Lookup.term d.term with
  | error e => exact ⟨_, rfl⟩
  | ok t =>
    dsimp only
    obtain ⟨outcomes, hended⟩ := ended_of_three_turns (flavorQueries d t) store turns hturns
    exact ⟨_, by rw [flavorOutcomes?_of_ended hended, Option.map_some]⟩

end turns

end search

/-- A list of codes names no flavor twice. And for flavors without repetition, any order of their
lookups gives each flavor what it is given in the order of the list, with the same requests, the
same store and the same answer: one after another in another order, or step by step with the steps
of the others in between. Even if time passes meanwhile the answer and the requests are the same, as
long as nothing that the lookups find in the store goes stale. -/
theorem order_of_lookups_does_not_show :
    (∀ codes, (Flavor.ofList codes).Nodup) ∧
    ∀ (d : Discovery), d.flavors.Nodup → ∀ (remote : Remote) (now : Instant) (store : Store),
      let answer := d.run remote now store
      (∀ t order, order.Perm d.flavors →
        let listed := fetchFlavors remote now d t store d.flavors
        let run := fetchFlavors remote now d t store order
        SameEffects run listed ∧
        ∃ outcome : Flavor → Except Remote.Failure (List Candidate),
          run.outcome = order.map outcome ∧ listed.outcome = d.flavors.map outcome ∧
          (Lookup.term d.term = .ok t →
            answer.outcome = (d.conclude (d.flavors.map outcome)).mapError Failure.remote)) ∧
      ∀ turns : List (Turn d.flavors.length),
        ((∀ turn ∈ turns, turn.remote = remote ∧ turn.now = now) →
          (∀ t outcomes,
            let listed := fetchFlavors remote now d t store d.flavors
            let run := afterTurns (flavorQueries d t) store turns
            Ended run outcomes →
              flavorOutcomes d outcomes = listed.outcome ∧ SameEffects run listed) ∧
          ∀ found, searchByTurns d store turns = some found →
            found.outcome = answer.outcome ∧ SameEffects found answer) ∧
        ((∀ t, Steady remote now (flavorQueries d t) store turns) →
          ∀ found, searchByTurns d store turns = some found →
            found.outcome = answer.outcome ∧ found.sent.Perm answer.sent) ∧
        ((∀ i, 3 ≤ turns.countP fun turn => turn.lookup = i) →
          ∃ found, searchByTurns d store turns = some found) := by
  refine ⟨fun codes => nodup_firsts _, fun d hd remote now store => ⟨?_, fun turns => ?_⟩⟩
  · intro t order horder
    have hnodup : order.Nodup := horder.nodup_iff.2 hd
    refine ⟨?_, fun f => (fetchFlavor remote now d t store f).outcome, ?_, ?_, ?_⟩
    · exact (askedOf_fetchFlavors remote now d t store hnodup).sameEffects
        (askedOf_fetchFlavors remote now d t store hd)
        (fun q hq q' hq' => queryOf_eq_of_key_eq d t hq hq') (horder.map _)
    · exact outcome_fetchFlavors remote now d t store order
    · exact outcome_fetchFlavors remote now d t store d.flavors
    · intro hterm
      rw [← outcome_fetchFlavors remote now d t store d.flavors, Discovery.run, hterm]
  · refine ⟨fun hnow => ⟨fun t outcomes hended => ?_, fun found hfound => ?_⟩,
      fun hsteady found hfound => ?_, exists_answer_of_three_turns⟩
    · exact ⟨outcomes_of_turns t hd (steady_of_now t hnow) hended,
        sameEffects_of_turns t hd hnow hended⟩
    · have hanswer := answer_of_turns hd (fun t => steady_of_now t hnow) hfound
      exact ⟨hanswer.1, hanswer.2.2 hnow⟩
    · have hanswer := answer_of_turns hd hsteady hfound
      exact ⟨hanswer.1, hanswer.2.1⟩

/-- Two lookups read the store before either of them writes to it. -/
theorem order_of_lookups_does_not_show_when_crossed :
    let remote : Remote := fun r => some ⟨200,
      if r.query.contains ("ml", "lava") then "[[\"ash\"]]" else "[]"⟩
    let d : Discovery := ⟨"lava", none, 25, [.synonym, .meansLike], .failFast⟩
    let crossed (time : Fin 2 → Instant) : List (Turn d.flavors.length) :=
      [1, 0, 0, 1, 1, 0].map fun i => ⟨i, remote, time i⟩
    let atOnce := crossed fun _ => ⟨0⟩
    let meanwhile := crossed fun i => ⟨i.val⟩
    ∃ found later, (d.flavors.Nodup ∧ (∀ turn ∈ atOnce, turn.remote = remote ∧ turn.now = ⟨0⟩) ∧
        (∀ t, Steady remote ⟨0⟩ (flavorQueries d t) (.memory .empty) meanwhile) ∧
        (∀ i, 3 ≤ atOnce.countP fun turn => turn.lookup = i) ∧
        (∀ i, 3 ≤ meanwhile.countP fun turn => turn.lookup = i) ∧
        searchByTurns d (.memory .empty) atOnce = some found ∧
        searchByTurns d (.memory .empty) meanwhile = some later) ∧
      (found.outcome.toOption.map fun words => words.map Candidate.text) = some ["ash"] ∧
      later.outcome = found.outcome ∧
      SameEffects found (d.run remote ⟨0⟩ (.memory .empty)) := by
  intro remote d crossed atOnce meanwhile
  have hd : d.flavors.Nodup := by decide
  have hnow : ∀ turn ∈ atOnce, turn.remote = remote ∧ turn.now = ⟨0⟩ := by simp [atOnce, crossed]
  have hsteady (t : String) :
      Steady remote ⟨0⟩ (flavorQueries d t) (.memory .empty) meanwhile := by
    intro turn hturn
    obtain ⟨i, -, rfl⟩ := List.mem_map.1 hturn
    exact ⟨rfl, fun _ => rfl⟩
  have hturns : ∀ i, 3 ≤ atOnce.countP fun turn => turn.lookup = i := by decide
  have hlater : ∀ i, 3 ≤ meanwhile.countP fun turn => turn.lookup = i := by decide
  have horder := (order_of_lookups_does_not_show.2 d hd remote ⟨0⟩ (.memory .empty)).2
  obtain ⟨found, hfound⟩ := (horder atOnce).2.2 hturns
  obtain ⟨later, hlaterFound⟩ := (horder meanwhile).2.2 hlater
  obtain ⟨houtcome, heffects⟩ := ((horder atOnce).1 hnow).2 found hfound
  obtain ⟨hsame, -⟩ := (horder meanwhile).2.1 hsteady later hlaterFound
  refine ⟨found, later, ⟨hd, hnow, hsteady, hturns, hlater, hfound, hlaterFound⟩, ?_,
    hsame.trans houtcome.symm, heffects⟩
  rw [houtcome]
  decide +kernel

end PromptStudio.Proofs
