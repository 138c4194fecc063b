import PromptStudio.Proofs.Lookup.Keys
import PromptStudio.Proofs.Lookup.Origin
import PromptStudio.Proofs.Lookup.Parameters
import PromptStudio.Proofs.Service.Run

/-!
# The same service over different stores

As long as the other services do not change their minds, a store holds under the key of a subject
only what the request of the subject would bring. So which store is used, or none at all, shows in
the requests that are sent and not in the responses.
-/

namespace PromptStudio.Proofs
open Cache Lookup Service

/-- Nothing is held under the key of a subject but the text of what its request brings. -/
def Faithful (remote : Remote) (store : Store) : Prop :=
  ∃ c : Contents, HoldsAtMost store c ∧
    ∀ (s : Subject) (e : Entry), c s.key = some e →
      ∃ v, remote.ask s.request = .ok v ∧ e.value = v.print

lemma faithful_of_nothing {store : Store} (remote : Remote) (h : HoldsAtMost store fun _ => none) :
    Faithful remote store :=
  ⟨fun _ => none, h, fun _ _ hentry => by cases hentry⟩

section Faithful

variable {remote : Remote} {store : Store} {now : Instant}

lemma Faithful.ask_of_get? (h : Faithful remote store) {s : Subject} {ttl : Int} {v : Json}
    (hget : store.get? s.key ttl now = some v) : remote.ask s.request = .ok v := by
  obtain ⟨c, hholds, hasked⟩ := h
  obtain ⟨e, hentry, -, hparse⟩ := freshValue_eq_some_iff.1 (hholds.get? hget)
  obtain ⟨w, hask, htext⟩ := hasked s e hentry
  -- The text is that of a value which came as text itself, so it is read as that value.
  rw [htext, parse?_print_of_ask hask] at hparse
  rw [hask, Option.some.inj hparse]

lemma Faithful.set (h : Faithful remote store) {s : Subject} {v : Json}
    (hask : remote.ask s.request = .ok v) (now : Instant) :
    Faithful remote (store.set s.key v now) := by
  obtain ⟨c, hholds, hasked⟩ := h
  refine ⟨c.put s.key ⟨v.print, now⟩, hholds.set s.key v now, fun s' e hentry => ?_⟩
  by_cases hkey : s.key = s'.key
  · obtain rfl := subject_key_injective hkey
    rw [Contents.put_self] at hentry
    exact ⟨v, hask, congrArg Entry.value (Option.some.inj hentry).symm⟩
  · rw [Contents.put_of_ne c hkey] at hentry
    exact hasked s' e hentry

/-- One query: it comes out as its request does, and leaves the store faithful. -/
theorem Faithful.fetch (h : Faithful remote store) (s : Subject) (now : Instant) :
    (s.query.fetch remote now store).outcome = remote.ask s.request ∧
    Faithful remote (s.query.fetch remote now store).store := by
  rcases fetch_cases s.query remote now store with ⟨v, hget, heq⟩ | ⟨v, hask, heq⟩ | ⟨e, hask, heq⟩
  · rw [heq]
    exact ⟨(h.ask_of_get? hget).symm, h⟩
  · rw [heq]
    exact ⟨hask.symm, h.set hask now⟩
  · rw [heq]
    exact ⟨hask.symm, h⟩

end Faithful

section lookUp

variable {remote : Remote} {source : Source} {store store' : Store}

/-- One lookup: its members do not tell two faithful stores apart. -/
theorem Faithful.outcome_lookUp (h : Faithful remote store) (h' : Faithful remote store')
    (hsource : source ≠ .discover) (get : Parameters) (now : Instant) :
    (source.lookUp get remote now store).outcome =
      (source.lookUp get remote now store').outcome := by
  unfold Source.lookUp
  cases hread : source.read get with
  | error r => rfl
  | ok q =>
    obtain ⟨s, rfl⟩ := read_subject hsource hread
    dsimp only [Question.lookUp, Subject.lookUp]
    rw [(h.fetch s now).1, (h'.fetch s now).1]

theorem Faithful.lookUp (h : Faithful remote store) (hsource : source ≠ .discover)
    (get : Parameters) (now : Instant) :
    Faithful remote (source.lookUp get remote now store).store := by
  unfold Source.lookUp
  cases hread : source.read get with
  | error r => exact h
  | ok q =>
    obtain ⟨s, rfl⟩ := read_subject hsource hread
    exact (h.fetch s now).2

end lookUp

/-! ## Runs of requests -/

/-- The responses to a run, in order. -/
def responses (st : State) : List Visit → List Http.Response
  | [] => []
  | v :: visits => (v.serve st).response :: responses (v.serve st).state visits

/-- A request on a path of one of the sources that are asked about one subject. -/
def Visit.IsSubjectLookup (v : Visit) : Prop :=
  ∃ source, source ≠ .discover ∧ Http.Endpoint.ofPath? v.request.path = some (.lookup source)

/-- Two states that have counted the same requests, over stores that are faithful. -/
structure Alike (remote : Remote) (st st' : State) : Prop where
  ledger : st.ledger = st'.ledger
  left : Faithful remote st.cache
  right : Faithful remote st'.cache

section Alike

variable {st st' : State} {around : Surroundings} {source : Source}

lemma Alike.lookUpAdmitted (h : Alike around.remote st st') (hsource : source ≠ .discover)
    (get : Parameters) (a : Admission.Verdict) :
    (lookUpAdmitted around source get st a).response =
      (lookUpAdmitted around source get st' a).response ∧
    Alike around.remote (lookUpAdmitted around source get st a).state
      (lookUpAdmitted around source get st' a).state := by
  unfold Service.lookUpAdmitted
  dsimp only
  rw [h.left.outcome_lookUp h.right hsource get around.now]
  exact ⟨rfl, h.ledger, h.left.lookUp hsource get around.now, h.right.lookUp hsource get around.now⟩

lemma Alike.lookUp (h : Alike around.remote st st') (hsource : source ≠ .discover)
    (r : Http.Request) :
    (lookUp around st source r).response = (lookUp around st' source r).response ∧
    Alike around.remote (lookUp around st source r).state (lookUp around st' source r).state := by
  unfold Service.lookUp State.ifAdmitted
  cases Http.Form.fields? source.parameters (Http.Form.decode r.query) with
  | none => exact ⟨rfl, h⟩
  | some fields =>
    dsimp only
    rw [← h.ledger]
    -- Both states count the request alike, and the stores are not touched by that.
    have hcounted (ledger : Admission.Ledger) :
        Alike around.remote { st with ledger } { st' with ledger } :=
      ⟨rfl, h.left, h.right⟩
    split
    · exact (hcounted _).lookUpAdmitted hsource _ _
    · exact ⟨rfl, hcounted _⟩

lemma action?_lookup (source : Source) (m : Http.Method) :
    (Http.Endpoint.lookup source).action? m = none ∨
      (Http.Endpoint.lookup source).action? m = some (.lookup source) := by
  cases m with
  | get => exact Or.inr rfl
  | head => exact Or.inr rfl
  | post => exact Or.inl rfl
  | delete => exact Or.inl rfl
  | other name => exact Or.inl rfl

/-- One request. -/
theorem Alike.serve {v : Visit} (h : Alike v.around.remote st st') (hv : v.IsSubjectLookup) :
    (v.serve st).response = (v.serve st').response ∧
    Alike v.around.remote (v.serve st).state (v.serve st').state := by
  obtain ⟨source, hsource, hpath⟩ := hv
  have hwhole : (serveWhole v.around st v.request).response =
        (serveWhole v.around st' v.request).response ∧
      Alike v.around.remote (serveWhole v.around st v.request).state
        (serveWhole v.around st' v.request).state := by
    unfold serveWhole
    rw [hpath]
    dsimp only
    rcases action?_lookup source v.request.method with haction | haction
    · rw [haction]
      exact ⟨rfl, h⟩
    · rw [haction]
      exact h.lookUp hsource v.request
  rw [state_serve, state_serve]
  exact ⟨response_serve_congr hwhole.1, hwhole.2⟩

end Alike

/-- A whole run. -/
theorem Alike.responses_eq {remote : Remote} {st st' : State} (h : Alike remote st st')
    {visits : List Visit} (hvisits : ∀ v ∈ visits, v.around.remote = remote ∧ v.IsSubjectLookup) :
    responses st visits = responses st' visits := by
  induction visits generalizing st st' with
  | nil => rfl
  | cons v visits ih =>
    obtain ⟨rfl, hv⟩ := hvisits v List.mem_cons_self
    obtain ⟨hresponse, halike⟩ := h.serve hv
    rw [responses, responses, hresponse,
      ih halike fun v' hv' => hvisits v' (List.mem_cons_of_mem v hv')]

/-- Lookups of subjects are answered alike over an empty memory, an empty server and a store that
fails every call, whoever asks, whenever and in whatever order. No two subjects with different
requests share a key. -/
theorem responses_same_over_every_store (remote : Remote) (ledger : Admission.Ledger)
    (shelf : Option Project.Shelf) (visits : List Visit)
    (hvisits : ∀ v ∈ visits, v.around.remote = remote ∧ v.IsSubjectLookup) :
    responses ⟨ledger, .memory .empty, shelf⟩ visits =
      responses ⟨ledger, .failing, shelf⟩ visits ∧
    responses ⟨ledger, .hashes .empty, shelf⟩ visits =
      responses ⟨ledger, .failing, shelf⟩ visits ∧
    ∀ s s' : Subject, s.request ≠ s'.request → s.key ≠ s'.key := by
  have hfailing := faithful_of_nothing remote (holdsAtMost_failing fun _ => none)
  have hsame {store : Store} (h : HoldsAtMost store fun _ => none) :
      responses ⟨ledger, store, shelf⟩ visits = responses ⟨ledger, .failing, shelf⟩ visits := by
    have halike : Alike remote ⟨ledger, store, shelf⟩ ⟨ledger, .failing, shelf⟩ :=
      ⟨rfl, faithful_of_nothing remote h, hfailing⟩
    exact halike.responses_eq hvisits
  refine ⟨hsame holds_memory_empty.atMost, hsame holds_hashes_empty.atMost, ?_⟩
  intro s s' hrequest hkey
  exact hrequest (congrArg Subject.request (subject_key_injective hkey))

/-- The second of two visitors is answered from memory as the first was, and the third, who asks
for a page, is told of the failure. -/
theorem responses_same_over_every_store_with_hit :
    let remote : Remote := fun r => if r = (Subject.word "lava").request then
      some ⟨200, "[\"rock\"]"⟩ else none
    let visit (now : Int) (target : String) : Visit :=
      ⟨⟨⟨now⟩, remote, ⟨0⟩, false⟩, ⟨.get, target, [], ""⟩⟩
    let visits := [visit 0 "/api/v1/lookup/dictionary?word=lava",
      visit 5 "/api/v1/lookup/dictionary?word=+lava", visit 9 "/api/v1/lookup/wikipedia?q=lava"]
    let st : State := ⟨.empty, .memory .empty, none⟩
    ((∀ v ∈ visits, v.around.remote = remote ∧ v.IsSubjectLookup) ∧
      (visits[1].serve (afterVisits st (visits.take 1))).sent = [] ∧
      (responses st visits).map Http.Response.status = [200, 200, 502]) ∧
    responses st visits = responses ⟨.empty, .failing, none⟩ visits := by
  intro remote visit visits st
  have hvisits : ∀ v ∈ visits, v.around.remote = remote ∧ v.IsSubjectLookup := by
    intro v hv
    simp only [visits, List.mem_cons, List.not_mem_nil, or_false] at hv
    rcases hv with rfl | rfl | rfl
    · exact ⟨rfl, .dictionary, by decide, by decide⟩
    · exact ⟨rfl, .dictionary, by decide, by decide⟩
    · exact ⟨rfl, .wikipedia, by decide, by decide⟩
  have hhit : (visits[1].serve (afterVisits st (visits.take 1))).sent = [] := by decide +kernel
  have hstatus : (responses st visits).map Http.Response.status = [200, 200, 502] := by
    decide +kernel
  exact ⟨⟨hvisits, hhit, hstatus⟩,
    (responses_same_over_every_store remote .empty none visits hvisits).1⟩

end PromptStudio.Proofs
