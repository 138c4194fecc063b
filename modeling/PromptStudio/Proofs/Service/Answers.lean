import PromptStudio.Proofs.Lookup.Failures
import PromptStudio.Proofs.Lookup.Policies
import PromptStudio.Proofs.Service.Egress

/-!
# What clients are told

A lookup that is admitted and accepted succeeds just if a fresh value is kept or one is brought. What
else a client is told is a failure, as an object with a code that goes with the status.
-/

namespace PromptStudio.Proofs
open Lookup Service

/-! ## Failures as answers -/

/-- The codes that a failure of this status may have. -/
def codesOf : Nat → List String
  | 400 => ["VALIDATION_ERROR"]
  | 404 => ["NOT_FOUND"]
  | 429 => ["RATE_LIMITED"]
  | 500 => ["DATABASE_ERROR", "INTERNAL_ERROR"]
  | 502 => ["UPSTREAM_ERROR"]
  | _ => []

/-- The response is an object that holds this code and a message. Just one for a client that is over
its budget also says when that is renewed. -/
structure TellsFailure (r : Http.Response) (code : String) : Prop where
  mediaType : r.mediaType = some "application/json"
  body : ∃ (message : String) (renewal : List (String × Json)),
    r.body = some (.obj [("error",
      .obj ([("code", .str code), ("message", .str message)] ++ renewal))]) ∧
    (r.status ≠ 429 ∧ renewal = [] ∨
      r.status = 429 ∧ ∃ t : Instant, renewal = [("reset_at", .str t.stamp)])

lemma code_mem_codesOf (f : Failure) : f.code ∈ codesOf f.status := by
  cases f <;> simp [codesOf, Failure.code, Failure.status]

lemma tellsFailure_ofFailure (f : Failure) : TellsFailure (.ofFailure f) f.code := by
  refine ⟨rfl, f.message, ?_⟩
  have hcode : "code" < "message" := by decide
  have hreset : "message" < "reset_at" := by decide
  cases f with
  | rateLimited resetAt =>
    refine ⟨_, ?_, Or.inr ⟨rfl, resetAt, rfl⟩⟩
    unfold Http.Response.ofFailure Http.Response.json Failure.body
    rw [record_of_sorted (List.pairwise_singleton _ _), record_of_sorted]
    refine List.pairwise_cons.2 ⟨?_, List.pairwise_pair.2 hreset⟩
    exact List.forall_mem_cons.2 ⟨hcode,
      List.forall_mem_singleton.2 (String.lt_trans hcode hreset)⟩
  | notFound | validation | remote | database | internal =>
    refine ⟨[], ?_, Or.inl ⟨?_, rfl⟩⟩
    · unfold Http.Response.ofFailure Http.Response.json Failure.body
      rw [record_of_sorted (List.pairwise_singleton _ _), record_of_sorted]
      exact List.pairwise_pair.2 hcode
    · simp [Http.Response.ofFailure, Http.Response.json, Failure.status]

/-- The visit fails with this status and a code that goes with it. The body says so too, unless only
the head is wanted. -/
structure Visit.FailsWith (v : Visit) (st : State) (status : Nat) (code : String) : Prop where
  status_eq : (v.serve st).response.status = status
  coded : code ∈ codesOf status
  told : v.request.method ≠ .head → TellsFailure (v.serve st).response code

lemma failsWith_of_failure {v : Visit} {st : State} {f : Failure}
    (h : (serveWhole v.around st v.request).response = .ofFailure f) :
    v.FailsWith st f.status f.code where
  status_eq := by
    rw [status_serve, h]
    rfl
  coded := code_mem_codesOf f
  told hmethod := by
    rw [serve_of_not_head hmethod, h]
    exact tellsFailure_ofFailure f

/-- The response is a success, or that to a failure. -/
def SucceedsOrFails (r : Http.Response) : Prop :=
  r.status = 200 ∨ r.status = 204 ∨ ∃ f, r = .ofFailure f

lemma succeedsOrFails_ofFailure (f : Failure) : SucceedsOrFails (.ofFailure f) :=
  Or.inr (Or.inr ⟨f, rfl⟩)

lemma succeedsOrFails_ifAdmitted {st : State} {p : Admission.Policy} {client : String}
    {now : Instant} {go : State → Admission.Verdict → Served}
    (hgo : ∀ st a, SucceedsOrFails (go st a).response) :
    SucceedsOrFails (st.ifAdmitted p client now go).response := by
  rcases ifAdmitted_cases st p client now go with ⟨-, heq⟩ | ⟨-, heq⟩
  · rw [heq]
    exact hgo _ _
  · rw [heq]
    exact succeedsOrFails_ofFailure _

lemma succeedsOrFails_lookUpAdmitted (around : Surroundings) (s : Source) (get : Parameters)
    (st : State) (a : Admission.Verdict) :
    SucceedsOrFails (lookUpAdmitted around s get st a).response := by
  unfold lookUpAdmitted
  dsimp only
  split
  · exact Or.inl rfl
  · exact succeedsOrFails_ofFailure _

lemma succeedsOrFails_perform (around : Surroundings) (st : State) (r : Http.Request)
    (action : Http.Action) : SucceedsOrFails (perform around st r action).response := by
  by_cases hlookup : ∃ s, action = .lookup s
  · obtain ⟨s, rfl⟩ := hlookup
    unfold perform lookUp
    dsimp only
    split
    · exact succeedsOrFails_ofFailure _
    · exact succeedsOrFails_ifAdmitted (succeedsOrFails_lookUpAdmitted around s _)
  · by_cases hsave : action = .saveProject
    · subst hsave
      unfold perform saveProject
      dsimp only
      split
      · exact succeedsOrFails_ofFailure _
      · exact succeedsOrFails_ifAdmitted fun st a => saveAdmitted_induction
          (P := fun served => SucceedsOrFails served.response) succeedsOrFails_ofFailure
          fun _ _ => Or.inl rfl
    · exact perform_induction (P := fun served => SucceedsOrFails served.response)
        (fun s heq => hlookup ⟨s, heq⟩) hsave succeedsOrFails_ofFailure (fun _ => Or.inl rfl)
        fun _ => Or.inr (Or.inl rfl)

/-! ## The answer to a lookup -/

section lookUp

variable {remote : Remote} {now : Instant} {store : Cache.Store}

/-- A fresh value is kept for the query, or one is brought by a reply of success. -/
def HasValue (remote : Remote) (now : Instant) (store : Cache.Store) (q : Query) : Prop :=
  (∃ value, store.get? q.key q.ttl now = some value) ∨
    ∃ reply value, remote q.request = some reply ∧ reply.isSuccess = true ∧
      Json.parse? reply.body = some value

lemma outcome_of_hasValue {q : Query} (h : HasValue remote now store q) :
    ∃ value, (q.fetch remote now store).outcome = .ok value := by
  rcases fetch_cases q remote now store with ⟨v, -, heq⟩ | ⟨v, -, heq⟩ | ⟨e, hask, heq⟩
  · exact ⟨v, by rw [heq]⟩
  · exact ⟨v, by rw [heq]⟩
  · rcases h with ⟨v, hfound⟩ | ⟨reply, v, hreply⟩
    · exact ⟨v, by rw [fetch_of_found remote now hfound]⟩
    · have hok : remote.ask q.request = .ok v := ask_eq_ok_iff.2 ⟨reply, hreply⟩
      cases hok.symm.trans hask

lemma outcome_of_not_hasValue {q : Query} (h : ¬ HasValue remote now store q) :
    ∃ e, remote.ask q.request = .error e ∧ (q.fetch remote now store).outcome = .error e := by
  rcases fetch_cases q remote now store with ⟨v, hfound, -⟩ | ⟨v, hask, -⟩ | ⟨e, hask, heq⟩
  · exact absurd (Or.inl ⟨v, hfound⟩) h
  · obtain ⟨reply, hreply⟩ := ask_eq_ok_iff.1 hask
    exact absurd (Or.inr ⟨reply, v, hreply⟩) h
  · exact ⟨e, hask, by rw [heq]⟩

lemma status?_of_ask_error {r : Remote.Request} {e : Remote.Failure}
    (h : remote.ask r = .error e) :
    e.status? = some 404 ↔ ∃ reply, remote r = some reply ∧ reply.status = 404 := by
  unfold Remote.ask Remote.Reply.value Remote.Reply.json at h
  cases hreply : remote r with
  | none =>
    rw [hreply] at h
    cases h
    simp [Remote.Failure.status?]
  | some reply =>
    simp only [hreply] at h
    split at h
    case isTrue hsuccess =>
      split at h
      · cases h
      · cases h
        have hstatus : reply.status ≠ 404 := by
          intro hstatus
          simp [Remote.Reply.isSuccess, hstatus] at hsuccess
        simp [Remote.Failure.status?, hstatus]
    case isFalse =>
      cases h
      simp [Remote.Failure.status?]

lemma isSome_entry?_iff {s : Source} {get : Parameters} {subject : Subject}
    (h : s.read get = .ok (.subject subject)) :
    subject.entry?.isSome ↔ s = .dictionary ∨ s = .wikipedia ∧ mode get = "summary" := by
  cases readsSubject h with
  | word => simp [Subject.entry?]
  | pages hmode => simp [Subject.entry?, hmode]
  | summary hmode => simp [Subject.entry?, hmode]
  | entities => simp [Subject.entry?]
  | attributes => simp [Subject.entry?]
  | relations => simp [Subject.entry?]

lemma outcome_subject_of_hasValue {subject : Subject}
    (h : HasValue remote now store subject.query) :
    ∃ members, (subject.lookUp remote now store).outcome = .ok members := by
  obtain ⟨value, houtcome⟩ := outcome_of_hasValue h
  unfold Subject.lookUp
  dsimp only
  rw [houtcome]
  exact ⟨_, rfl⟩

lemma outcome_subject_of_not_hasValue {subject : Subject}
    (h : ¬ HasValue remote now store subject.query) :
    ∃ f, (subject.lookUp remote now store).outcome = .error f ∧
      ((∃ reply, remote subject.request = some reply ∧ reply.status = 404) ∧
        subject.entry?.isSome → ∃ message, f = .notFound message) ∧
      (¬ ((∃ reply, remote subject.request = some reply ∧ reply.status = 404) ∧
        subject.entry?.isSome) → ∃ e, f = .remote e) := by
  obtain ⟨e, hask, houtcome⟩ := outcome_of_not_hasValue h
  refine ⟨subject.failure e, ?_, ?_⟩
  · unfold Subject.lookUp
    dsimp only
    rw [houtcome]
  · rw [← status?_of_ask_error (show remote.ask subject.request = .error e from hask)]
    unfold Subject.failure
    split
    case h_1 name hentry hstatus =>
      exact ⟨fun _ => ⟨_, rfl⟩, fun hnot => absurd ⟨hstatus, by rw [hentry]; rfl⟩ hnot⟩
    case h_2 hother =>
      refine ⟨fun ⟨hstatus, hentry⟩ => ?_, fun _ => ⟨e, rfl⟩⟩
      obtain ⟨name, hname⟩ := Option.isSome_iff_exists.1 hentry
      exact absurd hstatus (hother name hname)

def FlavorFails (remote : Remote) (now : Instant) (store : Cache.Store) (d : Discovery)
    (t : String) : Prop :=
  ∃ f ∈ d.flavors, ∃ e, (fetchFlavor remote now d t store f).outcome = .error e

/-- A search for words fails just if some flavor does and the policy passes that on. -/
lemma outcome_discovery_cases {d : Discovery} {t : String} (hterm : term d.term = .ok t) :
    ((∃ members, (d.lookUp remote now store).outcome = .ok members) ∧
      ¬ (d.policy = .failFast ∧ FlavorFails remote now store d t)) ∨
    (∃ e, (d.lookUp remote now store).outcome = .error (.remote e)) ∧
      d.policy = .failFast ∧ FlavorFails remote now store d t := by
  have hfailed (e : Remote.Failure) :
      .error e ∈ (fetchFlavors remote now d t store d.flavors).outcome ↔
        ∃ f ∈ d.flavors, (fetchFlavor remote now d t store f).outcome = .error e := by
    rw [outcome_fetchFlavors]
    exact List.mem_map
  unfold Discovery.lookUp
  rw [run_of_term hterm]
  dsimp only
  rcases conclude_cases d (fetchFlavors remote now d t store d.flavors).outcome with
    ⟨hok, hnone⟩ | ⟨hpolicy, e, he, herror⟩
  · rw [hok]
    refine Or.inl ⟨⟨_, rfl⟩, ?_⟩
    rintro ⟨hpolicy, f, hf, e, hfails⟩
    exact hnone hpolicy e ((hfailed e).2 ⟨f, hf, hfails⟩)
  · rw [herror]
    obtain ⟨f, hf, hfails⟩ := (hfailed e).1 he
    exact Or.inr ⟨⟨e, rfl⟩, hpolicy, f, hf, e, hfails⟩

end lookUp

section serve

variable {v : Visit} {st : State} {s : Source} {get : Parameters}

/-- The request is a lookup with these parameters, and it is admitted. -/
structure Visit.Admitted (v : Visit) (st : State) (s : Source) (get : Parameters) : Prop where
  action : v.action? = some (.lookup s)
  parameters : ∃ fields,
    Http.Form.fields? s.parameters (Http.Form.decode v.request.query) = some fields ∧
      get = fun name => fields.lookup name
  allowed : (v.charge st s.policy).2.allowed = true

lemma serveWhole_of_admitted (h : v.Admitted st s get) :
    serveWhole v.around st v.request =
      lookUpAdmitted v.around s get { st with ledger := (v.charge st s.policy).1 }
        (v.charge st s.policy).2 := by
  obtain ⟨haction, ⟨fields, hfields, rfl⟩, hallowed⟩ := h
  rw [serveWhole_of_action haction]
  unfold perform lookUp
  dsimp only
  rw [hfields]
  dsimp only
  rcases ifAdmitted_cases st s.policy v.request.headers.client v.around.now
    (lookUpAdmitted v.around s fun name => fields.lookup name) with ⟨-, heq⟩ | ⟨hdenied, -⟩
  · exact heq
  · exact absurd (hallowed.symm.trans hdenied) (by decide)

lemma serveWhole_of_looksUp (h : v.LooksUp st s get) :
    serveWhole v.around st v.request =
      lookUpAdmitted v.around s get { st with ledger := (v.charge st s.policy).1 }
        (v.charge st s.policy).2 :=
  serveWhole_of_admitted ⟨h.action, h.parameters, h.admitted⟩

lemma status_of_looksUp (h : v.LooksUp st s get) {members : Members}
    (hok : (s.lookUp get v.around.remote v.around.now st.cache).outcome = .ok members) :
    (v.serve st).response.status = 200 := by
  rw [status_serve, serveWhole_of_looksUp h]
  unfold lookUpAdmitted
  dsimp only
  rw [hok]
  rfl

lemma failsWith_of_looksUp (h : v.LooksUp st s get) {f : Failure}
    (herror : (s.lookUp get v.around.remote v.around.now st.cache).outcome = .error f) :
    v.FailsWith st f.status f.code := by
  apply failsWith_of_failure
  rw [serveWhole_of_looksUp h]
  unfold lookUpAdmitted
  dsimp only
  rw [herror]

/-- A lookup that is admitted and accepted, but for a search for words, succeeds just if a value is
kept or brought. A reply with status 404 says that there is no entry, if only one can be asked for;
whatever else keeps the value away is the failure of the other service. -/
lemma answer_of_subject (h : v.LooksUp st s get) (hs : s ≠ .discover) :
    ∃ subject, s.read get = .ok (.subject subject) ∧
      let found := HasValue v.around.remote v.around.now st.cache subject.query
      let absent := (∃ reply, v.around.remote subject.request = some reply ∧ reply.status = 404) ∧
        (s = .dictionary ∨ s = .wikipedia ∧ mode get = "summary")
      (found → (v.serve st).response.status = 200) ∧
      (¬ found → absent → v.FailsWith st 404 "NOT_FOUND") ∧
      (¬ found → ¬ absent → v.FailsWith st 502 "UPSTREAM_ERROR") := by
  obtain ⟨q, hread, -⟩ := h.accepted
  obtain ⟨subject, rfl⟩ := read_subject hs hread
  have hlookup : (s.lookUp get v.around.remote v.around.now st.cache).outcome =
      (subject.lookUp v.around.remote v.around.now st.cache).outcome := by
    unfold Source.lookUp
    rw [hread]
    rfl
  refine ⟨subject, hread, fun hfound => ?_, fun hlost habsent => ?_, fun hlost habsent => ?_⟩
  · obtain ⟨members, hok⟩ := outcome_subject_of_hasValue hfound
    exact status_of_looksUp h (hlookup.trans hok)
  · obtain ⟨f, herror, hnotFound, -⟩ := outcome_subject_of_not_hasValue hlost
    rw [← isSome_entry?_iff hread] at habsent
    obtain ⟨message, rfl⟩ := hnotFound habsent
    exact failsWith_of_looksUp h (hlookup.trans herror)
  · obtain ⟨f, herror, -, hremote⟩ := outcome_subject_of_not_hasValue hlost
    rw [← isSome_entry?_iff hread] at habsent
    obtain ⟨e, rfl⟩ := hremote habsent
    exact failsWith_of_looksUp h (hlookup.trans herror)

lemma answer_of_discovery (h : v.LooksUp st .discover get) :
    ∃ d t, Discovery.ofParameters get = .ok d ∧ term d.term = .ok t ∧
      let failed := (get "policy").map Text.trim = some "fail_fast" ∧
        FlavorFails v.around.remote v.around.now st.cache d t
      (failed → v.FailsWith st 502 "UPSTREAM_ERROR") ∧
      (¬ failed → (v.serve st).response.status = 200) := by
  obtain ⟨q, hread, hterm⟩ := h.accepted
  obtain ⟨d, hd, rfl⟩ := exists_of_map hread
  obtain ⟨t, ht⟩ := hterm d rfl
  have hpolicy : d.policy = .failFast ↔ (get "policy").map Text.trim = some "fail_fast" := by
    rw [← ofParameter_eq_failFast_iff, (eq_of_discovery hd).2.2.2.2, Except.ok.injEq]
  have hlookup : (Source.discover.lookUp get v.around.remote v.around.now st.cache).outcome =
      (d.lookUp v.around.remote v.around.now st.cache).outcome := by
    unfold Source.lookUp
    rw [hread]
    rfl
  refine ⟨d, t, hd, ht, ?_⟩
  rw [← hpolicy]
  rcases outcome_discovery_cases ht with ⟨⟨members, hok⟩, hnot⟩ | ⟨⟨e, herror⟩, hfailed⟩
  · exact ⟨fun hfailed => absurd hfailed hnot, fun _ => status_of_looksUp h (hlookup.trans hok)⟩
  · exact ⟨fun _ => failsWith_of_looksUp h (hlookup.trans herror),
      fun hnot => absurd hfailed hnot⟩

/-- A lookup that is admitted and accepted succeeds just if a fresh value is kept or one is brought.
If the other service says that the only entry there may be is missing, so is the client told; all
else is the failure of the other service. A search for words fails only if it is to fail with the
first flavor, and one does. Whatever is asked for, the answer is a success or an object that says
why there is none. -/
theorem lookups_fail_with_their_service (v : Visit) (st : State) :
    let status := (v.serve st).response.status
    (∀ s get, v.LooksUp st s get → s ≠ .discover →
      ∃ subject, s.read get = .ok (.subject subject) ∧
        let found := HasValue v.around.remote v.around.now st.cache subject.query
        let absent :=
          (∃ reply, v.around.remote subject.request = some reply ∧ reply.status = 404) ∧
            (s = .dictionary ∨ s = .wikipedia ∧ mode get = "summary")
        (found → status = 200) ∧
        (¬ found → absent → v.FailsWith st 404 "NOT_FOUND") ∧
        (¬ found → ¬ absent → v.FailsWith st 502 "UPSTREAM_ERROR")) ∧
    (∀ get, v.LooksUp st .discover get →
      ∃ d t, Discovery.ofParameters get = .ok d ∧ term d.term = .ok t ∧
        let failed := (get "policy").map Text.trim = some "fail_fast" ∧
          FlavorFails v.around.remote v.around.now st.cache d t
        (failed → v.FailsWith st 502 "UPSTREAM_ERROR") ∧ (¬ failed → status = 200)) ∧
    ∀ action, v.action? = some action →
      status = 200 ∨ status = 204 ∨ ∃ code, v.FailsWith st status code := by
  intro status
  refine ⟨fun s get h hs => answer_of_subject h hs, fun get h => answer_of_discovery h, ?_⟩
  intro action haction
  have hwhole := succeedsOrFails_perform v.around st v.request action
  have hstatus : status = (serveWhole v.around st v.request).response.status := status_serve v st
  rw [← serveWhole_of_action haction] at hwhole
  rcases hwhole with hok | hempty | ⟨f, hf⟩
  · exact Or.inl (hstatus.trans hok)
  · exact Or.inr (Or.inl (hstatus.trans hempty))
  · have hfails := failsWith_of_failure hf
    have hsame : status = f.status := hfails.status_eq
    rw [hsame]
    exact Or.inr (Or.inr ⟨f.code, hfails⟩)

end serve

/-- With status 404 the summary of a page is missing, while a search for pages has failed. A document
without a type is rejected. -/
theorem lookups_fail_with_their_service_with_status_404 :
    let st : State := ⟨.empty, .failing, none⟩
    let around : Surroundings := ⟨⟨0⟩, fun _ => some ⟨404, "[]"⟩, ⟨9⟩, false⟩
    let summary : Visit :=
      ⟨around, ⟨.get, "/api/v1/lookup/wikipedia?mode=summary&title=+Etna", [], ""⟩⟩
    let search : Visit := ⟨around, ⟨.get, "/api/v1/lookup/wikipedia?q=Etna&mode=", [], ""⟩⟩
    let untyped : Visit := ⟨around, ⟨.post, "/api/v1/studio/compile", [], "[]"⟩⟩
    summary.FailsWith st 404 "NOT_FOUND" ∧ search.FailsWith st 502 "UPSTREAM_ERROR" ∧
    ∃ code, untyped.FailsWith st 400 code := by
  intro st around summary search untyped
  have hlost (q : Query) : ¬ HasValue around.remote around.now st.cache q := by
    rintro (⟨value, hfound⟩ | ⟨reply, value, hreply, hsuccess, -⟩)
    · cases hfound
    · cases hreply
      cases hsuccess
  let title : Parameters := fun name => [("mode", "summary"), ("title", " Etna")].lookup name
  have htitle : Subject.ofWikipedia title = .ok (.summary "Etna") := by decide +kernel
  have hsummary : summary.LooksUp st .wikipedia title :=
    ⟨by decide +kernel, ⟨_, by decide +kernel, rfl⟩, by decide +kernel,
      .subject (.summary "Etna"), congrArg (Except.map Question.subject) htitle, nofun⟩
  let text : Parameters := fun name => [("q", "Etna"), ("mode", "")].lookup name
  have htext : Subject.ofWikipedia text = .ok (.pages "Etna") := by decide +kernel
  have hsearch : search.LooksUp st .wikipedia text :=
    ⟨by decide +kernel, ⟨_, by decide +kernel, rfl⟩, by decide +kernel,
      .subject (.pages "Etna"), congrArg (Except.map Question.subject) htext, nofun⟩
  have hrejected : (untyped.serve st).response.status = 400 := by decide +kernel
  refine ⟨?_, ?_, ?_⟩
  · obtain ⟨subject, -, -, habsent, -⟩ :=
      (lookups_fail_with_their_service summary st).1 _ _ hsummary (by decide)
    exact habsent (hlost _) ⟨⟨_, rfl, rfl⟩, Or.inr ⟨rfl, by decide +kernel⟩⟩
  · obtain ⟨subject, -, -, -, hfailed⟩ :=
      (lookups_fail_with_their_service search st).1 _ _ hsearch (by decide)
    refine hfailed (hlost _) fun habsent => ?_
    rcases habsent.2 with hsource | ⟨-, hmode⟩
    · cases hsource
    · revert hmode
      decide +kernel
  · have haction : untyped.action? = some .compile := by decide +kernel
    have hanswer := (lookups_fail_with_their_service untyped st).2.2 _ haction
    rw [hrejected] at hanswer
    rcases hanswer with hok | hempty | hfails
    · cases hok
    · cases hempty
    · exact hfails

end PromptStudio.Proofs
