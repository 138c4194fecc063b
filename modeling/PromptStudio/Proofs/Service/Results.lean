import PromptStudio.Proofs.Lookup.Counts
import PromptStudio.Proofs.Service.Repeats

/-!
# How many results a lookup brings

A search for words and a lookup of relations are asked for a number of results. If the parameter is
none or a number, others are asked for as many as it says, within bounds; if it is anything else, the
lookup is rejected and nobody is asked.
-/

namespace PromptStudio.Proofs
open Lookup Service

/-- The parameter that says how many results are wanted. -/
def countName? : Source → Option String
  | .discover => some "max"
  | .conceptnet => some "limit"
  | .dictionary | .wikipedia | .wikidata => none

/-- What is asked for so many results, one query for each flavor of a search. -/
def countedQueries (get : Parameters) (t : String) (n : Nat) : Source → List Query
  | .discover => (Flavor.ofParameter (get "flavors")).map fun f =>
      flavorQuery f (topics (get "topics")) t n
  | .conceptnet => [(Subject.relations t n).query]
  | .dictionary | .wikipedia | .wikidata => []

/-- The policy on failures is left open, or it is one of the two that there are. -/
def NamesPolicy (get : Parameters) : Prop :=
  ((get "policy").bind Text.nonBlank?).getD "isolate" ∈ ["isolate", "fail_fast"]

/-- The lookup is rejected because a parameter is no number. Nobody is asked, and nothing but the
ledger is changed. -/
structure Visit.RejectsCount (v : Visit) (st : State) (name : String) : Prop where
  status : (v.serve st).response.status = 400
  message : bodyAt? (serveWhole v.around st v.request).response ["error", "message"] =
    some (.str (name ++ " must be a whole number"))
  silent : (v.serve st).sent = []
  state : (v.serve st).state = { st with ledger := (v.serve st).state.ledger }

/-- The lookup goes on with this number of results: others are asked for so many where nothing fresh
is kept for so many, and no more words are shown. -/
structure Visit.Counts (v : Visit) (st : State) (s : Source) (get : Parameters) (name t : String)
    (n : Nat) : Prop where
  accepted : (v.serve st).response.status ≠ 400
  asked : (v.serve st).sent.Perm
    (((countedQueries get t n s).filter (missing v.around.now st.cache)).map Query.request)
  told : ∀ r ∈ (v.serve st).sent, (name, Text.Numeral.ofNat n) ∈ r.query
  shown : s = .discover → ∀ items,
    bodyAt? (serveWhole v.around st v.request).response ["items"] = some (.arr items) →
      items.length ≤ n

lemma bodyAt?_rejection (e : Rejection) :
    bodyAt? (.ofRejection e) ["error", "message"] = some (.str e.message) := by
  have herror (v : Json) : (Json.record [("error", v)]).get? "error" = some v :=
    (get?_record_concat [] "error" "error" v).trans (if_pos rfl)
  have hmessage := get?_record_concat [("code", .str "VALIDATION_ERROR")] "message" "message"
    (.str e.message)
  rw [if_pos rfl] at hmessage
  simpa [bodyAt?, Http.Response.ofRejection, Http.Response.ofFailure, Http.Response.json,
    Rejection.failure, Failure.body, Failure.code, Failure.message, herror] using hmessage

lemma bodyAt?_failure_of_ne (f : Failure) {name : String} (h : name ≠ "error") :
    bodyAt? (.ofFailure f) [name] = none := by
  have hget (v : Json) : (Json.record [("error", v)]).get? name = none := by
    rw [← List.nil_append [("error", v)], get?_record_concat, if_neg h]
    rfl
  simp [bodyAt?, Http.Response.ofFailure, Http.Response.json, Failure.body, hget]

lemma message_ne_of_unknownPolicy (code : String) :
    (Rejection.unknownPolicy code).message ≠ "max" ++ " must be a whole number" := by
  intro h
  unfold Rejection.message at h
  have hfirst := congrArg (fun text => text.toList.head?) h
  simp only [String.toList_append, String.reduceToList, List.cons_append,
    List.head?_cons, Option.some.injEq, Char.reduceEq] at hfirst

section count

variable {s : Source} {get : Parameters} {name t : String}

/-- A parameter that is no number is what the lookup is rejected for, if the term is fine. -/
lemma read_of_no_count (hname : countName? s = some name)
    (hterm : term ((get "term").getD "") = .ok t) (hcount : ∀ n, ¬ AsksFor (get name) n) :
    s.read get = .error (.notWhole name) := by
  have herror : count name (get name) = .error (.notWhole name) := by
    cases hread : count name (get name) with
    | ok n => exact absurd (count_eq_ok_iff.1 hread) (hcount n)
    | error e => rw [count_eq_error hread]
  cases s with
  | discover =>
    cases hname
    unfold Source.read Discovery.ofParameters
    rw [herror]
    rfl
  | conceptnet =>
    cases hname
    unfold Source.read Subject.ofConceptnet
    rw [hterm, herror]
    rfl
  | dictionary | wikipedia | wikidata => cases hname

lemma ofParameter_of_namesPolicy (h : NamesPolicy get) :
    ∃ p, FailurePolicy.ofParameter (get "policy") = .ok p := by
  rw [ofParameter_eq_ofCode?]
  unfold NamesPolicy at h
  rw [List.mem_cons, List.mem_singleton] at h
  rcases h with h | h
  · rw [h]
    exact ⟨.isolate, rfl⟩
  · rw [h]
    exact ⟨.failFast, rfl⟩

lemma ofParameter_of_not_namesPolicy (h : ¬ NamesPolicy get) :
    ∃ code, FailurePolicy.ofParameter (get "policy") = .error (.unknownPolicy code) := by
  rw [ofParameter_eq_ofCode?]
  unfold NamesPolicy at h
  rw [List.mem_cons, List.mem_singleton, not_or] at h
  refine ⟨((get "policy").bind Text.nonBlank?).getD "isolate", ?_⟩
  unfold FailurePolicy.ofCode?
  rw [if_neg h.1, if_neg h.2]

/-- The search for so many words that the other parameters ask for. -/
def searchFor (get : Parameters) (n : Nat) (p : FailurePolicy) : Discovery :=
  ⟨(get "term").getD "", topics (get "topics"), n, Flavor.ofParameter (get "flavors"), p⟩

lemma queries_searchFor (get : Parameters) (t : String) (n : Nat) (p : FailurePolicy) :
    (searchFor get n p).flavors.map (queryOf (searchFor get n p) t) =
      countedQueries get t n .discover := by
  refine List.map_congr_left fun f _ => ?_
  rw [queryOf, searchFor, topics_topics]

lemma ofParameters_of_count {n : Nat} (hcount : AsksFor (get "max") n) (hpolicy : NamesPolicy get) :
    ∃ p, Discovery.ofParameters get = .ok (searchFor get n p) := by
  obtain ⟨p, hp⟩ := ofParameter_of_namesPolicy hpolicy
  refine ⟨p, ?_⟩
  unfold Discovery.ofParameters
  rw [count_eq_ok_iff.2 hcount, hp]
  rfl

lemma read_relations {n : Nat} (hterm : term ((get "term").getD "") = .ok t)
    (hcount : AsksFor (get "limit") n) :
    Source.conceptnet.read get = .ok (.subject (.relations t n)) := by
  unfold Source.read Subject.ofConceptnet
  rw [hterm, count_eq_ok_iff.2 hcount]
  rfl

lemma number_mem_query (hname : countName? s = some name) {n : Nat} {q : Query}
    (hq : q ∈ countedQueries get t n s) : (name, Text.Numeral.ofNat n) ∈ q.request.query := by
  cases s with
  | discover =>
    cases hname
    obtain ⟨f, -, rfl⟩ := List.mem_map.1 hq
    exact List.mem_cons_self
  | conceptnet =>
    cases hname
    obtain rfl := List.mem_singleton.1 hq
    exact List.mem_cons_self
  | dictionary | wikipedia | wikidata => cases hname

end count

lemma shown_of_discovery (d : Discovery) (remote : Remote) (now : Instant) (store : Cache.Store) :
    (∃ shown : List Json, shown.length ≤ d.limit ∧ (d.lookUp remote now store).outcome =
      .ok ([("term", .str (Text.trim d.term)), ("topics", .ofOption d.topics)] ++
        [("items", .arr shown)])) ∨
    ∃ f, (d.lookUp remote now store).outcome = .error f := by
  unfold Discovery.lookUp Discovery.run
  cases term d.term with
  | error e => exact Or.inr ⟨_, rfl⟩
  | ok t =>
    dsimp only
    rcases conclude_cases d (fetchFlavors remote now d t store d.flavors).outcome with
      ⟨hok, -⟩ | ⟨-, e, -, herror⟩
    · rw [hok]
      refine Or.inl ⟨_, ?_, rfl⟩
      rw [List.length_map]
      exact List.length_take_le _ _
    · rw [herror]
      exact Or.inr ⟨_, rfl⟩

section serve

variable {v : Visit} {st : State} {s : Source} {get : Parameters} {name t : String} {n : Nat}

lemma sent_of_admitted (h : v.Admitted st s get) :
    (v.serve st).sent = (s.lookUp get v.around.remote v.around.now st.cache).sent := by
  rw [sent_serve, serveWhole_of_admitted h]
  rfl

lemma serveWhole_of_rejected (h : v.Admitted st s get) {e : Rejection}
    (hread : s.read get = .error e) : serveWhole v.around st v.request =
      State.answer { st with ledger := (v.charge st s.policy).1 } (.ofRejection e) := by
  rw [serveWhole_of_admitted h]
  unfold lookUpAdmitted Source.lookUp
  rw [hread]
  rfl

lemma rejectsCount_of_read (h : v.Admitted st s get) (hread : s.read get = .error (.notWhole name)) :
    v.RejectsCount st name := by
  have hwhole := serveWhole_of_rejected h hread
  constructor
  · rw [status_serve, hwhole]
    rfl
  · rw [hwhole]
    exact bodyAt?_rejection _
  · rw [sent_serve, hwhole]
    rfl
  · rw [state_serve, hwhole]
    rfl

lemma status_ne_of_looksUp (h : v.LooksUp st s get) : (v.serve st).response.status ≠ 400 := by
  by_cases hs : s = .discover
  · subst hs
    obtain ⟨d, t, -, -, hfailed, hok⟩ := answer_of_discovery h
    by_cases hfails : (get "policy").map Text.trim = some "fail_fast" ∧
        FlavorFails v.around.remote v.around.now st.cache d t
    · rw [(hfailed hfails).status_eq]
      decide
    · rw [hok hfails]
      decide
  · obtain ⟨subject, -, hok, habsent, hfailed⟩ := answer_of_subject h hs
    by_cases hfound : HasValue v.around.remote v.around.now st.cache subject.query
    · rw [hok hfound]
      decide
    · by_cases hnone :
          (∃ reply, v.around.remote subject.request = some reply ∧ reply.status = 404) ∧
            (s = .dictionary ∨ s = .wikipedia ∧ mode get = "summary")
      · rw [(habsent hfound hnone).status_eq]
        decide
      · rw [(hfailed hfound hnone).status_eq]
        decide

lemma told_of_asked (hname : countName? s = some name) (hasked : (v.serve st).sent.Perm
    (((countedQueries get t n s).filter (missing v.around.now st.cache)).map Query.request)) :
    ∀ r ∈ (v.serve st).sent, (name, Text.Numeral.ofNat n) ∈ r.query := by
  intro r hr
  obtain ⟨q, hq, rfl⟩ := List.mem_map.1 (hasked.mem_iff.1 hr)
  exact number_mem_query hname (List.mem_of_mem_filter hq)

lemma items_of_response {around : Surroundings} {a : Admission.Verdict} {d : Discovery}
    (hread : Discovery.ofParameters get = .ok d) {items : List Json}
    (hitems : bodyAt? (lookUpAdmitted around .discover get st a).response ["items"] =
      some (.arr items)) : items.length ≤ d.limit := by
  unfold lookUpAdmitted at hitems
  dsimp only at hitems
  rw [lookUp_of_discovery hread] at hitems
  rcases shown_of_discovery d around.remote around.now st.cache with
    ⟨shown, hlength, hok⟩ | ⟨f, herror⟩
  · rw [hok] at hitems
    dsimp only at hitems
    rw [bodyAt?_members _ _ (by decide) (by decide), get?_record_concat, if_pos rfl] at hitems
    cases hitems
    exact hlength
  · rw [herror] at hitems
    dsimp only at hitems
    rw [bodyAt?_failure_of_ne f (by decide)] at hitems
    cases hitems

lemma counts_discover (h : v.Admitted st .discover get)
    (hterm : term ((get "term").getD "") = .ok t) (hcount : AsksFor (get "max") n)
    (hpolicy : NamesPolicy get) : v.Counts st .discover get "max" t n := by
  obtain ⟨p, hread⟩ := ofParameters_of_count hcount hpolicy
  have hlooks : v.LooksUp st .discover get := by
    refine ⟨h.action, h.parameters, h.allowed, .words (searchFor get n p), ?_, ?_⟩
    · unfold Source.read
      rw [hread]
      rfl
    · rintro d ⟨⟩
      exact ⟨t, hterm⟩
  have hasked : (v.serve st).sent.Perm (((countedQueries get t n .discover).filter
      (missing v.around.now st.cache)).map Query.request) := by
    rw [sent_of_admitted h, (lookUp_of_term hread hterm _ _ _).2, ← queries_searchFor get t n p]
    exact (askedOf_fetchFlavors v.around.remote v.around.now (searchFor get n p) t st.cache
      (nodup_ofParameter (get "flavors"))).sent
  refine ⟨?_, hasked, fun r hr => ?_, fun _ items hitems => ?_⟩
  · exact status_ne_of_looksUp hlooks
  · exact told_of_asked rfl hasked r hr
  · rw [serveWhole_of_admitted h] at hitems
    exact items_of_response hread hitems

lemma counts_conceptnet (h : v.Admitted st .conceptnet get)
    (hterm : term ((get "term").getD "") = .ok t) (hcount : AsksFor (get "limit") n) :
    v.Counts st .conceptnet get "limit" t n := by
  have hread := read_relations hterm hcount
  have hlooks : v.LooksUp st .conceptnet get := by
    refine ⟨h.action, h.parameters, h.allowed, _, hread, ?_⟩
    rintro d ⟨⟩
  have hasked : (v.serve st).sent.Perm (((countedQueries get t n .conceptnet).filter
      (missing v.around.now st.cache)).map Query.request) := by
    rw [sent_of_admitted h]
    unfold Source.lookUp
    rw [hread]
    exact (askedOf_fetch v.around.remote v.around.now st.cache _).sent
  refine ⟨status_ne_of_looksUp hlooks, hasked, told_of_asked rfl hasked, ?_⟩
  rintro ⟨⟩

lemma not_rejectsCount_of_policy (h : v.Admitted st .discover get) (hcount : AsksFor (get "max") n)
    (hpolicy : ¬ NamesPolicy get) : ¬ v.RejectsCount st "max" := by
  obtain ⟨code, hcode⟩ := ofParameter_of_not_namesPolicy hpolicy
  have hread : Source.discover.read get = .error (.unknownPolicy code) := by
    unfold Source.read Discovery.ofParameters
    rw [count_eq_ok_iff.2 hcount, hcode]
    rfl
  intro hrejects
  have hmessage := hrejects.message
  rw [serveWhole_of_rejected h hread, State.answer, bodyAt?_rejection, Option.some.injEq,
    Json.str.injEq] at hmessage
  exact message_ne_of_unknownPolicy code hmessage

lemma counts_of_asksFor (h : v.Admitted st s get) (hname : countName? s = some name)
    (hterm : term ((get "term").getD "") = .ok t) (hcount : AsksFor (get name) n)
    (hpolicy : s = .discover → NamesPolicy get) : v.Counts st s get name t n := by
  cases s with
  | discover =>
    cases hname
    exact counts_discover h hterm hcount (hpolicy rfl)
  | conceptnet =>
    cases hname
    exact counts_conceptnet h hterm hcount
  | dictionary | wikipedia | wikidata => cases hname

lemma rejectsCount_iff (h : v.Admitted st s get) (hname : countName? s = some name)
    (hterm : term ((get "term").getD "") = .ok t) :
    v.RejectsCount st name ↔ ∀ n, ¬ AsksFor (get name) n := by
  constructor
  · intro hrejects n hcount
    by_cases hpolicy : s = .discover → NamesPolicy get
    · exact (counts_of_asksFor h hname hterm hcount hpolicy).accepted hrejects.status
    · -- A number beside an unknown policy: that is rejected too, but in other words.
      obtain ⟨hs, hunknown⟩ := Classical.not_imp.1 hpolicy
      subst hs
      cases hname
      exact not_rejectsCount_of_policy h hcount hunknown hrejects
  · intro hcount
    exact rejectsCount_of_read h (read_of_no_count hname hterm hcount)

/-- An admitted lookup whose term is fine is rejected for its number of results just if one is given
that is no number of 64 bits; then nobody is asked. Otherwise it goes on with 25, or with the number
moved into the range from 5 to 50. However many zeros a number has in front, it is taken if 64 bits
hold it, no value on the way is beyond them, and a larger number asks for no fewer results. -/
theorem results_counted_as_given (hadmitted : v.Admitted st s get)
    (hname : countName? s = some name) (hterm : term ((get "term").getD "") = .ok t) :
    (v.RejectsCount st name ↔ ∀ n, ¬ AsksFor (get name) n) ∧
    (∀ n, AsksFor (get name) n → (s = .discover → NamesPolicy get) →
      v.Counts st s get name t n) ∧
    (∀ w : WrittenNumber, get name = some w.text →
      (w.number < 2 ^ 64 → AsksFor (get name) (max 5 (min w.number 50))) ∧
      (2 ^ 64 ≤ w.number → v.RejectsCount st name)) ∧
    (∀ (w w' : WrittenNumber) (n n' : Nat), AsksFor (some w.text) n → AsksFor (some w'.text) n' →
      w.number ≤ w'.number → n ≤ n') ∧
    ∀ (front back : List Char) (c : Char) (n : Nat), DigitsOf (front ++ c :: back) n → n < 2 ^ 64 →
      ∃ value, Text.Numeral.readDigits Text.Numeral.limit64 .tooLarge 0 front = .ok value ∧
        value * 10 + (c.toNat - '0'.toNat) < 2 ^ 64 := by
  have hrejects := rejectsCount_iff hadmitted hname hterm
  refine ⟨hrejects, fun n => counts_of_asksFor hadmitted hname hterm, fun w hw => ⟨?_, ?_⟩, ?_, ?_⟩
  · intro hlimit
    rw [hw]
    exact w.asksFor_text_iff.2 ⟨hlimit, rfl⟩
  · intro hlimit
    apply hrejects.2
    intro n hcount
    rw [hw] at hcount
    exact absurd (w.asksFor_text_iff.1 hcount).1 (Nat.not_lt.2 hlimit)
  · intro w w' n n' hcount hcount' hle
    rw [(w.asksFor_text_iff.1 hcount).2, (w'.asksFor_text_iff.1 hcount').2]
    omega
  · intro front back c n hdigits hlimit
    exact exists_value_of_front hdigits hlimit

end serve

/-- A number with a plus sign and zeros among white space; and one that 64 bits just do not hold,
which is rejected with a code that is no policy beside it. -/
theorem results_counted_as_given_at_the_limit :
    let st : State := ⟨.empty, .memory .empty, none⟩
    let around : Surroundings := ⟨⟨0⟩, fun _ => none, ⟨9⟩, false⟩
    let relations : Visit :=
      ⟨around, ⟨.get, "/api/v1/lookup/conceptnet?term=ash&limit=+%2B0012%09", [], ""⟩⟩
    let search : Visit := ⟨around, ⟨.head,
      "/api/v1/lookup/discover?term=ash&max=018446744073709551616&policy=none", [], ""⟩⟩
    let get : Parameters := fun name => [("term", "ash"), ("limit", " +0012\t")].lookup name
    let other : Parameters := fun name =>
      [("term", "ash"), ("max", "018446744073709551616"), ("policy", "none")].lookup name
    (relations.Admitted st .conceptnet get ∧ search.Admitted st .discover other ∧
      term "ash" = .ok "ash") ∧
    (relations.serve st).sent = [⟨relationPlace.below "ash", [("limit", "12")]⟩] ∧
    relations.Counts st .conceptnet get "limit" "ash" 12 ∧ search.RejectsCount st "max" := by
  intro st around relations search get other
  have hrelations : relations.Admitted st .conceptnet get :=
    ⟨by decide +kernel, ⟨_, by decide +kernel, rfl⟩, by decide +kernel⟩
  have hsearch : search.Admitted st .discover other :=
    ⟨by decide +kernel, ⟨_, by decide +kernel, rfl⟩, by decide +kernel⟩
  have hterm : term "ash" = .ok "ash" := by decide +kernel
  let twelve : WrittenNumber := ⟨[' '], true, 2, 12, ['\t'], List.all_eq_true.1 (by decide),
    List.all_eq_true.1 (by decide)⟩
  let beyond : WrittenNumber := ⟨[], false, 1, 2 ^ 64, [], nofun, nofun⟩
  have htwelve : get "limit" = some twelve.text := by decide +kernel
  have hbeyond : other "max" = some beyond.text := by decide +kernel
  obtain ⟨-, hcounts, hgiven, -⟩ := results_counted_as_given hrelations rfl hterm
  obtain ⟨-, -, hrejected, -⟩ := results_counted_as_given hsearch rfl hterm
  exact ⟨⟨hrelations, hsearch, hterm⟩, by decide +kernel,
    hcounts 12 ((hgiven twelve htwelve).1 (by decide)) nofun,
    (hrejected beyond hbeyond).2 (by decide)⟩

end PromptStudio.Proofs
