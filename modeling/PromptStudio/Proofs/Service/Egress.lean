import PromptStudio.Proofs.Lookup.Misses
import PromptStudio.Proofs.Lookup.Parameters
import PromptStudio.Proofs.Service.Counting

/-!
# What is sent to others

Other services are asked only for lookups that are admitted and whose parameters are valid. What
they are sent is spelled out source by source: a client chooses the texts between fixed addresses
and names, within bounds, and nothing else.
-/

namespace PromptStudio.Proofs
open Lookup Service

/-- What stands before the entity in the query for its attributes. -/
def attributeQueryFront : String :=
  "SELECT ?item ?itemLabel ?itemDescription ?instanceOfLabel ?countryLabel ?locationLabel " ++
  "?coord ?image WHERE \x7b\n" ++
  "  BIND(wd:"

/-- What stands after the entity in the query for its attributes. -/
def attributeQueryBack : String :=
  " AS ?item)\n" ++
  "  OPTIONAL \x7b ?item wdt:P31 ?instanceOf. \x7d\n" ++
  "  OPTIONAL \x7b ?item wdt:P17 ?country. \x7d\n" ++
  "  OPTIONAL \x7b ?item wdt:P276 ?location. \x7d\n" ++
  "  OPTIONAL \x7b ?item wdt:P625 ?coord. \x7d\n" ++
  "  OPTIONAL \x7b ?item wdt:P18 ?image. \x7d\n" ++
  "  SERVICE wikibase:label \x7b bd:serviceParam wikibase:language \"en\". \x7d\n" ++
  "\x7d\nLIMIT 25"

lemma attributeQuery_eq (id : String) :
    attributeQuery id = attributeQueryFront ++ id ++ attributeQueryBack := by
  unfold attributeQuery attributeQueryFront attributeQueryBack
  simp only [String.append_assoc, -String.reduceAppend]

/-- The topics of a search as they are sent, if any are given. -/
inductive SentTopics (get : Parameters) : List (String × String) → Prop where
  | none (hblank : Text.trim ((get "topics").getD "") = "") : SentTopics get []
  | some {t : String} (hgiven : TrimmedFrom (get "topics") t) : SentTopics get [("topics", t)]

/-- What may be sent for a lookup at a source with these parameters. -/
inductive Permitted (get : Parameters) : Source → List Remote.Request → Prop where
  | words {flavors : List Flavor} {topics : List (String × String)} {limit : Nat} {t : String}
      (hdistinct : flavors.Nodup) (hselected : flavors.Sublist (Flavor.ofParameter (get "flavors")))
      (hlimit : 5 ≤ limit ∧ limit ≤ 50) (htopics : SentTopics get topics)
      (hterm : TrimmedFrom (get "term") t) (hlength : t.length ≤ 80) :
      Permitted get .discover (flavors.map fun f =>
        ⟨wordsUrl, [("max", Text.Numeral.ofNat limit)] ++ topics ++ [(f.parameter, t)]⟩)
  | word {w : String} (hword : TrimmedFrom (get "word") w) (hlength : w.length ≤ 80) :
      Permitted get .dictionary [⟨wordPlace.below w, []⟩]
  | pages {q : String} (hmode : mode get = "search") (hquery : TrimmedFrom (get "q") q)
      (hlength : q.length ≤ 120) :
      Permitted get .wikipedia [⟨pagesUrl, [("q", q), ("limit", "10")]⟩]
  | summary {title : String} (hmode : mode get = "summary")
      (htitle : TrimmedFrom (get "title") title) (hlength : title.length ≤ 200) :
      Permitted get .wikipedia [⟨summaryPlace.below title, []⟩]
  | entities {q : String} (hmode : mode get = "search") (hquery : TrimmedFrom (get "q") q)
      (hlength : q.length ≤ 120) :
      Permitted get .wikidata [⟨entitiesUrl, [("action", "wbsearchentities"), ("search", q),
        ("language", "en"), ("format", "json"), ("limit", "10")]⟩]
  | attributes {digits : String} (hmode : mode get = "attrs")
      (hid : TrimmedFrom (get "id") ("Q" ++ digits))
      (hlength : 1 ≤ digits.length ∧ digits.length ≤ 19)
      (hdigits : ∀ c ∈ digits.toList, c.isDigit = true) :
      Permitted get .wikidata [⟨attributesUrl, [("format", "json"),
        ("query", attributeQueryFront ++ ("Q" ++ digits) ++ attributeQueryBack)]⟩]
  | relations {t : String} {limit : Nat} (hterm : TrimmedFrom (get "term") t)
      (hlength : t.length ≤ 80) (hlimit : 5 ≤ limit ∧ limit ≤ 50) :
      Permitted get .conceptnet [⟨relationPlace.below t, [("limit", Text.Numeral.ofNat limit)]⟩]

section permitted

variable {get : Parameters}

lemma sentTopics (get : Parameters) : SentTopics get
    ((topics (topics (get "topics"))).toList.map fun t => ("topics", t)) := by
  rw [topics_topics]
  unfold topics
  cases hraw : get "topics" with
  | none =>
    apply SentTopics.none
    rw [hraw]
    rfl
  | some s =>
    rw [Option.bind_some]
    by_cases hblank : Text.trim s = ""
    · rw [nonBlank?_of_blank hblank]
      apply SentTopics.none
      rwa [hraw]
    · rw [nonBlank?_of_ne hblank]
      apply SentTopics.some
      apply trimmedFrom
      · rw [hraw]
        rfl
      · exact hblank

lemma permitted_words {d : Discovery} {t : String} {asked : List Flavor}
    (hread : Discovery.ofParameters get = .ok d) (hterm : term d.term = .ok t)
    (hdistinct : asked.Nodup) (hselected : asked.Sublist d.flavors) :
    Permitted get .discover (asked.map fun f => (queryOf d t f).request) := by
  obtain ⟨hterm', htopics, hlimit, hflavors, -⟩ := eq_of_discovery hread
  rw [hterm'] at hterm
  obtain ⟨htrim, hne, hlength⟩ := eq_of_term hterm
  rw [hflavors] at hselected
  unfold queryOf
  rw [htopics]
  apply Permitted.words hdistinct hselected (bounds_of_count hlimit) (sentTopics get)
  · exact trimmedFrom htrim hne
  · exact hlength

lemma permitted_subject {s : Source} {subject : Subject} (h : s.read get = .ok (.subject subject)) :
    Permitted get s [subject.request] := by
  cases readsSubject h with
  | word hword =>
    obtain ⟨htrim, hne, hlength⟩ := eq_of_term hword
    exact Permitted.word (trimmedFrom htrim hne) hlength
  | pages hmode hquery =>
    obtain ⟨htrim, hne, hlength⟩ := eq_of_required hquery
    exact Permitted.pages hmode (trimmedFrom htrim hne) hlength
  | summary hmode htitle =>
    obtain ⟨htrim, hne, hlength⟩ := eq_of_required htitle
    exact Permitted.summary hmode (trimmedFrom htrim hne) hlength
  | entities hmode hquery =>
    obtain ⟨htrim, hne, hlength⟩ := eq_of_required hquery
    exact Permitted.entities hmode (trimmedFrom htrim hne) hlength
  | attributes hmode hid =>
    obtain ⟨htrim, hne, digits, rfl, hpos, hlength, hdigits⟩ := eq_of_entityId hid
    rw [show (Subject.attributes ("Q" ++ digits)).request = ⟨attributesUrl,
      [("format", "json"), ("query", attributeQuery ("Q" ++ digits))]⟩ from rfl,
      attributeQuery_eq]
    apply Permitted.attributes hmode _ ⟨hpos, hlength⟩ hdigits
    exact trimmedFrom htrim hne
  | relations hterm hlimit =>
    obtain ⟨htrim, hne, hlength⟩ := eq_of_term hterm
    exact Permitted.relations (trimmedFrom htrim hne) hlength (bounds_of_count hlimit)

end permitted

/-! ## One lookup -/

section lookUp

variable (remote : Remote) (now : Instant) (store : Cache.Store)

lemma sent_fetch (q : Query) :
    (q.fetch remote now store).sent = [] ∨ (q.fetch remote now store).sent = [q.request] := by
  rcases fetch_cases q remote now store with ⟨v, -, heq⟩ | ⟨v, -, heq⟩ | ⟨e, -, heq⟩
  · exact Or.inl (by rw [heq])
  · exact Or.inr (by rw [heq])
  · exact Or.inr (by rw [heq])

lemma sent_fetchFlavors (d : Discovery) (t : String) (flavors : List Flavor) :
    ∃ asked : List Flavor, asked.Sublist flavors ∧
      (fetchFlavors remote now d t store flavors).sent =
        asked.map fun f => (queryOf d t f).request := by
  induction flavors generalizing store with
  | nil => exact ⟨[], .slnil, rfl⟩
  | cons f flavors ih =>
    obtain ⟨asked, hsublist, hsent⟩ := ih (fetchFlavor remote now d t store f).store
    rw [fetchFlavors]
    dsimp only
    rw [hsent]
    -- A flavor whose words are still fresh is passed over.
    rcases sent_fetch remote now store (queryOf d t f) with hnone | hone
    · refine ⟨asked, hsublist.cons f, ?_⟩
      exact congrArg (· ++ asked.map fun f => (queryOf d t f).request) hnone
    · refine ⟨f :: asked, hsublist.cons_cons f, ?_⟩
      exact congrArg (· ++ asked.map fun f => (queryOf d t f).request) hone

lemma nodup_ofParameter (raw : Option String) : (Flavor.ofParameter raw).Nodup := by
  have hstandard : Flavor.standard.Nodup := by decide
  unfold Flavor.ofParameter
  split
  · split
    · exact hstandard
    · exact nodup_firsts _
  · exact hstandard

/-- The parameters are accepted by the source, and so is the term of a search for words. -/
def Accepts (s : Source) (get : Parameters) : Prop :=
  ∃ q, s.read get = .ok q ∧ ∀ d, q = .words d → ∃ t, term d.term = .ok t

lemma sent_lookUp (s : Source) (get : Parameters) :
    (s.lookUp get remote now store).sent = [] ∨
      Accepts s get ∧ Permitted get s (s.lookUp get remote now store).sent := by
  unfold Source.lookUp
  cases hread : s.read get with
  | error r => exact Or.inl rfl
  | ok q =>
    cases q with
    | words d =>
      dsimp only [Question.lookUp, Discovery.lookUp]
      unfold Discovery.run
      cases hterm : term d.term with
      | error e => exact Or.inl rfl
      | ok t =>
        dsimp only
        obtain ⟨hsource, hd⟩ := discovery_of_read hread
        subst hsource
        have hdistinct : d.flavors.Nodup := by
          rw [(eq_of_discovery hd).2.2.2.1]
          exact nodup_ofParameter (get "flavors")
        obtain ⟨asked, hselected, hsent⟩ := sent_fetchFlavors remote now store d t d.flavors
        rw [hsent]
        refine Or.inr ⟨⟨.words d, hread, ?_⟩, ?_⟩
        · intro d' hd'
          cases hd'
          exact ⟨t, hterm⟩
        · exact permitted_words hd hterm (hdistinct.sublist hselected) hselected
    | subject subject =>
      dsimp only [Question.lookUp, Subject.lookUp]
      rcases sent_fetch remote now store subject.query with hnone | hone
      · exact Or.inl hnone
      · rw [hone]
        refine Or.inr ⟨⟨.subject subject, hread, ?_⟩, permitted_subject hread⟩
        intro d hd
        cases hd

end lookUp

/-! ## One request -/

/-- The request is a lookup that is admitted and accepted. -/
structure Visit.LooksUp (v : Visit) (st : State) (s : Source) (get : Parameters) : Prop where
  action : v.action? = some (.lookup s)
  parameters : ∃ fields,
    Http.Form.fields? s.parameters (Http.Form.decode v.request.query) = some fields ∧
      get = fun name => fields.lookup name
  admitted : (v.charge st s.policy).2.allowed = true
  accepted : Accepts s get

section serve

variable {v : Visit} {st : State}

lemma sent_serve (v : Visit) (st : State) :
    (v.serve st).sent = (serveWhole v.around st v.request).sent := by
  unfold Visit.serve serve
  split <;> rfl

/-- Nobody is asked, and the cache is left alone. -/
def Quiet (st : State) (served : Served) : Prop :=
  served.sent = [] ∧ served.state.cache = st.cache

lemma quiet_saveProject (around : Surroundings) (st : State) (r : Http.Request) :
    Quiet st (saveProject around st r) := by
  unfold saveProject
  split
  · exact ⟨rfl, rfl⟩
  · rename_i d _
    rcases ifAdmitted_cases st .projectSave r.headers.client around.now (saveAdmitted around d) with
      ⟨-, heq⟩ | ⟨-, heq⟩
    · rw [heq]
      exact saveAdmitted_induction (P := Quiet st) (fun _ => ⟨rfl, rfl⟩) fun _ _ => ⟨rfl, rfl⟩
    · rw [heq]
      exact ⟨rfl, rfl⟩

lemma quiet_or_lookUp (v : Visit) (st : State) :
    Quiet st (serveWhole v.around st v.request) ∨
      ∃ s, v.action? = some (.lookup s) ∧
        serveWhole v.around st v.request = lookUp v.around st s v.request := by
  cases haction : v.action? with
  | none =>
    obtain ⟨status, heq⟩ := serveWhole_of_no_action haction st
    rw [heq]
    exact Or.inl ⟨rfl, rfl⟩
  | some action =>
    rw [serveWhole_of_action haction]
    by_cases hlookup : ∃ s, action = .lookup s
    · obtain ⟨s, rfl⟩ := hlookup
      exact Or.inr ⟨s, rfl, rfl⟩
    · left
      by_cases hsave : action = .saveProject
      · subst hsave
        exact quiet_saveProject v.around st v.request
      · exact perform_induction (P := Quiet st) (fun s heq => hlookup ⟨s, heq⟩) hsave
          (fun _ => ⟨rfl, rfl⟩) (fun _ => ⟨rfl, rfl⟩) fun _ => ⟨rfl, rfl⟩

lemma permitted_lookUp {s : Source} (haction : v.action? = some (.lookup s)) (st : State) :
    (lookUp v.around st s v.request).sent = [] ∨
      ∃ get, v.LooksUp st s get ∧ Permitted get s (lookUp v.around st s v.request).sent := by
  rcases lookUp_cases v.around st s v.request with
    heq | ⟨fields, hfields, ⟨hallowed, heq⟩ | ⟨-, heq⟩⟩
  · rw [heq]
    exact Or.inl rfl
  · rw [heq]
    rcases sent_lookUp v.around.remote v.around.now st.cache s
      (fun name => fields.lookup name) with hnone | ⟨haccepted, hpermitted⟩
    · exact Or.inl hnone
    · exact Or.inr ⟨_, ⟨haction, ⟨fields, hfields, rfl⟩, hallowed, haccepted⟩, hpermitted⟩
  · rw [heq]
    exact Or.inl rfl

/-- Whatever is asked for, others are asked only for a lookup that is admitted and accepted, and
are sent only what may be sent for it. -/
theorem permitted_serve (v : Visit) (st : State) :
    (v.serve st).sent = [] ∨
      ∃ s get, v.LooksUp st s get ∧ Permitted get s (v.serve st).sent := by
  rw [sent_serve]
  rcases quiet_or_lookUp v st with hquiet | ⟨s, haction, heq⟩
  · exact Or.inl hquiet.1
  · rw [heq]
    rcases permitted_lookUp haction st with hnone | ⟨get, hlooks, hpermitted⟩
    · exact Or.inl hnone
    · exact Or.inr ⟨s, get, hlooks, hpermitted⟩

end serve

/-! ## A run -/

/-- What others are sent in a run, in order. -/
def sentInRun (st : State) : List Visit → List Remote.Request
  | [] => []
  | v :: visits => (v.serve st).sent ++ sentInRun (v.serve st).state visits

lemma exists_visit_of_sent {st : State} {visits : List Visit} {r : Remote.Request}
    (h : r ∈ sentInRun st visits) : ∃ before v after, visits = before ++ v :: after ∧
      r ∈ (v.serve (afterVisits st before)).sent := by
  induction visits generalizing st with
  | nil => cases h
  | cons v visits ih =>
    rcases List.mem_append.1 h with hnow | hlater
    · exact ⟨[], v, visits, rfl, hnow⟩
    · obtain ⟨before, w, after, rfl, hsent⟩ := ih hlater
      exact ⟨v :: before, w, after, rfl, hsent⟩

/-- In every run others are sent requests by lookups alone that are admitted and accepted, and each
of these sends what may be sent for it: at most one request for each flavor of a search, and at most
one for anything else. -/
theorem sent_by_accepted_lookups (st : State) (visits : List Visit) :
    (∀ r ∈ sentInRun st visits, ∃ before v after, visits = before ++ v :: after ∧
      r ∈ (v.serve (afterVisits st before)).sent) ∧
    ∀ before v after, visits = before ++ v :: after →
      (v.serve (afterVisits st before)).sent = [] ∨
      ∃ s get, v.LooksUp (afterVisits st before) s get ∧
        Permitted get s (v.serve (afterVisits st before)).sent :=
  ⟨fun _ => exists_visit_of_sent, fun before v _ _ => permitted_serve v (afterVisits st before)⟩

/-- The attributes of an entity are asked for, and synonyms of a word that is named twice. -/
theorem sent_by_accepted_lookups_in_a_run :
    let st : State := ⟨.empty, .memory .empty, none⟩
    let around : Surroundings := ⟨⟨0⟩, fun _ => none, ⟨9⟩, false⟩
    let entity : Visit := ⟨around, ⟨.get, "/api/v1/lookup/wikidata?mode=attrs&id=+Q42", [], ""⟩⟩
    let search : Visit :=
      ⟨around, ⟨.get, "/api/v1/lookup/discover?term=ash+&max=2&flavors=syn,syn", [], ""⟩⟩
    let sent : List Remote.Request := [
      ⟨attributesUrl, [("format", "json"), ("query", attributeQuery "Q42")]⟩,
      ⟨wordsUrl, [("max", "5"), ("rel_syn", "ash")]⟩]
    (sentInRun st [entity, search] = sent ∧ [entity, search] = [entity] ++ search :: []) ∧
    (∀ r ∈ sent, ∃ before v after, [entity, search] = before ++ v :: after ∧
      r ∈ (v.serve (afterVisits st before)).sent) ∧
    ∃ get, search.LooksUp (entity.serve st).state .discover get ∧
      Permitted get .discover [⟨wordsUrl, [("max", "5"), ("rel_syn", "ash")]⟩] := by
  intro st around entity search sent
  have hsent : sentInRun st [entity, search] = sent := by decide +kernel
  obtain ⟨hall, hvisits⟩ := sent_by_accepted_lookups st [entity, search]
  rw [hsent] at hall
  refine ⟨⟨hsent, rfl⟩, hall, ?_⟩
  have hlast : (search.serve (afterVisits st [entity])).sent =
      [⟨wordsUrl, [("max", "5"), ("rel_syn", "ash")]⟩] := by
    decide +kernel
  rcases hvisits [entity] search [] rfl with hnone | ⟨s, get, hlooks, hpermitted⟩
  · cases hlast.symm.trans hnone
  · have haction : search.action? = some (.lookup .discover) := by decide +kernel
    cases hlooks.action.symm.trans haction
    rw [hlast] at hpermitted
    exact ⟨get, hlooks, hpermitted⟩

end PromptStudio.Proofs
