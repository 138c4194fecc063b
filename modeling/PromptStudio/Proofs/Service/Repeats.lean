import PromptStudio.Proofs.Lookup.AllOrNothing
import PromptStudio.Proofs.Lookup.Spellings
import PromptStudio.Proofs.Service.Answers

/-!
# Searches asked again

A search whose flavors were all asked for and answered leaves the replies behind, and nothing but
another search touches them. For a day the same search, however it is written, is answered from
them: nobody is asked, and the words are the same.
-/

namespace PromptStudio.Proofs
open Cache Lookup Service

/-! ## What a search leaves behind -/

section search

variable {remote : Remote} {now : Instant} {d : Discovery} {t : String} {s : Store}

/-- What is made of the replies to a search, flavor by flavor. -/
def wordsOfReplies (remote : Remote) (d : Discovery) (t : String) (fs : List Flavor) :
    List (Except Remote.Failure (List Candidate)) :=
  fs.map fun f => (remote.ask (queryOf d t f).request).bind (Lookup.words f)

/-- The replies to a search are kept for each of its flavors, as of the time they came. -/
def RepliesKept (remote : Remote) (written : Instant) (d : Discovery) (t : String) (s : Store) :
    Prop :=
  ∀ f ∈ d.flavors, ∃ v, remote.ask (queryOf d t f).request = .ok v ∧
    s.read (queryOf d t f).key = .ok (some ⟨v.print, written⟩)

lemma outcome_fetchFlavors_of_missing {fs : List Flavor}
    (h : ∀ f ∈ fs, missing now s (queryOf d t f) = true) :
    (fetchFlavors remote now d t s fs).outcome = wordsOfReplies remote d t fs := by
  rw [outcome_fetchFlavors]
  refine List.map_congr_left fun f hf => ?_
  rw [outcome_fetchFlavor, fetch_of_missing remote now (h f hf)]

lemma eq_of_parameter_mem {text : String} {f g : Flavor}
    (h : (f.parameter, text) ∈ (queryOf d t g).request.query) : f = g := by
  have hmax : f.parameter ≠ "max" := by cases f <;> decide
  have htopics : f.parameter ≠ "topics" := by cases f <;> decide
  have hquery : (queryOf d t g).request.query = [("max", Text.Numeral.ofNat d.limit)] ++
      ((topics d.topics).toList.map fun t => ("topics", t)) ++ [(g.parameter, t)] := rfl
  rw [hquery] at h
  simp only [List.mem_append, List.mem_singleton, List.mem_map, Prod.mk.injEq] at h
  rcases h with (⟨hname, -⟩ | ⟨_, -, hname, -⟩) | ⟨hname, -⟩
  · exact absurd hname hmax
  · exact absurd hname.symm htopics
  · exact parameter_injective hname

lemma request_of_sent {fs : List Flavor} {f : Flavor} {r : Remote.Request} {text : String}
    (hr : r ∈ (fetchFlavors remote now d t s fs).sent) (hquery : (f.parameter, text) ∈ r.query) :
    r = (queryOf d t f).request ∧ missing now s (queryOf d t f) = true := by
  obtain ⟨asked, -, hsent⟩ := sent_fetchFlavors remote now s d t fs
  have hmem := hr
  rw [hsent] at hmem
  obtain ⟨g, -, rfl⟩ := List.mem_map.1 hmem
  obtain rfl := eq_of_parameter_mem hquery
  exact ⟨rfl, ((request_mem_sent_iff remote now d t s fs f).1 hr).2⟩

lemma repliesKept_of_asked {text : String} (hkeeps : Keeps s now)
    (hasked : ∀ f ∈ d.flavors, ∃ r ∈ (fetchFlavors remote now d t s d.flavors).sent,
      (f.parameter, text) ∈ r.query)
    (hanswered : ∀ r ∈ (fetchFlavors remote now d t s d.flavors).sent, ∃ v, Brings remote r v) :
    (∀ f ∈ d.flavors, missing now s (queryOf d t f) = true) ∧
      RepliesKept remote now d t (fetchFlavors remote now d t s d.flavors).store := by
  have hsent : ∀ f ∈ d.flavors, missing now s (queryOf d t f) = true ∧
      ∃ v, remote.ask (queryOf d t f).request = .ok v := by
    intro f hf
    obtain ⟨r, hr, hquery⟩ := hasked f hf
    obtain ⟨v, hv⟩ := hanswered r hr
    obtain ⟨rfl, hmissing⟩ := request_of_sent hr hquery
    exact ⟨hmissing, v, ask_eq_ok_iff_brings.2 hv⟩
  refine ⟨fun f hf => (hsent f hf).1, fun f hf => ?_⟩
  obtain ⟨hmissing, v, hv⟩ := hsent f hf
  exact ⟨v, hv, read_fetchFlavors_of_brought remote now d t hf hkeeps hmissing hv⟩

lemma fetchFlavors_of_kept {earlier : Remote} {written : Instant}
    (hkept : RepliesKept earlier written d t s) (hage : now.since written ≤ day)
    {fs : List Flavor} (hfs : fs ⊆ d.flavors) :
    fetchFlavors remote now d t s fs = ⟨wordsOfReplies earlier d t fs, s, []⟩ := by
  induction fs with
  | nil => rfl
  | cons f fs ih =>
    obtain ⟨hf, hfs⟩ := List.cons_subset.1 hfs
    obtain ⟨v, hask, hread⟩ := hkept f hf
    have hfound : s.get? (queryOf d t f).key (queryOf d t f).ttl now = some v :=
      get?_eq_some_iff_read.2 ⟨_, hread, hage, parse?_print_of_ask hask⟩
    have hfirst : fetchFlavor remote now d t s f = ⟨Lookup.words f v, s, []⟩ := by
      unfold fetchFlavor
      rw [show flavorQuery f (topics d.topics) t d.limit = queryOf d t f from rfl,
        fetch_of_found remote now hfound]
      rfl
    have hwords : wordsOfReplies earlier d t (f :: fs) =
        Lookup.words f v :: wordsOfReplies earlier d t fs := by
      unfold wordsOfReplies
      rw [List.map_cons, hask]
      rfl
    rw [fetchFlavors, hfirst, ih hfs, hwords]
    rfl

end search

section lookUp

variable {remote remote' : Remote} {now now' : Instant} {s s' : Store} {get other : Parameters}

lemma lookUp_of_discovery {d : Discovery} (h : Discovery.ofParameters get = .ok d)
    (remote : Remote) (now : Instant) (s : Store) :
    Source.discover.lookUp get remote now s = d.lookUp remote now s := by
  unfold Source.lookUp Source.read
  rw [h]
  rfl

lemma lookUp_of_rejected {e : Rejection} (h : Discovery.ofParameters get = .error e)
    (remote : Remote) (now : Instant) (s : Store) :
    Source.discover.lookUp get remote now s = ⟨.error e.failure, s, []⟩ := by
  unfold Source.lookUp Source.read
  rw [h]
  rfl

lemma lookUp_of_term {d : Discovery} {t : String} (h : Discovery.ofParameters get = .ok d)
    (hterm : term d.term = .ok t) (remote : Remote) (now : Instant) (s : Store) :
    let found := fetchFlavors remote now d t s d.flavors
    (Source.discover.lookUp get remote now s).store = found.store ∧
      (Source.discover.lookUp get remote now s).sent = found.sent := by
  rw [lookUp_of_discovery h]
  unfold Discovery.lookUp
  rw [run_of_term hterm]
  exact ⟨rfl, rfl⟩

/-- A search whose replies are kept, written in another way, has the members that it had when they
came. -/
lemma lookUp_again (hsame : SameSearch get other)
    (hfirst : ∀ d t, Discovery.ofParameters get = .ok d → term d.term = .ok t →
      (∀ f ∈ d.flavors, missing now s (queryOf d t f) = true) ∧ RepliesKept remote now d t s')
    (hage : now'.since now ≤ day) :
    (Source.discover.lookUp other remote' now' s').outcome =
      (Source.discover.lookUp get remote now s).outcome ∧
    (Source.discover.lookUp other remote' now' s').sent = [] := by
  have hread' := hsame.ofParameters_eq
  cases hread : Discovery.ofParameters get with
  | error e =>
    rw [hread] at hread'
    rw [lookUp_of_rejected hread, lookUp_of_rejected hread']
    exact ⟨rfl, rfl⟩
  | ok d =>
    rw [hread] at hread'
    have htrim : Text.trim d.term = Text.trim ((other "term").getD "") := by
      rw [(eq_of_discovery hread).1]
      exact hsame.term
    rw [lookUp_of_discovery hread, lookUp_of_discovery hread']
    unfold Discovery.lookUp
    dsimp only
    rw [← htrim]
    cases hterm : term d.term with
    | error e =>
      have hterm' := (term_congr htrim).symm.trans hterm
      unfold Discovery.run
      rw [hterm, hterm']
      exact ⟨rfl, rfl⟩
    | ok t =>
      have hterm' : term ({ d with term := (other "term").getD "" } : Discovery).term = .ok t :=
        (term_congr htrim).symm.trans hterm
      obtain ⟨hmissing, hkept⟩ := hfirst d t hread hterm
      have hagain : fetchFlavors remote' now' { d with term := (other "term").getD "" } t s'
          d.flavors = ⟨wordsOfReplies remote d t d.flavors, s', []⟩ :=
        (fetchFlavors_congr d { d with term := (other "term").getD "" } rfl rfl remote' now' t s'
          d.flavors).trans (fetchFlavors_of_kept hkept hage (List.Subset.refl _))
      rw [run_of_term hterm, run_of_term hterm']
      dsimp only
      rw [hagain, outcome_fetchFlavors_of_missing hmissing]
      exact ⟨rfl, rfl⟩

end lookUp

/-! ## What other requests leave alone -/

section frame

variable {key : String}

lemma read_lookUp_of_other {source : Source} (hsource : source ≠ .discover)
    (hkey : ∀ subject : Subject, subject.key ≠ key) (get : Parameters) (remote : Remote)
    (now : Instant) (s : Store) :
    (source.lookUp get remote now s).store.read key = s.read key := by
  unfold Source.lookUp
  cases hread : source.read get with
  | error r => rfl
  | ok q =>
    obtain ⟨subject, rfl⟩ := read_subject hsource hread
    exact read_fetch_of_ne remote now s (hkey subject)

lemma read_serve_of_other {v : Visit} (hv : v.action? ≠ some (.lookup .discover))
    (hkey : ∀ subject : Subject, subject.key ≠ key) (st : State) :
    (v.serve st).state.cache.read key = st.cache.read key := by
  rw [state_serve]
  rcases quiet_or_lookUp v st with hquiet | ⟨source, haction, heq⟩
  · rw [hquiet.2]
  · have hsource : source ≠ .discover := by
      rintro rfl
      exact hv haction
    rw [heq]
    rcases lookUp_cases v.around st source v.request with
      heq | ⟨fields, -, ⟨-, heq⟩ | ⟨-, heq⟩⟩
    · rw [heq]
      rfl
    · rw [heq]
      exact read_lookUp_of_other hsource hkey _ v.around.remote v.around.now st.cache
    · rw [heq]
      rfl

lemma read_afterVisits_of_others {visits : List Visit}
    (hvisits : ∀ v ∈ visits, v.action? ≠ some (.lookup .discover))
    (hkey : ∀ subject : Subject, subject.key ≠ key) (st : State) :
    (afterVisits st visits).cache.read key = st.cache.read key := by
  induction visits generalizing st with
  | nil => rfl
  | cons v visits ih =>
    obtain ⟨hv, hvisits⟩ := List.forall_mem_cons.1 hvisits
    exact (ih hvisits (v.serve st).state).trans (read_serve_of_other hv hkey st)

/-- The replies to a search stay as long as nobody searches for words. -/
lemma RepliesKept.afterVisits {remote : Remote} {written : Instant} {d : Discovery} {t : String}
    {st : State} (h : RepliesKept remote written d t st.cache) {visits : List Visit}
    (hvisits : ∀ v ∈ visits, v.action? ≠ some (.lookup .discover)) :
    RepliesKept remote written d t (afterVisits st visits).cache := by
  intro f hf
  obtain ⟨v, hask, hread⟩ := h f hf
  refine ⟨v, hask, ?_⟩
  rw [← hread]
  exact read_afterVisits_of_others hvisits
    (fun subject => subject_key_ne subject ⟨f, topics d.topics, t, d.limit⟩) st

end frame

/-! ## The search asked again -/

lemma bodyAt?_members (members : Members) (a : Admission.Verdict) {name : String}
    (hremaining : name ≠ "remaining") (hreset : name ≠ "reset_at") :
    bodyAt? (.json 200 (.record (members ++ budget .discover a))) [name] =
      (Json.record members).get? name := by
  have hget := get?_record_concat (members ++ [("remaining", .ofInt a.remaining)]) "reset_at" name
    (.str a.resetAt.stamp)
  rw [List.append_assoc, if_neg hreset, get?_record_concat, if_neg hremaining] at hget
  simpa [bodyAt?, Http.Response.json, budget] using hget

lemma response_congr {around around' : Surroundings} {get other : Parameters} {st st' : State}
    (a a' : Admission.Verdict)
    (h : (Source.discover.lookUp other around'.remote around'.now st'.cache).outcome =
      (Source.discover.lookUp get around.remote around.now st.cache).outcome) :
    let answer := (lookUpAdmitted around .discover get st a).response
    let again := (lookUpAdmitted around' .discover other st' a').response
    again.status = answer.status ∧
      ∀ name ∈ ["term", "topics", "items"], bodyAt? again [name] = bodyAt? answer [name] := by
  intro answer again
  simp only [answer, again, lookUpAdmitted, h]
  cases (Source.discover.lookUp get around.remote around.now st.cache).outcome with
  | error f => exact ⟨rfl, fun _ _ => rfl⟩
  | ok members =>
    have hstatus (v : Json) : (Http.Response.json 200 v).status = 200 := rfl
    refine ⟨(hstatus _).trans (hstatus _).symm, fun name hname => ?_⟩
    have hother : name ≠ "remaining" ∧ name ≠ "reset_at" := by
      simp only [List.mem_cons, List.not_mem_nil, or_false] at hname
      rcases hname with rfl | rfl | rfl <;> decide
    dsimp only
    rw [bodyAt?_members members _ hother.1 hother.2, bodyAt?_members members _ hother.1 hother.2]

/-- A search that is asked again after other requests, at most a day later and in whatever spelling,
is answered as it was the first time, and nobody is asked, if the first time somebody was asked for
each of its flavors and answered with success and with JSON. -/
theorem search_asked_again_without_requests {st : State} {entries : Table String Entry}
    {first second : Visit} {between : List Visit} {get other : Parameters}
    (hmemory : st.cache = .memory entries)
    (hmethod : first.request.method = .get ∧ second.request.method = .get)
    (hfirst : first.Admitted st .discover get)
    (hsecond : second.Admitted (afterVisits (first.serve st).state between) .discover other)
    (hsame : SameSearch get other)
    (hasked : ∀ f ∈ Flavor.ofParameter (get "flavors"), ∃ r ∈ (first.serve st).sent,
      (f.parameter, Text.trim ((get "term").getD "")) ∈ r.query)
    (hanswered : ∀ r ∈ (first.serve st).sent, ∃ v, Brings first.around.remote r v)
    (hbetween : ∀ v ∈ between, v.action? ≠ some (.lookup .discover))
    (hage : second.around.now.since first.around.now ≤ day) :
    let answer := first.serve st
    let again := second.serve (afterVisits answer.state between)
    again.sent = [] ∧ again.response.status = answer.response.status ∧
    ∀ name ∈ ["term", "topics", "items"],
      bodyAt? again.response [name] = bodyAt? answer.response [name] := by
  intro answer again
  have hanswer : answer = serveWhole first.around st first.request :=
    serve_of_not_head (by rw [hmethod.1]; decide)
  have hagain : again = serveWhole second.around (afterVisits answer.state between)
      second.request := serve_of_not_head (by rw [hmethod.2]; decide)
  rw [serveWhole_of_admitted hfirst] at hanswer
  rw [serveWhole_of_admitted hsecond] at hagain
  have hkept : ∀ d t, Discovery.ofParameters get = .ok d → term d.term = .ok t →
      (∀ f ∈ d.flavors, missing first.around.now st.cache (queryOf d t f) = true) ∧
      RepliesKept first.around.remote first.around.now d t
        (afterVisits answer.state between).cache := by
    intro d t hread hterm
    obtain ⟨hstore, hsent⟩ :=
      lookUp_of_term hread hterm first.around.remote first.around.now st.cache
    replace hstore := (congrArg (fun r => r.state.cache) hanswer).trans hstore
    replace hsent := (congrArg Served.sent hanswer).trans hsent
    rw [← (eq_of_discovery hread).2.2.2.1, hsent] at hasked
    rw [hsent] at hanswered
    have hkeeps : Keeps st.cache first.around.now := by
      rw [hmemory]
      trivial
    obtain ⟨hmissing, hkept⟩ := repliesKept_of_asked hkeeps hasked hanswered
    rw [← hstore] at hkept
    exact ⟨hmissing, hkept.afterVisits hbetween⟩
  obtain ⟨houtcome, hsilent⟩ := lookUp_again hsame hkept hage
  rw [hanswer, hagain]
  exact ⟨hsilent, response_congr _ _ houtcome⟩

/-- The synonym found for a term is found again at the very end of the day, under other spellings of
all parameters, after a lookup in a dictionary and while nobody answers any more. -/
theorem search_asked_again_without_requests_at_end_of_day :
    let st : State := ⟨.empty, .memory .empty, none⟩
    let up : Remote := fun _ => some ⟨200, "[[\"oak\"]]"⟩
    let visit (now : Int) (remote : Remote) (target : String) : Visit :=
      ⟨⟨⟨now⟩, remote, ⟨9⟩, false⟩, ⟨.get, target, [], ""⟩⟩
    let first := visit 0 up "/api/v1/lookup/discover?term=+ash&max=2&flavors=syn,xx,syn"
    let word := visit 5 up "/api/v1/lookup/dictionary?word=ash"
    let second := visit 86400000 (fun _ => none)
      "/api/v1/lookup/discover?term=ash&topics=+&max=%2B05&flavors=+syn&policy=isolate"
    let get : Parameters := fun name =>
      [("term", " ash"), ("max", "2"), ("flavors", "syn,xx,syn")].lookup name
    let other : Parameters := fun name => [("term", "ash"), ("topics", " "), ("max", "+05"),
      ("flavors", " syn"), ("policy", "isolate")].lookup name
    let answer := first.serve st
    let again := second.serve (afterVisits answer.state [word])
    (first.Admitted st .discover get ∧
      second.Admitted (afterVisits answer.state [word]) .discover other ∧ SameSearch get other ∧
      answer.sent = [⟨wordsUrl, [("max", "5"), ("rel_syn", "ash")]⟩] ∧
      (∀ r ∈ answer.sent, ∃ v, Brings first.around.remote r v) ∧
      second.around.now.since first.around.now = day) ∧
    again.sent = [] ∧ again.response.status = 200 ∧
    (bodyAt? again.response ["items"]).map Json.print =
      some "[\x7b\"flavor\":\"syn\",\"penalty\":0.0,\"score\":0.0,\"word\":\"oak\"\x7d]" := by
  intro st up visit first word second get other answer again
  have hsent : answer.sent = [⟨wordsUrl, [("max", "5"), ("rel_syn", "ash")]⟩] := by
    decide +kernel
  have hfirst : first.Admitted st .discover get :=
    ⟨by decide +kernel, ⟨_, by decide +kernel, rfl⟩, by decide +kernel⟩
  have hsecond : second.Admitted (afterVisits answer.state [word]) .discover other :=
    ⟨by decide +kernel, ⟨_, by decide +kernel, rfl⟩, by decide +kernel⟩
  have hcount : count "max" (get "max") = count "max" (other "max") := by decide +kernel
  have hsame : SameSearch get other := by
    refine ⟨by decide +kernel, by decide +kernel, fun n => ?_, by decide +kernel,
      by decide +kernel⟩
    rw [← @count_eq_ok_iff "max", hcount, count_eq_ok_iff]
  have hasked : ∀ f ∈ Flavor.ofParameter (get "flavors"), ∃ r ∈ answer.sent,
      (f.parameter, Text.trim ((get "term").getD "")) ∈ r.query := by
    rw [hsent]
    decide +kernel
  have hanswered : ∀ r ∈ answer.sent, ∃ v, Brings first.around.remote r v := by
    intro r _
    have hbody : (Json.parse? "[[\"oak\"]]").isSome := by decide +kernel
    obtain ⟨v, hv⟩ := Option.isSome_iff_exists.1 hbody
    exact ⟨v, _, rfl, by decide, hv⟩
  have hbetween : ∀ v ∈ [word], v.action? ≠ some (.lookup .discover) := by
    rw [List.forall_mem_singleton]
    decide +kernel
  have hmemory : st.cache = .memory .empty := rfl
  obtain ⟨hsilent, hstatus, hbody⟩ := search_asked_again_without_requests hmemory ⟨rfl, rfl⟩
    hfirst hsecond hsame hasked hanswered hbetween (le_refl day)
  refine ⟨⟨hfirst, hsecond, hsame, hsent, hanswered, rfl⟩, hsilent, ?_, ?_⟩
  · rw [hstatus]
    decide +kernel
  · rw [hbody "items" (by simp)]
    decide +kernel

end PromptStudio.Proofs
