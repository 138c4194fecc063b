import PromptStudio.Proofs.Admission.Run
import PromptStudio.Proofs.Json.Records
import PromptStudio.Proofs.Service.Run

/-!
# What is counted

A lookup whose query string can be read, and a save whose draft can be read, are counted once on a
budget of their client, before anything else is done. Nothing else is counted.
-/

namespace PromptStudio.Proofs
open Service

/-- The value in the body of a response under these names, one inside the other. -/
def bodyAt? (r : Http.Response) (names : List String) : Option Json :=
  r.body.bind fun body => names.foldlM Json.get? body

/-- The key of the budget of a feature and a client. -/
def Visit.budgetKey (v : Visit) (p : Admission.Policy) : String :=
  p.feature ++ ":" ++ v.request.headers.client

def Visit.charge (v : Visit) (st : State) (p : Admission.Policy) :
    Admission.Ledger × Admission.Verdict :=
  st.ledger.charge (v.budgetKey p) p.window p.limit v.around.now

/-- The request is counted once. If it is denied, it is told the end of the open window and nothing
else is done. If it is admitted and succeeds, it is told what remains. -/
structure CountedOnce (v : Visit) (st : State) (p : Admission.Policy) (served : Served) : Prop where
  ledger : served.state.ledger = (v.charge st p).1
  denied : (v.charge st p).2.allowed = false →
    (∃ b, st.ledger.get? (v.budgetKey p) = some b ∧ served.response.status = 429 ∧
      bodyAt? served.response ["error", "reset_at"] = some (.str b.resetAt.stamp)) ∧
    served.sent = [] ∧ served.state.cache = st.cache ∧ served.state.shelf = st.shelf
  remaining : (v.charge st p).2.allowed = true → served.response.status = 200 →
    bodyAt? served.response ["remaining"] = some (.ofInt (v.charge st p).2.remaining)

lemma bodyAt?_record_concat (status : Nat) (members : List (String × Json)) (name : String)
    (v : Json) : bodyAt? (.json status (.record (members ++ [(name, v)]))) [name] = some v := by
  have hget := get?_record_concat members name name v
  rw [if_pos rfl] at hget
  simp [bodyAt?, Http.Response.json, hget]

lemma bodyAt?_rateLimited (resetAt : Instant) :
    bodyAt? (.ofFailure (.rateLimited resetAt)) ["error", "reset_at"] =
      some (.str resetAt.stamp) := by
  have herror (v : Json) : (Json.record [("error", v)]).get? "error" = some v :=
    (get?_record_concat [] "error" "error" v).trans (if_pos rfl)
  have hreset := get?_record_concat
    [("code", .str "RATE_LIMITED"), ("message", .str "Rate limit exceeded")] "reset_at" "reset_at"
    (.str resetAt.stamp)
  simpa [bodyAt?, Http.Response.ofFailure, Http.Response.json, Failure.body, Failure.code,
    Failure.message, herror] using hreset

section serve

variable {v : Visit} {st : State} {p : Admission.Policy}

lemma countedOnce_ifAdmitted {go : State → Admission.Verdict → Served}
    (hledger : ∀ st a, (go st a).state.ledger = st.ledger)
    (hremaining : ∀ st a, (go st a).response.status = 200 →
      bodyAt? (go st a).response ["remaining"] = some (.ofInt a.remaining)) :
    CountedOnce v st p (st.ifAdmitted p v.request.headers.client v.around.now go) := by
  rcases ifAdmitted_cases st p v.request.headers.client v.around.now go with
    ⟨hallowed, heq⟩ | ⟨hdenied, heq⟩
  · rw [heq]
    constructor
    · exact hledger _ _
    · intro hdenied
      exact absurd (hallowed.symm.trans hdenied) (by decide)
    · exact fun _ => hremaining _ _
  · rw [heq]
    constructor
    · rfl
    · intro _
      obtain ⟨b, hb, hreset⟩ := exists_bucket_of_denied hdenied
      refine ⟨⟨b, hb, rfl, ?_⟩, rfl, rfl, rfl⟩
      exact (bodyAt?_rateLimited _).trans (by rw [← hreset]; rfl)
    · intro hallowed
      exact absurd (hallowed.symm.trans hdenied) (by decide)

lemma countedOnce_lookUp {s : Lookup.Source}
    (hfields : (Http.Form.fields? s.parameters (Http.Form.decode v.request.query)).isSome) :
    CountedOnce v st s.policy (lookUp v.around st s v.request) := by
  obtain ⟨fields, hread⟩ := Option.isSome_iff_exists.1 hfields
  unfold lookUp
  rw [hread]
  refine countedOnce_ifAdmitted (fun _ _ => rfl) fun st a hok => ?_
  unfold lookUpAdmitted at hok ⊢
  dsimp only at hok ⊢
  cases houtcome : (s.lookUp (fun name => fields.lookup name) v.around.remote v.around.now
      st.cache).outcome with
  | error f =>
    rw [houtcome] at hok
    exact absurd hok (status_failure_ne_ok f)
  | ok members =>
    dsimp only
    cases s with
    | discover =>
      -- The search for words also says when the budget is renewed, which is another member.
      have hget := get?_record_concat (members ++ [("remaining", .ofInt a.remaining)]) "reset_at"
        "remaining" (.str a.resetAt.stamp)
      rw [List.append_assoc, if_neg (by decide), get?_record_concat, if_pos rfl] at hget
      simpa [bodyAt?, Http.Response.json, budget] using hget
    | dictionary | wikipedia | wikidata | conceptnet => exact bodyAt?_record_concat 200 members _ _

lemma countedOnce_saveProject {d : Project.Draft}
    (hread : v.request.readBody Project.Draft.read = .ok d) :
    CountedOnce v st .projectSave (saveProject v.around st v.request) := by
  unfold saveProject
  rw [hread]
  refine countedOnce_ifAdmitted (fun st a => ?_) fun st a => ?_
  · exact saveAdmitted_induction (P := fun served => served.state.ledger = st.ledger)
      (fun _ => rfl) fun _ _ => rfl
  · refine saveAdmitted_induction (P := fun served => served.response.status = 200 →
      bodyAt? served.response ["remaining"] = some (.ofInt a.remaining)) (fun f hok => ?_)
      fun _ _ _ => ?_
    · exact absurd hok (status_failure_ne_ok f)
    · exact bodyAt?_record_concat 200 [("id", _)] _ _

/-- The budget that a request is counted on, if it can be read. -/
def Visit.counted? (v : Visit) : Option Admission.Policy :=
  match v.action? with
  | some (.lookup s) =>
    (Http.Form.fields? s.parameters (Http.Form.decode v.request.query)).map fun _ => s.policy
  | some .saveProject => v.draft?.map fun _ => .projectSave
  | _ => none

lemma countedOnce_serveWhole (h : v.counted? = some p) :
    CountedOnce v st p (serveWhole v.around st v.request) := by
  unfold Visit.counted? at h
  split at h
  · rename_i s haction
    obtain ⟨fields, hfields, rfl⟩ := Option.map_eq_some_iff.1 h
    rw [serveWhole_of_action haction]
    exact countedOnce_lookUp (Option.isSome_iff_exists.2 ⟨fields, hfields⟩)
  · rename_i haction
    obtain ⟨d, hdraft, rfl⟩ := Option.map_eq_some_iff.1 h
    rw [serveWhole_of_action haction]
    exact countedOnce_saveProject (action?_of_draft? hdraft).2
  · cases h

lemma ledger_of_not_counted (h : v.counted? = none) :
    (v.serve st).state.ledger = st.ledger := by
  rw [state_serve]
  cases haction : v.action? with
  | none =>
    obtain ⟨status, hserve⟩ := serveWhole_of_no_action haction st
    rw [hserve]
    rfl
  | some action =>
    unfold Visit.counted? at h
    rw [haction] at h
    by_cases hlookup : ∃ s, action = .lookup s
    · obtain ⟨s, rfl⟩ := hlookup
      have hfields := Option.map_eq_none_iff.1 h
      rw [serveWhole_of_action haction]
      simp only [perform, lookUp, hfields]
      rfl
    · by_cases hsave : action = .saveProject
      · subst hsave
        obtain ⟨e, hrejected⟩ := serveWhole_of_unread haction (Option.map_eq_none_iff.1 h) st
        rw [hrejected]
        rfl
      · rw [serveWhole_of_action haction]
        exact perform_induction (P := fun served => served.state.ledger = st.ledger)
          (fun s heq => hlookup ⟨s, heq⟩) hsave (fun _ => rfl) (fun _ => rfl) fun _ => rfl

/-- A lookup whose query string is read, and a save whose draft is read, are counted once, whatever
becomes of them: denied they do nothing else. What is asked of other paths, or of projects but to
save one, is not counted. -/
theorem counted_once_before_all_else (v : Visit) (st : State) :
    (∀ source, v.request.method = .get →
      Http.Endpoint.ofPath? v.request.path = some (.lookup source) →
      (Http.Form.fields? source.parameters (Http.Form.decode v.request.query)).isSome →
      CountedOnce v st source.policy (v.serve st)) ∧
    (∀ d, v.draft? = some d → CountedOnce v st .projectSave (v.serve st)) ∧
    ((∀ source, Http.Endpoint.ofPath? v.request.path ≠ some (.lookup source)) →
      ¬ (v.request.method = .post ∧ Http.Endpoint.ofPath? v.request.path = some .projects) →
      (v.serve st).state.ledger = st.ledger) := by
  refine ⟨fun source hget hpath hfields => ?_, fun d hdraft => ?_, fun hlookup hsave => ?_⟩
  · have haction : v.action? = some (.lookup source) := by
      rw [Visit.action?, hpath, hget]
      rfl
    rw [serve_of_not_head (by rw [hget]; decide)]
    refine countedOnce_serveWhole ?_
    obtain ⟨fields, hread⟩ := Option.isSome_iff_exists.1 hfields
    rw [Visit.counted?, haction]
    dsimp only
    rw [hread, Option.map_some]
  · obtain ⟨haction, -⟩ := action?_of_draft? hdraft
    rw [serve_of_not_head (by rw [(path_of_saveProject haction).1]; decide)]
    refine countedOnce_serveWhole ?_
    rw [Visit.counted?, haction]
    dsimp only
    rw [hdraft, Option.map_some]
  · refine ledger_of_not_counted ?_
    unfold Visit.counted?
    split
    · rename_i source haction
      exact absurd (path_of_lookup haction) (hlookup source)
    · rename_i haction
      exact absurd (path_of_saveProject haction) hsave
    · rfl

end serve

/-- A budget is used up at the end of its window, and a database is missing. -/
theorem counted_once_before_all_else_at_the_limit :
    let st : State := ⟨Table.empty.put "datamuse:unknown" ⟨90, ⟨5⟩⟩, .failing, none⟩
    let around : Surroundings := ⟨⟨5⟩, fun _ => none, ⟨9⟩, false⟩
    let search : Visit := ⟨around, ⟨.get, "/api/v1/lookup/discover?max=none", [], ""⟩⟩
    let save : Visit := ⟨around, ⟨.post, "/api/v1/projects", [("Content-Type", "application/json")],
      "[\"00000000000000000000000000000002\",null,\"Etna\",[]]"⟩⟩
    let removal : Visit := ⟨around, ⟨.delete, "/api/v1/projects/7", [], ""⟩⟩
    ((search.request.method = .get ∧
        Http.Endpoint.ofPath? search.request.path = some (.lookup .discover) ∧
        (Http.Form.fields? Lookup.Source.discover.parameters
          (Http.Form.decode search.request.query)).isSome) ∧
      save.draft?.isSome ∧
      (∀ source, Http.Endpoint.ofPath? removal.request.path ≠ some (.lookup source)) ∧
      ¬ (removal.request.method = .post ∧
        Http.Endpoint.ofPath? removal.request.path = some .projects)) ∧
    bodyAt? (search.serve st).response ["error", "reset_at"] = some (.str (Instant.stamp ⟨5⟩)) ∧
    (save.serve st).state.ledger.get? "proj:unknown" = some ⟨1, ⟨60005⟩⟩ ∧
    (removal.serve st).state.ledger = st.ledger := by
  intro st around search save removal
  have hpath : Http.Endpoint.ofPath? search.request.path = some (.lookup .discover) := by
    decide +kernel
  have hfields : (Http.Form.fields? Lookup.Source.discover.parameters
      (Http.Form.decode search.request.query)).isSome := by
    decide +kernel
  have hdraft : save.draft?.isSome := by decide +kernel
  have hremoval : Http.Endpoint.ofPath? removal.request.path = some (.project ['7']) := by
    decide +kernel
  have hlookup : ∀ source, Http.Endpoint.ofPath? removal.request.path ≠ some (.lookup source) := by
    intro source h
    cases hremoval.symm.trans h
  have hsave : ¬ (removal.request.method = .post ∧
      Http.Endpoint.ofPath? removal.request.path = some .projects) :=
    fun h => absurd h.1 (by decide)
  have hsearched := (counted_once_before_all_else search st).1 .discover rfl hpath hfields
  obtain ⟨b, hb, -, hreset⟩ := (hsearched.denied (by decide +kernel)).1
  have hfull : st.ledger.get? (search.budgetKey .discover) = some ⟨90, ⟨5⟩⟩ := by decide +kernel
  obtain rfl := Option.some.inj (hb.symm.trans hfull)
  obtain ⟨d, hd⟩ := Option.isSome_iff_exists.1 hdraft
  have hsaved := (counted_once_before_all_else save st).2.1 d hd
  refine ⟨⟨⟨rfl, hpath, hfields⟩, hdraft, hlookup, hsave⟩, hreset, ?_, ?_⟩
  · rw [hsaved.ledger]
    decide +kernel
  · exact (counted_once_before_all_else removal st).2.2 hlookup hsave

end PromptStudio.Proofs
