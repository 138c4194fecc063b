import PromptStudio.Proofs.Text.Trimmed
import PromptStudio.Service.Serve

/-!
# Runs of the service

A visit is a request together with what it meets. What a visit does to the shelf of projects is
one of three things: nothing, one save, or one removal.
-/

namespace PromptStudio.Proofs
open Service Project

/-- A request with the time, the other services and the fresh identifier that it meets. -/
structure Visit where
  around : Surroundings
  request : Http.Request

namespace Visit

def serve (v : Visit) (st : State) : Served :=
  Service.serve v.around st v.request

/-- What the request asks for. -/
def action? (v : Visit) : Option Http.Action :=
  (Http.Endpoint.ofPath? v.request.path).bind fun e => e.action? v.request.method

def draft? (v : Visit) : Option Draft :=
  match v.action? with
  | some .saveProject => (v.request.readBody Draft.read).toOption
  | _ => none

/-- The session that a request on projects carries, in its query string or in its body. -/
def session? (v : Visit) : Option Uuid :=
  match v.action? with
  | some .listProjects | some (.showProject _) | some (.deleteProject _) =>
    Service.session? v.request
  | some .saveProject => v.draft?.map Draft.session
  | _ => none

end Visit

def afterVisits (st : State) (visits : List Visit) : State :=
  visits.foldl (fun st v => (v.serve st).state) st

section serve

variable {v : Visit} {st : State} {action : Http.Action}

lemma serveWhole_of_action (h : v.action? = some action) (st : State) :
    serveWhole v.around st v.request = perform v.around st v.request action := by
  obtain ⟨endpoint, hpath, haction⟩ := Option.bind_eq_some_iff.1 h
  simp only [serveWhole, hpath, haction]

lemma state_serve (v : Visit) (st : State) :
    (v.serve st).state = (serveWhole v.around st v.request).state := by
  unfold Visit.serve serve
  split <;> rfl

lemma status_serve (v : Visit) (st : State) :
    (v.serve st).response.status = (serveWhole v.around st v.request).response.status := by
  unfold Visit.serve serve
  split <;> rfl

lemma serve_of_not_head (h : v.request.method ≠ .head) :
    v.serve st = serveWhole v.around st v.request := by
  unfold Visit.serve serve
  exact if_neg h

lemma path_of_lookup {s : Lookup.Source} (h : v.action? = some (.lookup s)) :
    Http.Endpoint.ofPath? v.request.path = some (.lookup s) := by
  obtain ⟨endpoint, hpath, haction⟩ := Option.bind_eq_some_iff.1 h
  rw [hpath]
  cases endpoint <;> cases hmethod : v.request.method <;> rw [hmethod] at haction <;> cases haction
    <;> rfl

lemma path_of_saveProject (h : v.action? = some .saveProject) :
    v.request.method = .post ∧ Http.Endpoint.ofPath? v.request.path = some .projects := by
  obtain ⟨endpoint, hpath, haction⟩ := Option.bind_eq_some_iff.1 h
  rw [hpath]
  cases endpoint <;> cases hmethod : v.request.method <;> rw [hmethod] at haction <;> cases haction
  exact ⟨rfl, rfl⟩

lemma response_serve_congr {st st' : State}
    (h : (serveWhole v.around st v.request).response =
      (serveWhole v.around st' v.request).response) :
    (v.serve st).response = (v.serve st').response := by
  unfold Visit.serve serve
  by_cases hhead : v.request.method = .head
  · simp [hhead, h]
  · simp [hhead, h]

lemma serveWhole_of_no_action (h : v.action? = none) (st : State) :
    ∃ status, serveWhole v.around st v.request = st.answer (.bare status) := by
  unfold serveWhole
  cases hpath : Http.Endpoint.ofPath? v.request.path with
  | none => exact ⟨404, rfl⟩
  | some endpoint =>
    have haction : endpoint.action? v.request.method = none := by
      rwa [Visit.action?, hpath] at h
    simp only [haction]
    exact ⟨405, rfl⟩

end serve

lemma status_failure_ne_ok (f : Failure) : f.status ≠ 200 := by
  cases f <;> simp [Failure.status]

lemma ifAdmitted_cases (st : State) (policy : Admission.Policy) (client : String) (now : Instant)
    (go : State → Admission.Verdict → Served) :
    let counted := st.ledger.check policy client now
    (counted.2.allowed = true ∧ st.ifAdmitted policy client now go =
      go { st with ledger := counted.1 } counted.2) ∨
    (counted.2.allowed = false ∧ st.ifAdmitted policy client now go =
      State.answer { st with ledger := counted.1 }
        (.ofFailure (.rateLimited counted.2.resetAt))) := by
  intro counted
  unfold State.ifAdmitted
  cases hallowed : counted.2.allowed with
  | true => exact Or.inl ⟨rfl, by simp only [counted] at hallowed; simp [counted, hallowed]⟩
  | false => exact Or.inr ⟨rfl, by simp only [counted] at hallowed; simp [counted, hallowed]⟩

section induction

variable {P : Served → Prop} {st : State}

lemma withSession_induction {r : Http.Request} {go : Uuid → Shelf → Served}
    (hfailure : ∀ f, P (st.answer (.ofFailure f))) (hgo : ∀ session shelf, P (go session shelf)) :
    P (st.withSession r go) := by
  unfold State.withSession
  split
  · exact hfailure _
  · exact hfailure _
  · exact hgo _ _

lemma withProject_induction {segment : List Char} {go : Uuid → Served}
    (hfailure : ∀ f, P (st.answer (.ofFailure f))) (hgo : ∀ id, P (go id)) :
    P (st.withProject segment go) := by
  unfold State.withProject
  split
  · exact hfailure _
  · exact hgo _

/-- What is not counted tells a failure, gives an answer or removes a project. -/
lemma perform_induction {around : Surroundings} {r : Http.Request} {action : Http.Action}
    (hlookup : ∀ s, action ≠ .lookup s) (hsave : action ≠ .saveProject)
    (hfailure : ∀ f, P (st.answer (.ofFailure f))) (hanswer : ∀ v, P (st.answer (.json 200 v)))
    (hremoved : ∀ shelf, P ⟨.bare 204, { st with shelf := some shelf }, []⟩) :
    P (perform around st r action) := by
  cases action with
  | health | library => exact hanswer _
  | lookup s => exact absurd rfl (hlookup s)
  | compile =>
    unfold perform compile
    dsimp only
    split
    · exact hanswer _
    · exact hfailure _
  | listProjects => exact withSession_induction hfailure fun _ _ => hanswer _
  | saveProject => exact absurd rfl hsave
  | showProject segment =>
    refine withProject_induction hfailure fun id => withSession_induction hfailure fun _ _ => ?_
    split
    · exact hanswer _
    · exact hfailure _
  | deleteProject segment =>
    exact withProject_induction hfailure fun id =>
      withSession_induction hfailure fun _ _ => hremoved _

lemma saveAdmitted_induction {around : Surroundings} {d : Draft} {a : Admission.Verdict}
    (hfailure : ∀ f, P (st.answer (.ofFailure f)))
    (hsaved : ∀ (id : Uuid) shelf, P ⟨.json 200 (.record [("id", .str id.text),
      ("remaining", .ofInt a.remaining)]), { st with shelf := some shelf }, []⟩) :
    P (saveAdmitted around d st a) := by
  unfold saveAdmitted
  split
  · exact hfailure _
  · exact hfailure _
  · dsimp only
    split
    · exact hfailure _
    · exact hsaved _ _

end induction

lemma lookUp_cases (around : Surroundings) (st : State) (s : Lookup.Source) (r : Http.Request) :
    lookUp around st s r = st.answer (.ofRejection .query) ∨
    ∃ fields, Http.Form.fields? s.parameters (Http.Form.decode r.query) = some fields ∧
      let counted := st.ledger.check s.policy r.headers.client around.now
      (counted.2.allowed = true ∧ lookUp around st s r =
        lookUpAdmitted around s (fun name => fields.lookup name) { st with ledger := counted.1 }
          counted.2) ∨
      (counted.2.allowed = false ∧ lookUp around st s r =
        State.answer { st with ledger := counted.1 }
          (.ofFailure (.rateLimited counted.2.resetAt))) := by
  unfold lookUp
  cases Http.Form.fields? s.parameters (Http.Form.decode r.query) with
  | none => exact Or.inl rfl
  | some fields => exact Or.inr ⟨fields, rfl, ifAdmitted_cases st _ _ _ _⟩

lemma shelf_lookUp (around : Surroundings) (st : State) (s : Lookup.Source) (r : Http.Request) :
    (lookUp around st s r).state.shelf = st.shelf := by
  rcases lookUp_cases around st s r with heq | ⟨_, -, ⟨-, heq⟩ | ⟨-, heq⟩⟩
  · rw [heq]
    rfl
  · rw [heq]
    rfl
  · rw [heq]
    rfl

section save

variable {v : Visit} {st : State} {shelf : Shelf} {d : Draft}

/-- The identifier that a save is for: the one in the draft, or the fresh one. -/
def Visit.savedId (v : Visit) (d : Draft) : Uuid :=
  d.id.getD v.around.fresh

def Visit.saved (v : Visit) (d : Draft) (name : String) : Saved :=
  ⟨d.session, name, d.document, v.around.now⟩

def Visit.saveVerdict (v : Visit) (st : State) : Admission.Verdict :=
  (st.ledger.check .projectSave v.request.headers.client v.around.now).2

/-- What a save answers once it is read, and the shelf after it. -/
def saveOutcome (v : Visit) (st : State) (shelf : Shelf) (d : Draft) : Http.Response × Shelf :=
  if (v.saveVerdict st).allowed then
    match projectName d.name with
    | .error e => (.ofRejection e, shelf)
    | .ok name =>
      match shelf.save? (v.savedId d) (v.saved d name) with
      | none => (.ofFailure (missingProject (v.savedId d)), shelf)
      | some shelf' =>
        (.json 200 (.record [("id", .str (v.savedId d).text),
          ("remaining", .ofInt (v.saveVerdict st).remaining)]), shelf')
  else (.ofFailure (.rateLimited (v.saveVerdict st).resetAt), shelf)

lemma action?_of_draft? (h : v.draft? = some d) :
    v.action? = some .saveProject ∧ v.request.readBody Draft.read = .ok d := by
  unfold Visit.draft? at h
  split at h
  · rename_i haction
    cases hread : v.request.readBody Draft.read with
    | error e => simp [hread, Except.toOption] at h
    | ok d' =>
      simp only [hread, Except.toOption, Option.some.injEq] at h
      exact ⟨haction, by rw [h]⟩
  · cases h

lemma serveWhole_of_unread (haction : v.action? = some .saveProject) (hdraft : v.draft? = none)
    (st : State) : ∃ e, serveWhole v.around st v.request = st.answer (.ofRejection e) := by
  rw [serveWhole_of_action haction]
  cases hread : v.request.readBody Draft.read with
  | error e => exact ⟨e, by simp only [perform, saveProject, hread]⟩
  | ok d =>
    simp only [Visit.draft?, haction, hread] at hdraft
    cases hdraft

lemma serveWhole_of_draft (hshelf : st.shelf = some shelf) (h : v.draft? = some d) :
    (serveWhole v.around st v.request).response = (saveOutcome v st shelf d).1 ∧
    (serveWhole v.around st v.request).state.shelf = some (saveOutcome v st shelf d).2 := by
  obtain ⟨haction, hread⟩ := action?_of_draft? h
  rw [serveWhole_of_action haction]
  simp only [perform, saveProject, hread]
  rcases ifAdmitted_cases st .projectSave v.request.headers.client v.around.now
    (saveAdmitted v.around d) with ⟨hallowed, heq⟩ | ⟨hdenied, heq⟩
  · have hgo : (v.saveVerdict st).allowed = true := hallowed
    rw [heq]
    unfold saveAdmitted saveOutcome
    rw [if_pos hgo, hshelf]
    cases hname : projectName d.name with
    | error e => exact ⟨rfl, rfl⟩
    | ok name =>
      simp only [Visit.saved, Visit.savedId]
      cases hsave : shelf.save? (d.id.getD v.around.fresh)
        ⟨d.session, name, d.document, v.around.now⟩ with
      | none => exact ⟨rfl, rfl⟩
      | some shelf' => exact ⟨rfl, rfl⟩
  · have hstop : ¬ (v.saveVerdict st).allowed = true := by
      rw [Visit.saveVerdict, hdenied]
      exact Bool.false_ne_true
    rw [heq]
    unfold saveOutcome
    rw [if_neg hstop]
    exact ⟨rfl, hshelf⟩

lemma serve_of_draft (hshelf : st.shelf = some shelf) (h : v.draft? = some d) :
    (v.serve st).response = (saveOutcome v st shelf d).1 ∧
    (v.serve st).state.shelf = some (saveOutcome v st shelf d).2 := by
  have hpost : v.request.method ≠ .head := by
    rw [(path_of_saveProject (action?_of_draft? h).1).1]
    decide
  rw [serve_of_not_head hpost]
  exact serveWhole_of_draft hshelf h

/-- A save that is read either succeeds, and then the row is on the shelf, or changes nothing. -/
lemma saveOutcome_cases (v : Visit) (st : State) (shelf : Shelf) (d : Draft) :
    ((saveOutcome v st shelf d).1 = .json 200 (.record [("id", .str (v.savedId d).text),
        ("remaining", .ofInt (v.saveVerdict st).remaining)]) ∧
      shelf.save? (v.savedId d) (v.saved d (Text.trim d.name)) =
        some (saveOutcome v st shelf d).2) ∨
    ((saveOutcome v st shelf d).1.status ≠ 200 ∧ (saveOutcome v st shelf d).2 = shelf) := by
  unfold saveOutcome
  split
  · cases hname : projectName d.name with
    | error e => exact Or.inr ⟨status_failure_ne_ok e.failure, rfl⟩
    | ok name =>
      obtain ⟨rfl, -, -⟩ := eq_of_projectName hname
      cases hsave : shelf.save? (v.savedId d) (v.saved d (Text.trim d.name)) with
      | none =>
        simp only [hsave]
        exact Or.inr ⟨status_failure_ne_ok (missingProject (v.savedId d)), trivial⟩
      | some shelf' =>
        simp only [hsave]
        exact Or.inl ⟨trivial, trivial⟩
  · exact Or.inr ⟨status_failure_ne_ok (.rateLimited (v.saveVerdict st).resetAt), rfl⟩

end save

section query

variable {v : Visit} {st : State} {shelf : Shelf} {session id : Uuid} {segment : List Char}

lemma serveWhole_list (haction : v.action? = some .listProjects)
    (hsession : session? v.request = some session) (hshelf : st.shelf = some shelf) :
    serveWhole v.around st v.request = st.answer (.json 200 (.record
      [("items", .arr ((shelf.list session).map fun e => e.2.summary e.1))])) := by
  rw [serveWhole_of_action haction]
  simp only [perform, listProjects, State.withSession, hsession, hshelf]

lemma serveWhole_show (haction : v.action? = some (.showProject segment))
    (hid : projectId? segment = some id) (hsession : session? v.request = some session)
    (hshelf : st.shelf = some shelf) :
    serveWhole v.around st v.request =
      match shelf.find? session id with
      | some p => st.answer (.json 200 (p.toJson id))
      | none => st.answer (.ofFailure (missingProject id)) := by
  rw [serveWhole_of_action haction]
  cases hfind : shelf.find? session id with
  | none =>
    simp only [perform, showProject, State.withProject, State.withSession, hid, hsession, hshelf,
      hfind]
  | some p =>
    simp only [perform, showProject, State.withProject, State.withSession, hid, hsession, hshelf,
      hfind]

lemma serveWhole_delete (haction : v.action? = some (.deleteProject segment))
    (hid : projectId? segment = some id) (hsession : session? v.request = some session)
    (hshelf : st.shelf = some shelf) :
    serveWhole v.around st v.request =
      ⟨.bare 204, { st with shelf := some (shelf.remove session id) }, []⟩ := by
  rw [serveWhole_of_action haction]
  simp only [perform, deleteProject, State.withProject, State.withSession, hid, hsession, hshelf]

end query

end PromptStudio.Proofs
