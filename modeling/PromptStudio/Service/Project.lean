import PromptStudio.Http.Body
import PromptStudio.Http.Client
import PromptStudio.Http.Form
import PromptStudio.Project.Draft
import PromptStudio.Service.Basic

/-!
# Serving projects

A save is read, then admitted, then checked, and only then the shelf is asked. The other requests
name the session in the query string and are not counted.
-/

namespace PromptStudio.Service

open Project (Draft Shelf)

/-- The session that a query string names. -/
def session? (r : Http.Request) : Option Uuid :=
  match Http.Form.fields? ["session_id"] (Http.Form.decode r.query) with
  | some [(_, s)] => Uuid.ofText? s
  | _ => none

/-- The identifier that a path segment names. -/
def projectId? (segment : List Char) : Option Uuid :=
  (Text.Utf8.decode? (Text.Percent.decode (Text.Utf8.encode segment))).bind fun cs =>
    Uuid.ofText? (String.ofList cs)

/-- What a session is told of a project that it does not own. -/
def missingProject (id : Uuid) : Failure :=
  .notFound ("Project " ++ id.text ++ " not found")

/-- The answer to an admitted save. -/
def saveAdmitted (around : Surroundings) (d : Draft) (st : State) (a : Admission.Verdict) :
    Served :=
  match Project.projectName d.name, st.shelf with
  | .error e, _ => st.answer (.ofRejection e)
  | .ok _, none => st.answer (.ofFailure .database)
  | .ok name, some shelf =>
    let id := d.id.getD around.fresh
    match shelf.save? id ⟨d.session, name, d.document, around.now⟩ with
    | none => st.answer (.ofFailure (missingProject id))
    | some shelf =>
      let body := .record [("id", .str id.text), ("remaining", .ofInt a.remaining)]
      ⟨.json 200 body, { st with shelf := some shelf }, []⟩

def saveProject (around : Surroundings) (st : State) (r : Http.Request) : Served :=
  match r.readBody Draft.read with
  | .error e => st.answer (.ofRejection e)
  | .ok d => st.ifAdmitted .projectSave r.headers.client around.now (saveAdmitted around d)

/-- Goes on with the session and the shelf. -/
def State.withSession (st : State) (r : Http.Request) (go : Uuid → Shelf → Served) : Served :=
  match session? r, st.shelf with
  | none, _ => st.answer (.ofRejection .query)
  | some _, none => st.answer (.ofFailure .database)
  | some session, some shelf => go session shelf

/-- Goes on with the identifier in the path. -/
def State.withProject (st : State) (segment : List Char) (go : Uuid → Served) : Served :=
  match projectId? segment with
  | none => st.answer (.ofRejection .path)
  | some id => go id

def listProjects (st : State) (r : Http.Request) : Served :=
  st.withSession r fun session shelf =>
    let items := (shelf.list session).map fun e => e.2.summary e.1
    st.answer (.json 200 (.record [("items", .arr items)]))

def showProject (st : State) (segment : List Char) (r : Http.Request) : Served :=
  st.withProject segment fun id => st.withSession r fun session shelf =>
    match shelf.find? session id with
    | some p => st.answer (.json 200 (p.toJson id))
    | none => st.answer (.ofFailure (missingProject id))

def deleteProject (st : State) (segment : List Char) (r : Http.Request) : Served :=
  st.withProject segment fun id => st.withSession r fun session shelf =>
    ⟨.bare 204, { st with shelf := some (shelf.remove session id) }, []⟩

end PromptStudio.Service
