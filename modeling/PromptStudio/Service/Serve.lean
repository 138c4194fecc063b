import PromptStudio.Http.Route
import PromptStudio.Prompt.Catalogue
import PromptStudio.Prompt.Report
import PromptStudio.Service.Lookup
import PromptStudio.Service.Project

/-!
# Serving requests

Every request is answered, whatever its path, method, query string and body, and the answer
depends on nothing but the request, the state and the surroundings.
-/

namespace PromptStudio.Service

def version : String := "0.1.0"

def health (around : Surroundings) : Json :=
  .record [("status", .str "ok"), ("version", .str version), ("service", .str "volcano-api"),
    ("cache", .str (if around.sharedCache then "redis" else "memory"))]

/-- The report on the document in the body. -/
def compile (r : Http.Request) : Http.Response :=
  match r.readBody Prompt.Document.read with
  | .ok d => .json 200 d.report
  | .error e => .ofRejection e

def perform (around : Surroundings) (st : State) (r : Http.Request) : Http.Action → Served
  | .health => st.answer (.json 200 (health around))
  | .lookup s => lookUp around st s r
  | .compile => st.answer (compile r)
  | .library =>
    st.answer (.json 200 (.arr (Prompt.catalogue.map Prompt.PresetGroup.toJson)))
  | .listProjects => listProjects st r
  | .saveProject => saveProject around st r
  | .showProject segment => showProject st segment r
  | .deleteProject segment => deleteProject st segment r

/-- Serves a request as if its whole response were wanted. -/
def serveWhole (around : Surroundings) (st : State) (r : Http.Request) : Served :=
  match Http.Endpoint.ofPath? r.path with
  | none => st.answer (.bare 404)
  | some endpoint =>
    match endpoint.action? r.method with
    | none => st.answer (.bare 405)
    | some action => perform around st r action

/-- Serves a request. -/
def serve (around : Surroundings) (st : State) (r : Http.Request) : Served :=
  let served := serveWhole around st r
  if r.method = .head then { served with response := served.response.head } else served

end PromptStudio.Service
