import PromptStudio.Http.Client
import PromptStudio.Http.Form
import PromptStudio.Lookup.Source
import PromptStudio.Service.Basic

/-!
# Serving lookups

The query string is read first, then the client is admitted, and only then the parameters are
looked at. The answer says how much of the budget is left.
-/

namespace PromptStudio.Service

open Lookup (Source Members)

/-- What an answer says about the budget. The search for words also says when it is renewed. -/
def budget (s : Source) (a : Admission.Verdict) : Members :=
  ("remaining", .ofInt a.remaining) ::
    match s with
    | .discover => [("reset_at", .str a.resetAt.stamp)]
    | _ => []

/-- The answer to an admitted lookup. -/
def lookUpAdmitted (around : Surroundings) (s : Source) (get : Lookup.Parameters) (st : State)
    (a : Admission.Verdict) : Served :=
  let fetched := s.lookUp get around.remote around.now st.cache
  let response : Http.Response :=
    match fetched.outcome with
    | .ok members => .json 200 (.record (members ++ budget s a))
    | .error f => .ofFailure f
  ⟨response, { st with cache := fetched.store }, fetched.sent⟩

def lookUp (around : Surroundings) (st : State) (s : Source) (r : Http.Request) : Served :=
  match Http.Form.fields? s.parameters (Http.Form.decode r.query) with
  | none => st.answer (.ofRejection .query)
  | some fields =>
    st.ifAdmitted s.policy r.headers.client around.now
      (lookUpAdmitted around s fun name => fields.lookup name)

end PromptStudio.Service
