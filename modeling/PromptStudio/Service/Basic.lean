import PromptStudio.Http.Message
import PromptStudio.Lookup.Fetch
import PromptStudio.Admission.Ledger
import PromptStudio.Project.Shelf

/-!
# The service and its surroundings

The state is what a request can change: the windows of the clients, the cache and the shelf of
projects. The surroundings are what a request only meets: the time, the other services, and an
identifier that no project has yet.
-/

namespace PromptStudio.Service

/-- What requests change. Without a database there is no shelf. -/
structure State where
  ledger : Admission.Ledger
  cache : Cache.Store
  shelf : Option Project.Shelf

/-- What a request meets. `sharedCache` says whether the service is set up to share its cache. -/
structure Surroundings where
  now : Instant
  remote : Remote
  fresh : Uuid
  sharedCache : Bool

/-- The response to a request, the state after it and the requests sent to others, in order. -/
structure Served where
  response : Http.Response
  state : State
  sent : List Remote.Request

/-- An answer that changes nothing and asks nobody. -/
def State.answer (st : State) (response : Http.Response) : Served :=
  ⟨response, st, []⟩

/-- Counts a request of the client, and goes on if it is admitted. -/
def State.ifAdmitted (st : State) (policy : Admission.Policy) (client : String) (now : Instant)
    (go : State → Admission.Verdict → Served) : Served :=
  let (ledger, admission) := st.ledger.check policy client now
  let st := { st with ledger }
  if admission.allowed then go st admission
  else st.answer (.ofFailure (.rateLimited admission.resetAt))

end PromptStudio.Service
