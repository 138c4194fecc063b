import PromptStudio.Json.Reading

/-!
# Requests to other services

A request is an address and query pairs, and nothing is asked twice. The body of a reply counts
only if its status says success.
-/

namespace PromptStudio.Remote

/-- The address and the query pairs of a request. -/
structure Request where
  url : String
  query : List (String × String)
  deriving DecidableEq, Repr

/-- What came back. -/
structure Reply where
  status : Nat
  body : String
  deriving DecidableEq, Repr

/-- Why a request has no value: it was not answered, not with success, or not with JSON. -/
inductive Failure where
  | transport
  | status (code : Nat)
  | parse
  deriving DecidableEq, Repr

/-- The status that a failure carries. -/
def Failure.status? : Failure → Option Nat
  | .status code => some code
  | .transport | .parse => none

def Reply.isSuccess (r : Reply) : Bool :=
  200 ≤ r.status && r.status < 300

/-- The body of a reply as JSON. -/
def Reply.json (r : Reply) : Except Failure Json :=
  match Json.parse? r.body with
  | some v => .ok v
  | none => .error .parse

/-- The value of a reply. -/
def Reply.value (r : Reply) : Except Failure Json :=
  if r.isSuccess then r.json else .error (.status r.status)

end PromptStudio.Remote

namespace PromptStudio

/-- What others answer to a request; none if it is not answered. -/
abbrev Remote : Type := Remote.Request → Option Remote.Reply

/-- The value of the answer to a request. -/
def Remote.ask (remote : Remote) (r : Remote.Request) : Except Remote.Failure Json :=
  match remote r with
  | some reply => reply.value
  | none => .error .transport

end PromptStudio
