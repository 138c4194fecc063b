import PromptStudio.Instant
import PromptStudio.Rejection
import PromptStudio.Remote.Basic

/-!
# Failures

Why a request has no answer of the kind it asked for, with a text for the log and the text shown
to the client.
-/

namespace PromptStudio

/-- Why a request fails. -/
inductive Failure where
  | notFound (message : String)
  | validation (message : String)
  | rateLimited (resetAt : Instant)
  | remote (cause : Remote.Failure)
  | database
  | internal
  deriving DecidableEq, Repr

/-- A rejection as a failure. -/
def Rejection.failure (r : Rejection) : Failure := .validation r.message

/-- The text of a remote failure. -/
def Remote.Failure.shown : Remote.Failure → String
  | .transport => "HTTP error"
  | .status code => "Upstream request failed (status " ++ Text.Numeral.ofNat code ++ ")"
  | .parse => "Upstream returned invalid JSON"

namespace Failure

/-- The text for the log. -/
def shown : Failure → String
  | notFound message => "Not found: " ++ message
  | validation message => "Validation error: " ++ message
  | rateLimited resetAt => "Rate limit exceeded until " ++ resetAt.shown
  | remote cause => "Upstream error: " ++ cause.shown
  | database => "Database error"
  | internal => "Internal server error"

/-- The status of the response. -/
def status : Failure → Nat
  | notFound _ => 404
  | validation _ => 400
  | rateLimited _ => 429
  | remote _ => 502
  | database => 500
  | internal => 500

def code : Failure → String
  | notFound _ => "NOT_FOUND"
  | validation _ => "VALIDATION_ERROR"
  | rateLimited _ => "RATE_LIMITED"
  | remote _ => "UPSTREAM_ERROR"
  | database => "DATABASE_ERROR"
  | internal => "INTERNAL_ERROR"

/-- The text for the client. Only the status of a remote failure is passed on. -/
def message : Failure → String
  | notFound message => message
  | validation message => message
  | rateLimited _ => "Rate limit exceeded"
  | remote cause =>
    match cause.status? with
    | some code => "Upstream request failed (" ++ Text.Numeral.ofNat code ++ ")"
    | none => "Upstream request failed"
  | database => "A database error occurred"
  | internal => "An internal server error occurred"

/-- The body of the response. -/
def body (f : Failure) : Json :=
  let reset : List (String × Json) :=
    match f with
    | rateLimited resetAt => [("reset_at", .str resetAt.stamp)]
    | _ => []
  .record [("error", .record ([("code", .str f.code), ("message", .str f.message)] ++ reset))]

end Failure
end PromptStudio
