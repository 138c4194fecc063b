import PromptStudio.Http.MediaType
import PromptStudio.Http.Message
import PromptStudio.Json.Record
import PromptStudio.Text.Utf8

/-!
# JSON bodies

A body has to be announced as JSON and may not be too long. It is read front to back, and what
follows its value is not looked at.
-/

namespace PromptStudio.Http

open Json (Fault Reading)

/-- The most bytes of a body. -/
def maxBodySize : Nat := 2097152

def rejectionOf : Fault → Rejection
  | .malformed => .bodyMalformed
  | .unfit => .bodyUnfit

def Request.announcesJson (r : Request) : Bool :=
  match r.headers.plain? "content-type" with
  | some s => MediaType.isJson s
  | none => false

/-- What `read` reads from the body. -/
def Request.readBody {α : Type} (r : Request) (read : Reading → Except Fault α) :
    Except Rejection α :=
  if !r.announcesJson then .error .contentType
  else if maxBodySize < Text.Utf8.size r.body then .error .bodySize
  else (read (Json.reading r.body).1).mapError rejectionOf

end PromptStudio.Http
