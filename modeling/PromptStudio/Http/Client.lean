import PromptStudio.Http.Message
import PromptStudio.Text.Blank

/-!
# Who asks

A client is known by the first hop that its request was forwarded for, else by its real address,
else not at all. Budgets are kept by this identity.
-/

namespace PromptStudio.Http

/-- What is before the first comma. -/
def firstHop (s : String) : String :=
  String.ofList (s.toList.takeWhile (· != ','))

/-- The identity of the client. -/
def Headers.client (headers : Headers) : String :=
  let forwarded := (headers.plain? "x-forwarded-for").bind fun s => Text.nonBlank? (firstHop s)
  let real := (headers.plain? "x-real-ip").bind Text.nonBlank?
  (forwarded.or real).getD "unknown"

end PromptStudio.Http
