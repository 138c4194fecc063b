import PromptStudio.Cache.Store
import PromptStudio.Json.Printer
import PromptStudio.Json.Reading

/-!
# Values that go stale

JSON values are kept as their text. A value older than the time to live, or one that cannot be
read, counts as absent; at the very end of the time it is still there. A write that fails is
dropped.
-/

namespace PromptStudio.Cache.Store

/-- The value under a key, if it is at most `ttl` milliseconds old. -/
def get? (s : Store) (key : String) (ttl : Int) (now : Instant) : Option Json :=
  match s.read key with
  | .ok (some e) => if ttl < now.since e.writtenAt then none else Json.parse? e.value
  | .ok none => none
  | .error _ => none

/-- The store with a value under a key, as of now. -/
def set (s : Store) (key : String) (value : Json) (now : Instant) : Store :=
  match s.write key ⟨value.print, now⟩ with
  | .ok s' => s'
  | .error _ => s

end PromptStudio.Cache.Store
