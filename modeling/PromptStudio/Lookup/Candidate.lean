import PromptStudio.Binary64.Basic
import PromptStudio.Lookup.Flavor
import PromptStudio.Text.Lowercase

/-!
# Merging words by rank

Words found under several flavors are merged into one list. Of words that agree in small letters
the first counts. Words rank by their score less a penalty, in the total order of doubles, and
equal ones stay in their order.
-/

namespace PromptStudio.Lookup

/-- A word found under a flavor. -/
structure Candidate where
  text : String
  score : Binary64
  flavor : Flavor
  deriving DecidableEq

/-- What several words cost, and what a long text costs. -/
def spacePenalty : Nat := 60

def lengthPenalty : Nat := 30

/-- The most characters without a penalty. -/
def longestFree : Nat := 18

/-- The penalty of a text in the ranking. -/
def penalty (text : String) : Nat :=
  (if Text.hasBlank text then spacePenalty else 0) +
    (if longestFree < text.length then lengthPenalty else 0)

namespace Candidate

/-- The score less the penalty. -/
def adjusted (c : Candidate) : Binary64 :=
  c.score.sub (Binary64.ofInt (penalty c.text))

/-- Whether a word may stand before another. -/
def ranksBefore (a b : Candidate) : Bool :=
  b.adjusted.le a.adjusted

/-- The words whose text in small letters has not been seen before. -/
def distinctFrom (seen : List String) : List Candidate → List Candidate
  | [] => []
  | c :: cs =>
    let key := Text.lowercase c.text
    if key ∈ seen then distinctFrom seen cs else c :: distinctFrom (key :: seen) cs

/-- The words of the batches, merged: at most so many. -/
def merge (batches : List (List Candidate)) (limit : Nat) : List Candidate :=
  ((distinctFrom [] batches.flatten).mergeSort ranksBefore).take limit

end Candidate
end PromptStudio.Lookup
