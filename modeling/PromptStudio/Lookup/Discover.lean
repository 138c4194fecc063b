import PromptStudio.Failure
import PromptStudio.Json.Record
import PromptStudio.Lookup.Candidate
import PromptStudio.Lookup.Fetch
import PromptStudio.Lookup.Term

/-!
# Discovering words

One query per flavor is put to the word service, and the words found are merged in the order of
the flavors. A failure of one flavor keeps none of the others from running to its end.
-/

namespace PromptStudio.Lookup

open Json (Reading Fault Format)

def wordsUrl : String := "https://api.datamuse.com/words"

/-- A search for words. -/
structure Discovery where
  term : String
  topics : Option String
  limit : Nat
  flavors : List Flavor
  policy : FailurePolicy
  deriving DecidableEq

/-- The query for one flavor. -/
def flavorQuery (f : Flavor) (topics : Option String) (term : String) (limit : Nat) : Query where
  request :=
    ⟨wordsUrl, [("max", Text.Numeral.ofNat limit)] ++
      (topics.toList.map fun t => ("topics", t)) ++ [(f.parameter, term)]⟩
  key := "dm:" ++ f.code ++ ":" ++ topics.getD "" ++ ":" ++ term ++ ":" ++ Text.Numeral.ofNat limit
  ttl := day

inductive WordField where
  | word
  | score
  deriving DecidableEq

@[reducible] def WordField.Value : WordField → Type
  | word => String
  | score => Option Binary64

def WordField.named : String → Option WordField
  | "word" => some word
  | "score" => some score
  | _ => none

def WordField.read : (f : WordField) → Reading → Except Fault f.Value
  | word => Reading.asText
  | score => Reading.asOption Reading.asReal

def wordFormat : Format where
  Field := WordField
  decEq := inferInstance
  Value := WordField.Value
  order := [.word, .score]
  named := WordField.named
  read := WordField.read

/-- A word with its score, which is zero if absent. -/
def readWord (f : Flavor) (r : Reading) : Except Fault Candidate :=
  match wordFormat.readRecord r with
  | .error e => .error e
  | .ok items =>
    match wordFormat.get? items WordField.word with
    | none => .error .unfit
    | some word =>
      let score := ((wordFormat.get? items WordField.score).getD none).getD Binary64.zero
      .ok ⟨word, score, f⟩

/-- The words of a reply. -/
def words (f : Flavor) (v : Json) : Except Remote.Failure (List Candidate) :=
  match v.toReading.asList (readWord f) with
  | .ok cs => .ok cs
  | .error _ => .error .parse

/-- The words of one flavor. -/
def fetchFlavor (remote : Remote) (now : Instant) (d : Discovery) (term : String)
    (store : Cache.Store) (f : Flavor) : Fetched (Except Remote.Failure (List Candidate)) :=
  let fetched := (flavorQuery f (topics d.topics) term d.limit).fetch remote now store
  ⟨fetched.outcome.bind (words f), fetched.store, fetched.sent⟩

/-- The words of the flavors, one after the other. -/
def fetchFlavors (remote : Remote) (now : Instant) (d : Discovery) (term : String) :
    Cache.Store → List Flavor → Fetched (List (Except Remote.Failure (List Candidate)))
  | store, [] => ⟨[], store, []⟩
  | store, f :: fs =>
    let first := fetchFlavor remote now d term store f
    let rest := fetchFlavors remote now d term first.store fs
    ⟨first.outcome :: rest.outcome, rest.store, first.sent ++ rest.sent⟩

/-- The batches of the flavors that did not fail. -/
def successes (outcomes : List (Except Remote.Failure (List Candidate))) :
    List (List Candidate) :=
  outcomes.filterMap Except.toOption

/-- The first failure. -/
def firstFailure? (outcomes : List (Except Remote.Failure (List Candidate))) :
    Option Remote.Failure :=
  outcomes.findSome? fun
    | .error e => some e
    | .ok _ => none

/-- The merged words of the outcomes, or the failure that the policy asks for. -/
def Discovery.conclude (d : Discovery)
    (outcomes : List (Except Remote.Failure (List Candidate))) :
    Except Remote.Failure (List Candidate) :=
  match d.policy, firstFailure? outcomes with
  | .failFast, some e => .error e
  | _, _ => .ok (Candidate.merge (successes outcomes) d.limit)

/-- The words of a search. A term that is no term is rejected before anything is asked. -/
def Discovery.run (d : Discovery) (remote : Remote) (now : Instant) (store : Cache.Store) :
    Fetched (Except Failure (List Candidate)) :=
  match Lookup.term d.term with
  | .error e => ⟨.error e.failure, store, []⟩
  | .ok t =>
    let fetched := fetchFlavors remote now d t store d.flavors
    ⟨(d.conclude fetched.outcome).mapError Failure.remote, fetched.store, fetched.sent⟩

end PromptStudio.Lookup
