import PromptStudio.Admission.Ledger
import PromptStudio.Lookup.Discover
import PromptStudio.Lookup.Subject

/-!
# Sources of a lookup

A source has a budget of its own, knows its parameters by name and answers with the members of a
JSON object. All that is wrong with the parameters is found before anything is asked.
-/

namespace PromptStudio.Lookup

/-- Where is looked up. -/
inductive Source where
  | discover
  | dictionary
  | wikipedia
  | wikidata
  | conceptnet
  deriving DecidableEq, Repr

namespace Source

def policy : Source → Admission.Policy
  | discover => .discover
  | dictionary => .dictionary
  | wikipedia => .wikipedia
  | wikidata => .wikidata
  | conceptnet => .conceptnet

/-- The names of the parameters. -/
def parameters : Source → List String
  | discover => ["term", "topics", "max", "flavors", "policy"]
  | dictionary => ["word"]
  | wikipedia => ["mode", "q", "title"]
  | wikidata => ["mode", "q", "id"]
  | conceptnet => ["term", "limit"]

end Source

/-- What an answer says beside the budget. -/
abbrev Members : Type := List (String × Json)

/-- The members that name the subject. -/
def Subject.members : Subject → Members
  | .word w => [("word", .str w)]
  | .pages q => [("mode", .str "search"), ("subject", .str q)]
  | .summary title => [("mode", .str "summary"), ("subject", .str title)]
  | .entities q => [("mode", .str "search"), ("subject", .str q)]
  | .attributes id => [("mode", .str "attrs"), ("subject", .str id)]
  | .relations t _ => [("term", .str t)]

/-- What a remote failure means: where only one entry can be found, status 404 says that there
is none. -/
def Subject.failure (s : Subject) (e : Remote.Failure) : Failure :=
  match s.entry?, e.status? with
  | some name, some 404 => .notFound ("No entry for '" ++ name ++ "'")
  | _, _ => .remote e

/-- The members of the answer. -/
def Subject.lookUp (s : Subject) (remote : Remote) (now : Instant) (store : Cache.Store) :
    Fetched (Except Failure Members) :=
  let fetched := s.query.fetch remote now store
  let outcome :=
    match fetched.outcome with
    | .ok v => .ok (s.members ++ [("data", v)])
    | .error e => .error (s.failure e)
  ⟨outcome, fetched.store, fetched.sent⟩

/-- The failure policy of a name: by default one flavor's failure is its own. -/
def FailurePolicy.ofParameter (s : Option String) : Except Rejection FailurePolicy :=
  match s.bind Text.nonBlank? with
  | none => .ok .isolate
  | some code =>
    match FailurePolicy.ofCode? code with
    | some p => .ok p
    | none => .error (.unknownPolicy code)

/-- The flavors of a text of codes: the standard ones if it is blank. -/
def Flavor.ofParameter (s : Option String) : List Flavor :=
  match s with
  | some codes => if Text.trim codes = "" then standard else ofList codes
  | none => standard

/-- The search that the parameters ask for, its term unchecked. -/
def Discovery.ofParameters (get : Parameters) : Except Rejection Discovery := do
  let limit ← count "max" (get "max")
  let policy ← FailurePolicy.ofParameter (get "policy")
  return ⟨(get "term").getD "", Lookup.topics (get "topics"), limit,
    Flavor.ofParameter (get "flavors"), policy⟩

def Candidate.toJson (c : Candidate) : Json :=
  .record [("word", .str c.text), ("score", .ofReal c.score),
    ("penalty", .ofReal (Binary64.ofInt (penalty c.text))), ("flavor", .str c.flavor.code)]

/-- The members of the answer. -/
def Discovery.lookUp (d : Discovery) (remote : Remote) (now : Instant) (store : Cache.Store) :
    Fetched (Except Failure Members) :=
  let fetched := d.run remote now store
  let outcome :=
    match fetched.outcome with
    | .ok items =>
      .ok [("term", .str (Text.trim d.term)), ("topics", .ofOption d.topics),
        ("items", .arr (items.map Candidate.toJson))]
    | .error e => .error e
  ⟨outcome, fetched.store, fetched.sent⟩

/-- A question with its parameters read. -/
inductive Question where
  | words (d : Discovery)
  | subject (s : Subject)

/-- The question that the parameters put to a source. -/
def Source.read (s : Source) (get : Parameters) : Except Rejection Question :=
  match s with
  | discover => (Discovery.ofParameters get).map .words
  | dictionary => (Subject.ofDictionary get).map .subject
  | wikipedia => (Subject.ofWikipedia get).map .subject
  | wikidata => (Subject.ofWikidata get).map .subject
  | conceptnet => (Subject.ofConceptnet get).map .subject

def Question.lookUp (q : Question) (remote : Remote) (now : Instant) (store : Cache.Store) :
    Fetched (Except Failure Members) :=
  match q with
  | .words d => d.lookUp remote now store
  | .subject s => s.lookUp remote now store

/-- The members of the answer to the parameters. A rejection answers without a request. -/
def Source.lookUp (s : Source) (get : Parameters) (remote : Remote) (now : Instant)
    (store : Cache.Store) : Fetched (Except Failure Members) :=
  match s.read get with
  | .ok q => q.lookUp remote now store
  | .error r => ⟨.error r.failure, store, []⟩

end PromptStudio.Lookup
