import PromptStudio.Lookup.Address
import PromptStudio.Lookup.Fetch
import PromptStudio.Lookup.Term

/-!
# What one request can be about

A subject is what a lookup of a word, a page, an entity or its relations asks for, with its
parameters checked. It fixes the request, the key its value is kept under and the time it is kept.
-/

namespace PromptStudio.Lookup

/-- What is looked up by one request. -/
inductive Subject where
  | word (word : String)
  | pages (query : String)
  | summary (title : String)
  | entities (query : String)
  | attributes (id : String)
  | relations (term : String) (limit : Nat)
  deriving DecidableEq, Repr

def wordPlace : Place :=
  ⟨"https://api.dictionaryapi.dev", ["api", "v2", "entries", "en"]⟩

def summaryPlace : Place :=
  ⟨"https://en.wikipedia.org", ["api", "rest_v1", "page", "summary"]⟩

def relationPlace : Place :=
  ⟨"https://api.conceptnet.io", ["c", "en"]⟩

def pagesUrl : String := "https://en.wikipedia.org/w/rest.php/v1/search/title"

def entitiesUrl : String := "https://www.wikidata.org/w/api.php"

def attributesUrl : String := "https://query.wikidata.org/sparql"

/-- The query for the label, the description and five properties of an entity. -/
def attributeQuery (id : String) : String :=
  "SELECT ?item ?itemLabel ?itemDescription ?instanceOfLabel ?countryLabel ?locationLabel " ++
  "?coord ?image WHERE \x7b\n" ++
  "  BIND(wd:" ++ id ++ " AS ?item)\n" ++
  "  OPTIONAL \x7b ?item wdt:P31 ?instanceOf. \x7d\n" ++
  "  OPTIONAL \x7b ?item wdt:P17 ?country. \x7d\n" ++
  "  OPTIONAL \x7b ?item wdt:P276 ?location. \x7d\n" ++
  "  OPTIONAL \x7b ?item wdt:P625 ?coord. \x7d\n" ++
  "  OPTIONAL \x7b ?item wdt:P18 ?image. \x7d\n" ++
  "  SERVICE wikibase:label \x7b bd:serviceParam wikibase:language \"en\". \x7d\n" ++
  "\x7d\nLIMIT 25"

namespace Subject

def request : Subject → Remote.Request
  | word w => ⟨wordPlace.below w, []⟩
  | pages q => ⟨pagesUrl, [("q", q), ("limit", "10")]⟩
  | summary title => ⟨summaryPlace.below title, []⟩
  | entities q =>
    ⟨entitiesUrl, [("action", "wbsearchentities"), ("search", q), ("language", "en"),
      ("format", "json"), ("limit", "10")]⟩
  | attributes id => ⟨attributesUrl, [("format", "json"), ("query", attributeQuery id)]⟩
  | relations t limit => ⟨relationPlace.below t, [("limit", Text.Numeral.ofNat limit)]⟩

/-- The key of the value. -/
def key : Subject → String
  | word w => "dict:" ++ w
  | pages q => "wp:search:" ++ q
  | summary title => "wp:sum:" ++ title
  | entities q => "wd:search:" ++ q
  | attributes id => "wd:attrs:" ++ id
  | relations t limit => "cn:" ++ t ++ ":" ++ Text.Numeral.ofNat limit

/-- The days that a value is kept. -/
def days : Subject → Int
  | word _ => 7
  | pages _ => 1
  | summary _ => 7
  | entities _ => 7
  | attributes _ => 14
  | relations _ _ => 3

def query (s : Subject) : Query :=
  ⟨s.request, s.key, s.days * day⟩

/-- The name of the only entry that a request can find. -/
def entry? : Subject → Option String
  | word w => some w
  | summary title => some title
  | _ => none

end Subject

/-- The parameters of a lookup by name. -/
abbrev Parameters : Type := String → Option String

def maxQueryLength : Nat := 120

def maxTitleLength : Nat := 200

/-- How a service with two ways of asking is asked. -/
def mode (get : Parameters) : String :=
  ((get "mode").bind Text.nonBlank?).getD "search"

namespace Subject

def ofDictionary (get : Parameters) : Except Rejection Subject := do
  let w ← term ((get "word").getD "")
  return word w

def ofWikipedia (get : Parameters) : Except Rejection Subject :=
  match mode get with
  | "search" => do return pages (← required "q" maxQueryLength (get "q"))
  | "summary" => do return summary (← required "title" maxTitleLength (get "title"))
  | other => .error (.unknownMode other)

def ofWikidata (get : Parameters) : Except Rejection Subject :=
  match mode get with
  | "search" => do return entities (← required "q" maxQueryLength (get "q"))
  | "attrs" => do return attributes (← entityId (get "id"))
  | other => .error (.unknownMode other)

def ofConceptnet (get : Parameters) : Except Rejection Subject := do
  let t ← term ((get "term").getD "")
  let limit ← count "limit" (get "limit")
  return relations t limit

end Subject
end PromptStudio.Lookup
