import PromptStudio.Failure

/-!
# Requests and responses

Names of headers are the same in letters of either case, and of several headers of one name the
first counts. Every response with a body carries JSON.
-/

namespace PromptStudio.Http

inductive Method where
  | get
  | head
  | post
  | delete
  | other (name : String)
  deriving DecidableEq, Repr

def Method.ofName : String → Method
  | "GET" => get
  | "HEAD" => head
  | "POST" => post
  | "DELETE" => delete
  | name => other name

/-- Names and values, in order. -/
abbrev Headers : Type := List (String × String)

/-- Whether a value is visible ASCII, spaces and tabs. -/
def isPlain (s : String) : Bool :=
  s.toList.all fun c => c == '\t' || (' ' ≤ c && c ≤ '~')

/-- The first value of a header with a name in small letters. -/
def Headers.first? (headers : Headers) (name : String) : Option String :=
  (headers.find? fun header => header.1.toLower == name).map Prod.snd

/-- The first value of a header, if it is plain. -/
def Headers.plain? (headers : Headers) (name : String) : Option String :=
  (headers.first? name).filter isPlain

/-- The target is path and query, still encoded. -/
structure Request where
  method : Method
  target : String
  headers : Headers
  body : String

/-- The target up to a number sign. -/
def Request.targetChars (r : Request) : List Char :=
  r.target.toList.takeWhile (· != '#')

def Request.path (r : Request) : List Char :=
  r.targetChars.takeWhile (· != '?')

/-- What follows the first question mark. -/
def Request.query (r : Request) : List Char :=
  r.targetChars.drop (r.path.length + 1)

structure Response where
  status : Nat
  mediaType : Option String
  body : Option Json

namespace Response

def json (status : Nat) (v : Json) : Response :=
  ⟨status, some "application/json", some v⟩

/-- A response that is nothing but its status. -/
def bare (status : Nat) : Response :=
  ⟨status, none, none⟩

def ofFailure (f : Failure) : Response :=
  json f.status f.body

def ofRejection (r : Rejection) : Response :=
  ofFailure r.failure

/-- The response to a request for the head alone. -/
def head (r : Response) : Response :=
  { r with body := none }

end Response
end PromptStudio.Http
