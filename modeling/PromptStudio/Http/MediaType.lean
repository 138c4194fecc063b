/-!
# Media types

A media type is a type and a subtype of token characters around a slash, and parameters after
semicolons, the first of which stands right behind the subtype. Letters of either case are the
same, and a suffix of the subtype after a plus sign says what it is built on.
-/

namespace PromptStudio.Http.MediaType

/-- The characters of names: letters, digits and fifteen marks. -/
def isToken (c : Char) : Bool :=
  c.isAlphanum || "!#$%&'*+-.^_\x60|~".toList.contains c

/-- The characters between quotes: those that are no control characters. -/
def isQuotable (c : Char) : Bool :=
  c.toNat > 31 && c.toNat != 127

/-- Where a reader of parameters stands. -/
inductive Stage where
  | gap
  | name
  | valueStart
  | value
  | quoteStart
  | quoted
  | afterQuote
  | broken

/-- The stage after a character. A quote cannot be the first character of a quoted value. -/
def Stage.next (stage : Stage) (c : Char) : Stage :=
  match stage with
  | gap => if c == ' ' then gap else if isToken c then name else broken
  | name => if c == '=' then valueStart else if isToken c then name else broken
  | valueStart => if c == '"' then quoteStart else if isToken c then value else broken
  | value => if c == ';' then gap else if isToken c then value else broken
  | quoteStart => if isQuotable c then quoted else broken
  | quoted => if c == '"' then afterQuote else if isQuotable c then quoted else broken
  | afterQuote => if c == ';' then gap else if c == ' ' then afterQuote else broken
  | broken => broken

/-- Whether the parameters may end here. -/
def Stage.isComplete : Stage → Bool
  | gap | valueStart | value | afterQuote => true
  | name | quoteStart | quoted | broken => false

/-- Whether a text is a list of parameters with semicolons between them. -/
def areParameters (cs : List Char) : Bool :=
  (cs.foldl Stage.next .gap).isComplete

/-- The part of a subtype after its last plus sign, which is not its first character. -/
def suffix? (subtype : List Char) : Option (List Char) :=
  let tail := (subtype.reverse.takeWhile (· != '+')).reverse
  if tail.length + 1 < subtype.length then some tail else none

/-- Whether a subtype is JSON or built on it. -/
def isJsonSubtype (subtype : List Char) : Bool :=
  subtype == "json".toList ||
    match suffix? subtype with
    | some s => s == "json".toList || subtype.take (subtype.length - s.length - 1) == "json".toList
    | none => false

/-- Whether a text is a media type for JSON. -/
def isJson (s : String) : Bool :=
  let cs := s.toList.map Char.toLower
  match "application/".toList.isPrefixOf? cs with
  | none => false
  | some rest =>
    let subtype := rest.takeWhile isToken
    isJsonSubtype subtype &&
      match rest.dropWhile isToken with
      | [] => true
      | c :: parameters => c == ';' && areParameters parameters

end PromptStudio.Http.MediaType
