import PromptStudio.Http.Form
import PromptStudio.Http.MediaType
import PromptStudio.Remote.Basic
import PromptStudio.Text.Numeral

/-!
# Requests and replies on the wire

The query pairs of a request are form-encoded and put behind the query that its path has already.
A reply is a status line, headers and a body, which ends where its length or its chunks say, or
else with the connection.
-/

namespace PromptStudio.Remote.Wire

/-- The target of a request. Path and query are given as they may stand there, so nothing in them
is escaped, and no segment is resolved. What follows a number sign in the path is not sent, and an
empty path is a slash. -/
def target (path : String) (pairs : List (String × String)) : String :=
  let cs := path.toList.takeWhile (· != '#')
  let front := cs.takeWhile (· != '?')
  let query := cs.drop (front.length + 1)
  let encoded := Http.Form.encode pairs
  let whole :=
    if query.isEmpty then encoded
    else if encoded.isEmpty then query
    else query ++ '&' :: encoded
  let place := if front.isEmpty then ['/'] else front
  String.ofList (if whole.isEmpty then place else place ++ '?' :: whole)

def requestLine (path : String) (pairs : List (String × String)) : String :=
  "GET " ++ target path pairs ++ " HTTP/1.1"

/-- Whether a text can be the value of a header: it has no control character but tabs. -/
def isHeaderValue (s : String) : Bool :=
  s.toList.all fun c => c == '\t' || (c.toNat ≥ 32 && c.toNat != 127)

/-- The headers of every request. -/
def headers (userAgent : String) : List (String × String) :=
  [("user-agent", userAgent), ("accept", "application/json")]

/-- The lines up to the first empty one, each without its end, and what follows that. -/
def splitHead : List Char → List Char → Option (List (List Char) × List Char)
  | _, [] => none
  | line, '\n' :: rest =>
    let line := if line.head? = some '\r' then line.tail else line
    if line.isEmpty then some ([], rest)
    else (splitHead [] rest).map fun (lines, body) => (line.reverse :: lines, body)
  | line, c :: rest => splitHead (c :: line) rest

/-- The status of a status line. -/
def status? (line : List Char) : Option Nat :=
  match ["HTTP/1.1 ", "HTTP/1.0 "].findSome? fun s => s.toList.isPrefixOf? line with
  | some (a :: b :: c :: rest) =>
    if rest.head?.all (· == ' ') && [a, b, c].all Char.isDigit && a != '0' then
      (Text.Numeral.readNat 1000 [a, b, c]).toOption
    else none
  | _ => none

/-- Name in small letters and value of a header line. -/
def header? (line : List Char) : Option (String × String) :=
  let name := line.takeWhile Http.MediaType.isToken
  match line.dropWhile Http.MediaType.isToken with
  | ':' :: value =>
    let isGap (c : Char) : Bool := c == ' ' || c == '\t'
    let value := ((value.dropWhile isGap).reverse.dropWhile isGap).reverse
    if name.isEmpty then none
    else some ((String.ofList name).toLower, String.ofList value)
  | _ => none

/-- The hexadecimal digits that bytes begin with. -/
def leadingDigits (bytes : List UInt8) : List Nat :=
  ((bytes.map fun b => Text.Percent.hexValue? (Char.ofNat b.toNat)).takeWhile
    Option.isSome).filterMap id

/-- The number of digits to the base sixteen. -/
def hexNumber (digits : List Nat) : Nat :=
  digits.foldl (fun n d => 16 * n + d) 0

/-- What follows the first line feed. -/
def afterLine (bytes : List UInt8) : List UInt8 :=
  (bytes.dropWhile (· != 10)).drop 1

theorem length_afterLine_le (bytes : List UInt8) : (afterLine bytes).length ≤ bytes.length :=
  Nat.le_trans (List.drop_sublist 1 _).length_le (List.dropWhile_sublist _).length_le

/-- The content of chunks, each after a line with its size in hexadecimal digits. -/
def chunks? (bytes : List UInt8) : Option (List UInt8) :=
  if leadingDigits bytes = [] then none
  else if hexNumber (leadingDigits bytes) = 0 then some []
  else if hexNumber (leadingDigits bytes) + 2 ≤ (afterLine bytes).length then
    let size := hexNumber (leadingDigits bytes)
    (chunks? ((afterLine bytes).drop (size + 2))).map ((afterLine bytes).take size ++ ·)
  else none
termination_by bytes.length
decreasing_by
  have h := length_afterLine_le bytes
  rw [List.length_drop]
  omega

/-- The body of a reply with these headers. -/
def body? (headers : List (String × String)) (bytes : List UInt8) : Option (List UInt8) :=
  match headers.lookup "transfer-encoding", headers.lookup "content-length" with
  | some coding, _ => if coding.toLower == "chunked" then chunks? bytes else none
  | none, some length =>
    match Text.Numeral.readNat Text.Numeral.limit64 length.toList with
    | .ok n => if bytes.length < n then none else some (bytes.take n)
    | .error _ => none
  | none, none => some bytes

/-- The text of a body: a byte order mark at its start is left out. -/
def bodyText (bytes : List UInt8) : String :=
  match Text.Utf8.decode bytes with
  | '\uFEFF' :: cs => String.ofList cs
  | cs => String.ofList cs

/-- The reply that a text is; none if it is cut or is no reply. -/
def reply? (raw : String) : Option Reply := do
  let (lines, rest) ← splitHead [] raw.toList
  let (first, others) ← lines.head?.map fun first => (first, lines.tail)
  let status ← status? first
  let headers ← others.mapM header?
  let bare := status = 204 ∨ status = 304
  let body ← if bare then some [] else body? headers (Text.Utf8.encode rest)
  return ⟨status, bodyText body⟩

end PromptStudio.Remote.Wire
