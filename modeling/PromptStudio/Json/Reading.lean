import PromptStudio.Json.Token

/-!
# What a JSON text holds up to its first fault

A text is read front to back into a tree that keeps the order of the members, repeated names
included, and marks where the text stops being JSON. A reader of a typed document walks that
tree in the order of the text, so it meets the first of two faults first. A value read whole has
no fault, and of two members of one name the last counts.
-/

namespace PromptStudio.Json

/-- The name of a member: a text, or a quoted text with an escape that names no character. -/
inductive Name where
  | known (s : String)
  | unreadable

/-- What has been read of a value. An array or object that is not `closed` is followed by a
fault; `cut` stands where a value should and none begins. -/
inductive Reading where
  | null
  | bool (b : Bool)
  | number (n : Option Number)
  | text (s : Option String)
  | list (items : List Reading) (closed : Bool)
  | record (members : List (Name × Reading)) (closed : Bool)
  | cut
  deriving Inhabited

/-- An array or object under way, its content last first. A record knows the name whose value
is being read. -/
inductive Frame where
  | list (done : List Reading)
  | record (done : List (Name × Reading)) (name : Option Name)

/-- What may come next. -/
inductive Expect where
  | value
  | itemOrEnd
  | next
  | nameOrEnd
  | name
  | colon
  deriving DecidableEq

/-- A reading under way, innermost frame first, or at its end. After a clean end only white
space follows. -/
inductive Reader where
  | running (frames : List Frame) (expect : Expect)
  | finished (value : Reading) (clean : Bool)

/-- Closes the frames at a fault, the innermost around what was read of its last value. -/
def unwind : Option Reading → List Frame → Reading
  | r, [] => r.getD .cut
  | r, .list done :: frames => unwind (some (.list (r.toList ++ done).reverse false)) frames
  | r, .record done name :: frames =>
    let members := match name with
      | some n => (n, r.getD .cut) :: done
      | none => done
    unwind (some (.record members.reverse false)) frames

/-- Puts a complete value into the innermost frame. -/
def put (r : Reading) : List Frame → Reader
  | [] => .finished r true
  | .list done :: frames => .running (.list (r :: done) :: frames) .next
  | .record done name :: frames =>
    .running (.record ((name.toList.map (·, r)) ++ done) none :: frames) .next

/-- A word where a value is due. -/
def valueStep (frames : List Frame) (t : Token) : Reader :=
  match t with
  | .openList => .running (.list [] :: frames) .itemOrEnd
  | .openRecord => .running (.record [] none :: frames) .nameOrEnd
  | .null => put .null frames
  | .bool b => put (.bool b) frames
  | .number n => put (.number n) frames
  | .text s => put (.text s) frames
  | _ => .finished (unwind (some .cut) frames) false

/-- A word where a name is due. Only a quoted text is a name. -/
def nameStep (frames : List Frame) (t : Token) : Reader :=
  match t, frames with
  | .text (some s), .record done _ :: frames =>
    .running (.record done (some (.known s)) :: frames) .colon
  | .text none, .record done _ :: frames =>
    .running (.record done (some .unreadable) :: frames) .colon
  | _, frames => .finished (unwind none frames) false

/-- A word after a value. -/
def nextStep (frames : List Frame) (t : Token) : Reader :=
  match t, frames with
  | .comma, .list done :: frames => .running (.list done :: frames) .value
  | .comma, .record done _ :: frames => .running (.record done none :: frames) .name
  | .closeList, .list done :: frames => put (.list done.reverse true) frames
  | .closeRecord, .record done _ :: frames => put (.record done.reverse true) frames
  | _, frames => .finished (unwind none frames) false

/-- One word more. -/
def Reader.step (r : Reader) (t : Token) : Reader :=
  match r with
  | .finished value _ => .finished value false
  | .running frames .value => valueStep frames t
  | .running frames .itemOrEnd =>
    match t, frames with
    | .closeList, .list done :: frames => put (.list done.reverse true) frames
    | t, frames => valueStep frames t
  | .running frames .next => nextStep frames t
  | .running frames .nameOrEnd =>
    match t, frames with
    | .closeRecord, .record done _ :: frames => put (.record done.reverse true) frames
    | t, frames => nameStep frames t
  | .running frames .name => nameStep frames t
  | .running frames .colon =>
    match t with
    | .colon => .running frames .value
    | _ => .finished (unwind none frames) false

/-- What is read once the text has ended, and whether nothing but that value was there. -/
def Reader.finish : Reader → Reading × Bool
  | .finished value clean => (value, clean)
  | .running frames _ => (unwind none frames, false)

/-- Reads a text: the value at its front, and whether nothing but white space follows it. -/
def reading (s : String) : Reading × Bool :=
  ((tokens s.toList).foldl Reader.step (.running [] .value)).finish

mutual

/-- Whether a value is free of faults where nobody looks at it: any depth, any size of number
and any escape will do. -/
def Reading.sound : Reading → Bool
  | .list items closed => closed && soundItems items
  | .record members closed => closed && soundMembers members
  | .cut => false
  | _ => true

def soundItems : List Reading → Bool
  | [] => true
  | r :: rs => r.sound && soundItems rs

def soundMembers : List (Name × Reading) → Bool
  | [] => true
  | (_, r) :: ms => r.sound && soundMembers ms

end

mutual

/-- The value of a reading without faults, nested at most so deep. -/
def Reading.toJson? (depth : Nat) : Reading → Option Json
  | .null => some .null
  | .bool b => some (.bool b)
  | .number n => n.map .num
  | .text s => s.map .str
  | .list items closed =>
    if closed && depth != 0 then (itemsToJson? (depth - 1) items).map .arr else none
  | .record members closed =>
    if closed && depth != 0 then (membersToJson? (depth - 1) members []).map .obj else none
  | .cut => none

def itemsToJson? (depth : Nat) : List Reading → Option (List Json)
  | [] => some []
  | r :: rs =>
    match r.toJson? depth with
    | some v => (itemsToJson? depth rs).map (v :: ·)
    | none => none

def membersToJson? (depth : Nat) : List (Name × Reading) → List (String × Json) →
    Option (List (String × Json))
  | [], done => some done
  | (.known n, r) :: ms, done =>
    match r.toJson? depth with
    | some v => membersToJson? depth ms (insertMember n v done)
    | none => none
  | _ :: _, _ => none

end

/-- How deep arrays and objects may nest in a value read whole. -/
def depthLimit : Nat := 127

/-- The value of a text that is one JSON value, nested at most so deep. -/
def parseTo? (depth : Nat) (s : String) : Option Json :=
  match reading s with
  | (r, true) => r.toJson? depth
  | (_, false) => none

/-- The value of a text that is one JSON value. -/
def parse? (s : String) : Option Json :=
  parseTo? depthLimit s

mutual

/-- A value as the reading of its own text. -/
def toReading : Json → Reading
  | .null => .null
  | .bool b => .bool b
  | .num n => .number (some n)
  | .str s => .text (some s)
  | .arr items => .list (itemReadings items) true
  | .obj members => .record (memberReadings members) true

def itemReadings : List Json → List Reading
  | [] => []
  | v :: vs => toReading v :: itemReadings vs

def memberReadings : List (String × Json) → List (Name × Reading)
  | [] => []
  | (n, v) :: ms => (.known n, toReading v) :: memberReadings ms

end

end PromptStudio.Json
