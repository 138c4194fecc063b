import PromptStudio.Json.Reading

/-!
# Typed records from JSON

A record format names its fields, their readers and their order. A record is read from an object,
in the order of its members, or from an array of its fields in their order. Members of unknown
names are skipped; a repeated field, under one name or two, is a fault where it is repeated.
-/

namespace PromptStudio.Json

/-- Why a text is no record: it is not JSON, or it is JSON of another shape. -/
inductive Fault where
  | malformed
  | unfit
  deriving DecidableEq, Repr

/-- The fault where a value of another kind is due. The value is read first, as far as one word
goes. -/
def Reading.mismatch : Reading → Fault
  | .cut | .number none | .text none => .malformed
  | _ => .unfit

def Reading.asText : Reading → Except Fault String
  | .text (some s) => .ok s
  | r => .error r.mismatch

def Reading.asReal : Reading → Except Fault Binary64
  | .number (some n) => .ok n.toReal
  | r => .error r.mismatch

/-- Null, or what `read` reads. -/
def Reading.asOption {α : Type} (read : Reading → Except Fault α) :
    Reading → Except Fault (Option α)
  | .null => .ok none
  | r => (read r).map some

/-- Reads items front to back; the array has to be closed after them. -/
def readList {α : Type} (read : Reading → Except Fault α) (closed : Bool) :
    List Reading → Except Fault (List α)
  | [] => if closed then .ok [] else .error .malformed
  | r :: rs =>
    match read r with
    | .error e => .error e
    | .ok a => (readList read closed rs).map (a :: ·)

def Reading.asList {α : Type} (read : Reading → Except Fault α) :
    Reading → Except Fault (List α)
  | .list items closed => readList read closed items
  | r => .error r.mismatch

/-- A variant by its name: a text, or an object whose only member has that name and null. An
object that does not begin with a name is a fault of the text. -/
def Reading.asVariant {α : Type} (named : String → Option α) : Reading → Except Fault α
  | .text (some s) =>
    match named s with
    | some a => .ok a
    | none => .error .unfit
  | .record ((.known s, r) :: more) closed =>
    match named s, r with
    | none, _ => .error .unfit
    | some a, .null => if more.isEmpty && closed then .ok a else .error .malformed
    | some _, r => .error r.mismatch
  | _ => .error .malformed

/-- A record format. `order` is the order of the fields in an array, and `named` knows the
aliases too. -/
structure Format where
  Field : Type
  decEq : DecidableEq Field
  Value : Field → Type
  order : List Field
  named : String → Option Field
  read : (f : Field) → Reading → Except Fault (Value f)

namespace Format

variable (F : Format)

/-- Fields with their values. -/
abbrev Items : Type := List ((f : F.Field) × F.Value f)

/-- The value of a field. -/
def get? (items : F.Items) (f : F.Field) : Option (F.Value f) :=
  match items with
  | [] => none
  | ⟨g, v⟩ :: rest =>
    match F.decEq g f with
    | .isTrue h => some (h ▸ v)
    | .isFalse _ => get? rest f

/-- Reads members front to back, after those done. -/
def readMembers (closed : Bool) (done : F.Items) :
    List (Name × Reading) → Except Fault F.Items
  | [] => if closed then .ok done else .error .malformed
  | (.known n, r) :: ms =>
    match F.named n with
    | some f =>
      if (F.get? done f).isSome then .error .unfit
      else match F.read f r with
        | .ok v => readMembers closed (⟨f, v⟩ :: done) ms
        | .error e => .error e
    | none => if r.sound then readMembers closed done ms else .error .malformed
  | _ :: _ => .error .malformed

/-- Reads the items of an array as the fields in order. Fields past the end are left out, and a
surplus item is a fault. -/
def readItems (closed : Bool) (done : F.Items) :
    List F.Field → List Reading → Except Fault F.Items
  | _, [] => if closed then .ok done else .error .malformed
  | [], _ :: _ => .error .malformed
  | f :: fs, r :: rs =>
    match F.read f r with
    | .ok v => readItems closed (⟨f, v⟩ :: done) fs rs
    | .error e => .error e

/-- The fields of a record that is an object or an array. -/
def readRecord (r : Reading) : Except Fault F.Items :=
  match r with
  | .record members closed => F.readMembers closed [] members
  | .list items closed => F.readItems closed [] F.order items
  | r => .error r.mismatch

end Format
end PromptStudio.Json
