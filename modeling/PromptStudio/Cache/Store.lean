import PromptStudio.Instant
import PromptStudio.Table

/-!
# Cache stores

A store keeps one text with its time of writing under a key; the last write counts. It keeps
them in memory, or as hashes on a server that others may write to as well, or it fails every
call.
-/

namespace PromptStudio.Cache

/-- A text and the time of its writing. -/
structure Entry where
  value : String
  writtenAt : Instant
  deriving DecidableEq

/-- Why a store has no answer: the entry under a key is damaged, or the server's answer is. -/
inductive Fault where
  | corrupt (key : String)
  | server
  deriving DecidableEq, Repr

def Fault.message : Fault → String
  | corrupt key => "Corrupt cache entry for '" ++ key ++ "'"
  | server => "Redis error"

/-- The hashes of a server: named fields under each of its keys. -/
abbrev Server : Type := Table String (Table String String)

/-- Where entries are kept. -/
inductive Store where
  | memory (entries : Table String Entry)
  | hashes (server : Server)
  | failing

/-- The server's key for a key. -/
def serverKey (key : String) : String := "cache:" ++ key

def valueField : String := "value"

def timeField : String := "written_at"

/-- The server's number of 64 bits for a text. -/
def time? (s : String) : Option Int :=
  (Text.Numeral.readInt Text.Numeral.signedLimit64 s.toList).toOption

/-- The entry that a hash holds. A time that is no number is the server's fault; one field
without the other, or a time outside the calendar, is damage. -/
def Entry.ofHash (key : String) (hash : Option (Table String String)) :
    Except Fault (Option Entry) :=
  let field (name : String) : Option String := hash.bind fun h => h.get? name
  match field valueField, field timeField with
  | none, none => .ok none
  | value, some s =>
    match time? s, value with
    | none, _ => .error .server
    | some _, none => .error (.corrupt key)
    | some ms, some text =>
      match Instant.ofMillis? ms with
      | some t => .ok (some ⟨text, t⟩)
      | none => .error (.corrupt key)
  | some _, none => .error (.corrupt key)

/-- A hash with the fields of an entry put into it. -/
def Entry.intoHash (e : Entry) (hash : Option (Table String String)) : Table String String :=
  ((hash.getD .empty).put valueField e.value).put timeField
    (String.ofList (Text.Numeral.intDigits e.writtenAt.millis))

namespace Store

/-- The entry under a key. -/
def read (s : Store) (key : String) : Except Fault (Option Entry) :=
  match s with
  | .memory entries => .ok (entries.get? key)
  | .hashes server => Entry.ofHash key (server.get? (serverKey key))
  | .failing => .error (.corrupt key)

/-- The store with an entry under a key. -/
def write (s : Store) (key : String) (e : Entry) : Except Fault Store :=
  match s with
  | .memory entries => .ok (.memory (entries.put key e))
  | .hashes server =>
    .ok (.hashes (server.put (serverKey key) (e.intoHash (server.get? (serverKey key)))))
  | .failing => .error (.corrupt key)

end Store
end PromptStudio.Cache
