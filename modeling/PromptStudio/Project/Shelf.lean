import PromptStudio.Instant
import PromptStudio.Prompt.Document
import PromptStudio.Table
import PromptStudio.Uuid

/-!
# Saved projects

A shelf keeps named documents by identifier. Each belongs to the session that saved it first, and
no other session can see, change or remove it. Every character may stand in a name or a document,
the null character among them.
-/

namespace PromptStudio.Project

/-- A saved document with its owner, its name and the time of its last save. -/
structure Saved where
  session : Uuid
  name : String
  document : Prompt.Document
  updatedAt : Instant
  deriving DecidableEq

/-- Projects by identifier. -/
abbrev Shelf : Type := Table Uuid Saved

namespace Shelf

/-- The shelf with a project saved; none if the identifier belongs to another session. -/
def save? (s : Shelf) (id : Uuid) (p : Saved) : Option Shelf :=
  match s.get? id with
  | none => some (s.put id p)
  | some old => if old.session = p.session then some (s.put id p) else none

/-- The project of a session under an identifier. -/
def find? (s : Shelf) (session id : Uuid) : Option Saved :=
  (s.get? id).filter fun p => p.session == session

/-- The shelf without a project, if the session owns it. -/
def remove (s : Shelf) (session id : Uuid) : Shelf :=
  if (s.find? session id).isSome then s.erase id else s

/-- How many projects are listed at most. -/
def listLimit : Nat := 50

/-- Whether a project may be listed before another. -/
def listedBefore (a b : Uuid × Saved) : Bool :=
  b.2.updatedAt.millis ≤ a.2.updatedAt.millis

/-- The projects of a session, the last saved ones first. -/
def list (s : Shelf) (session : Uuid) : List (Uuid × Saved) :=
  ((s.entries.filter fun e => e.2.session == session).mergeSort listedBefore).take listLimit

end Shelf
end PromptStudio.Project
