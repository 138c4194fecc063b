import PromptStudio.Project.Shelf
import PromptStudio.Prompt.Codec
import PromptStudio.Rejection
import PromptStudio.Text.Blank

/-!
# Projects as JSON

A draft is what a client sends to be saved. Its fields but the identifier are required. A project
is shown with its document or, in a list, without it.
-/

namespace PromptStudio.Project

open Json (Reading Fault Format)

/-- A document to be saved. Without an identifier it is a new project. -/
structure Draft where
  session : Uuid
  id : Option Uuid
  name : String
  document : Prompt.Document
  deriving DecidableEq

inductive DraftField where
  | session
  | id
  | name
  | document
  deriving DecidableEq

@[reducible] def DraftField.Value : DraftField → Type
  | session => Uuid
  | id => Option Uuid
  | name => String
  | document => Prompt.Document

def DraftField.named : String → Option DraftField
  | "session_id" => some session
  | "id" => some id
  | "name" => some name
  | "payload" => some document
  | _ => none

/-- An identifier from a text. -/
def readId (r : Reading) : Except Fault Uuid :=
  match r.asText with
  | .error e => .error e
  | .ok s =>
    match Uuid.ofText? s with
    | some u => .ok u
    | none => .error .unfit

def DraftField.read : (f : DraftField) → Reading → Except Fault f.Value
  | session => readId
  | id => Reading.asOption readId
  | name => Reading.asText
  | document => Prompt.Document.read

def Draft.format : Format where
  Field := DraftField
  decEq := inferInstance
  Value := DraftField.Value
  order := [.session, .id, .name, .document]
  named := DraftField.named
  read := DraftField.read

def Draft.ofItems (items : Draft.format.Items) : Except Fault Draft :=
  let get := Draft.format.get? items
  match get DraftField.session, get DraftField.name, get DraftField.document with
  | some session, some name, some document =>
    .ok ⟨session, (get DraftField.id).getD none, name, document⟩
  | _, _, _ => .error .unfit

def Draft.read (r : Reading) : Except Fault Draft :=
  match Draft.format.readRecord r with
  | .ok items => Draft.ofItems items
  | .error e => .error e

def maxNameLength : Nat := 60

/-- A trimmed name of 1 to 60 characters. -/
def projectName (s : String) : Except Rejection String :=
  let t := Text.trim s
  if t = "" then .error .emptyName
  else if maxNameLength < t.length then .error (.longName maxNameLength)
  else .ok t

/-- A project without its document. -/
def Saved.summary (id : Uuid) (p : Saved) : Json :=
  .record [("id", .str id.text), ("name", .str p.name), ("updated_at", .str p.updatedAt.stamp)]

/-- A project with its document. -/
def Saved.toJson (id : Uuid) (p : Saved) : Json :=
  .record [("id", .str id.text), ("name", .str p.name), ("payload", p.document.toJson),
    ("updated_at", .str p.updatedAt.stamp)]

end PromptStudio.Project
