import PromptStudio.Binary64.Basic

/-!
# JSON values

A value is normal when the names of every object in it ascend strictly. Reading yields normal
values, and on them writing and reading are inverse to each other.
-/

namespace PromptStudio

/-- A number: an integer of 64 bits, signed or not, or a double. -/
inductive Json.Number where
  | int (value : Int) (inRange : -0x8000000000000000 ≤ value ∧ value < 0x10000000000000000)
  | real (value : Binary64)
  deriving DecidableEq

/-- A JSON value. -/
inductive Json where
  | null
  | bool (b : Bool)
  | num (n : Json.Number)
  | str (s : String)
  | arr (items : List Json)
  | obj (members : List (String × Json))
  deriving Inhabited

namespace Json

/-- The nearest double. -/
def Number.toReal : Number → Binary64
  | .int i _ => Binary64.ofInt i
  | .real x => x

/-- An integer as a number: a double where 64 bits do not hold it. -/
def Number.ofInt (i : Int) : Number :=
  if h : -0x8000000000000000 ≤ i ∧ i < 0x10000000000000000 then .int i h
  else .real (Binary64.ofInt i)

def ofInt (i : Int) : Json := .num (.ofInt i)

def ofReal (x : Binary64) : Json := .num (.real x)

/-- A text, or null. -/
def ofOption (s : Option String) : Json :=
  match s with
  | some s => .str s
  | none => .null

/-- Puts a member in its place by name. A member of the same name gives way. -/
def insertMember (name : String) (value : Json) :
    List (String × Json) → List (String × Json)
  | [] => [(name, value)]
  | (n, v) :: rest =>
    if name < n then (name, value) :: (n, v) :: rest
    else if name = n then (name, value) :: rest
    else (n, v) :: insertMember name value rest

/-- An object of the members, of which the last of each name counts. -/
def record (members : List (String × Json)) : Json :=
  .obj (members.foldl (fun acc m => insertMember m.1 m.2 acc) [])

/-- The value of a member of an object. -/
def get? (v : Json) (name : String) : Option Json :=
  match v with
  | .obj members => members.lookup name
  | _ => none

mutual

/-- How many arrays and objects the innermost value lies in. -/
def depth : Json → Nat
  | .arr items => depthOfItems items + 1
  | .obj members => depthOfMembers members + 1
  | _ => 0

def depthOfItems : List Json → Nat
  | [] => 0
  | v :: vs => max (depth v) (depthOfItems vs)

def depthOfMembers : List (String × Json) → Nat
  | [] => 0
  | (_, v) :: ms => max (depth v) (depthOfMembers ms)

end

mutual

/-- In every object the names ascend strictly. -/
def Normal : Json → Prop
  | .arr items => NormalItems items
  | .obj members => members.Pairwise (fun a b => a.1 < b.1) ∧ NormalMembers members
  | _ => True

def NormalItems : List Json → Prop
  | [] => True
  | v :: vs => Normal v ∧ NormalItems vs

def NormalMembers : List (String × Json) → Prop
  | [] => True
  | (_, v) :: ms => Normal v ∧ NormalMembers ms

end

end Json
end PromptStudio
