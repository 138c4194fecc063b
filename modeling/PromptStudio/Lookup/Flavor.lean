import PromptStudio.Text.Blank

/-!
# Flavors of a word search

A flavor is one way in which words can belong to a term. A list of flavors is written as codes
between commas; unknown codes are skipped and a repeated one counts at its first place.
-/

namespace PromptStudio.Lookup

/-- How the words found belong to the term. -/
inductive Flavor where
  | meansLike
  | synonym
  | trigger
  | adjective
  | noun
  deriving DecidableEq, Repr

namespace Flavor

def all : List Flavor := [meansLike, synonym, trigger, adjective, noun]

/-- The flavors of a search that names none. -/
def standard : List Flavor := [meansLike, synonym, trigger]

def code : Flavor → String
  | meansLike => "ml"
  | synonym => "syn"
  | trigger => "trg"
  | adjective => "adj"
  | noun => "noun"

/-- The name of the query pair that carries the term. -/
def parameter : Flavor → String
  | meansLike => "ml"
  | synonym => "rel_syn"
  | trigger => "rel_trg"
  | adjective => "rel_jjb"
  | noun => "rel_jja"

def ofCode? (s : String) : Option Flavor :=
  all.find? fun f => f.code == s

/-- The members of a list, each once, in the order of first occurrence. -/
def firsts : List Flavor → List Flavor
  | [] => []
  | f :: fs => f :: (firsts fs).filter (· ≠ f)

/-- The flavors of a text of codes. -/
def ofList (s : String) : List Flavor :=
  firsts ((s.toList.splitOn ',').filterMap fun cs => ofCode? (Text.trim (String.ofList cs)))

end Flavor

/-- What becomes of a search in which one flavor fails: it goes without that flavor's words, or
it fails with the first failure in the order of the flavors. -/
inductive FailurePolicy where
  | isolate
  | failFast
  deriving DecidableEq, Repr

def FailurePolicy.ofCode? (s : String) : Option FailurePolicy :=
  if s = "isolate" then some .isolate
  else if s = "fail_fast" then some .failFast
  else none

end PromptStudio.Lookup
