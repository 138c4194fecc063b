import PromptStudio.Text.Percent

/-!
# Addresses with one segment more

A place on a site is its origin and its path segments. A text is put below a place as one more
segment: what would end the segment or the path is percent-encoded, tabs and line breaks are left
out, and the segments `.` and `..` put nothing there.
-/

namespace PromptStudio.Lookup

/-- A place on a site. -/
structure Place where
  origin : String
  segments : List String
  deriving DecidableEq, Repr

namespace Place

def url (p : Place) : String :=
  p.origin ++ String.join (p.segments.map fun s => "/" ++ s)

/-- The place one segment up. -/
def parent (p : Place) : Place :=
  { p with segments := p.segments.dropLast }

end Place

/-- A tab or one half of a line break. -/
def isBreak (c : Char) : Bool :=
  c == '\t' || c == '\n' || c == '\r'

/-- The characters that are encoded although they are visible ASCII. -/
def reserved : List Char :=
  [' ', '"', '<', '>', '\x60', '#', '?', '{', '}', '/', '%', '\\']

/-- Whether a byte stands as it is in a segment. -/
def standsRaw (b : UInt8) : Bool :=
  0x20 ≤ b && b < 0x7F && !reserved.contains (Char.ofNat b.toNat)

/-- A text as one segment. -/
def segment (cs : List Char) : String :=
  String.ofList (Text.Percent.encode standsRaw (Text.Utf8.encode cs))

/-- The address of a text below a place. Dots that only a break keeps from being a segment of
their own lead to the place itself or to the one above it, with a slash at the end. -/
def Place.below (p : Place) (text : String) : String :=
  if text = "." ∨ text = ".." then p.url
  else
    match text.toList.filter fun c => !isBreak c with
    | ['.', '.'] => p.parent.url ++ "/"
    | ['.'] => p.url ++ "/"
    | cs => p.url ++ "/" ++ segment cs

end PromptStudio.Lookup
