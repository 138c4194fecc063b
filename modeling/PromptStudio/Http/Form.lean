import PromptStudio.Text.Percent

/-!
# Form-encoded pairs

Pairs of texts are joined by ampersands, the value after an equals sign. A space is written as a
plus sign, and every byte but letters, digits and four marks as a percent sign and two digits.
Reading takes any text; decoding what was encoded gives the pairs back.
-/

namespace PromptStudio.Http.Form

/-- Whether a byte stands as it is. -/
def standsRaw (b : UInt8) : Bool :=
  let c := Char.ofNat b.toNat
  c.isAlphanum || c == '*' || c == '-' || c == '.' || c == '_'

/-- A byte of a name or a value. -/
def encodeByte (b : UInt8) : List Char :=
  if b = 0x20 then ['+'] else Text.Percent.encode standsRaw [b]

def encodeText (s : String) : List Char :=
  (Text.Utf8.encode s.toList).flatMap encodeByte

def encodePair (pair : String × String) : List Char :=
  encodeText pair.1 ++ '=' :: encodeText pair.2

/-- The form-encoded text of pairs. -/
def encode (pairs : List (String × String)) : List Char :=
  List.intercalate ['&'] (pairs.map encodePair)

/-- The text that a name or a value stands for. Bytes that are not UTF-8 are replaced. -/
def decodeText (cs : List Char) : String :=
  let spaced := cs.map fun c => if c == '+' then ' ' else c
  String.ofList (Text.Utf8.decode (Text.Percent.decode (Text.Utf8.encode spaced)))

/-- Name and value around the first equals sign. Without one there is no value. -/
def decodePair (cs : List Char) : String × String :=
  let name := cs.takeWhile (· != '=')
  (decodeText name, decodeText (cs.drop (name.length + 1)))

/-- The pairs of a form-encoded text. Nothing between two ampersands is no pair. -/
def decode (cs : List Char) : List (String × String) :=
  ((cs.splitOn '&').filter (!·.isEmpty)).map decodePair

/-- The values of the known names, of which none may be given twice. -/
def fields? (known : List String) (pairs : List (String × String)) :
    Option (List (String × String)) :=
  let fields := pairs.filter fun pair => known.contains pair.1
  if (fields.map Prod.fst).Nodup then some fields else none

end PromptStudio.Http.Form
