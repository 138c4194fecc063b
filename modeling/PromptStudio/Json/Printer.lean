import PromptStudio.Json.Basic
import PromptStudio.Binary64.Shortest
import PromptStudio.Text.Numeral

/-!
# JSON text

The compact text of a value: no white space, members in their order. What stands for a character
inside quotes is a parameter, so that a channel may ask for more escapes than are needed.
-/

namespace PromptStudio.Json

/-- The lower-case hexadecimal digit of a number below sixteen. -/
def hexDigit (n : Nat) : Char :=
  if n < 10 then Char.ofNat (48 + n) else Char.ofNat (87 + n)

/-- A code unit as an escape. -/
def unitEscape (n : Nat) : List Char :=
  ['\\', 'u', hexDigit (n / 4096 % 16), hexDigit (n / 256 % 16), hexDigit (n / 16 % 16),
    hexDigit (n % 16)]

/-- Quotes, backslashes and control characters are escaped, by a letter where there is one. -/
def escape (c : Char) : List Char :=
  match c with
  | '"' => ['\\', '"']
  | '\\' => ['\\', '\\']
  | '\x08' => ['\\', 'b']
  | '\x0c' => ['\\', 'f']
  | '\n' => ['\\', 'n']
  | '\r' => ['\\', 'r']
  | '\t' => ['\\', 't']
  | c => if c.toNat < 0x20 then unitEscape c.toNat else [c]

/-- Escapes what lies above ASCII too, as one or two code units. -/
def escapeToAscii (c : Char) : List Char :=
  let n := c.toNat
  if n < 0x7F then escape c
  else if n < 0x10000 then unitEscape n
  else
    let m := n - 0x10000
    unitEscape (0xD800 + m / 1024) ++ unitEscape (0xDC00 + m % 1024)

/-- A text in quotes. -/
def quoted (esc : Char → List Char) (s : String) : List Char :=
  '"' :: s.toList.flatMap esc ++ ['"']

def Number.chars : Number → List Char
  | .int i _ => Text.Numeral.intDigits i
  | .real x => x.jsonChars

mutual

/-- The text of a value. -/
def chars (esc : Char → List Char) : Json → List Char
  | .null => ['n', 'u', 'l', 'l']
  | .bool true => ['t', 'r', 'u', 'e']
  | .bool false => ['f', 'a', 'l', 's', 'e']
  | .num n => n.chars
  | .str s => quoted esc s
  | .arr items => '[' :: itemChars esc items ++ [']']
  | .obj members => '{' :: memberChars esc members ++ ['}']

def itemChars (esc : Char → List Char) : List Json → List Char
  | [] => []
  | [v] => chars esc v
  | v :: w :: rest => chars esc v ++ ',' :: itemChars esc (w :: rest)

def memberChars (esc : Char → List Char) : List (String × Json) → List Char
  | [] => []
  | [(n, v)] => quoted esc n ++ ':' :: chars esc v
  | (n, v) :: m :: rest => quoted esc n ++ ':' :: chars esc v ++ ',' :: memberChars esc (m :: rest)

end

/-- The compact text of a value. -/
def print (v : Json) : String :=
  String.ofList (chars escape v)

/-- The compact text of a value in ASCII. -/
def printAscii (v : Json) : String :=
  String.ofList (chars escapeToAscii v)

end PromptStudio.Json
