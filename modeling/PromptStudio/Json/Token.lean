import PromptStudio.Json.Basic

/-!
# The words of a JSON text

A text is cut into brackets, separators, literals, numerals and quoted texts. At the first
character that begins or continues none of them the cutting stops with a `bad` token.
-/

namespace PromptStudio.Json

/-- A word of a JSON text. A numeral past the largest double has no number, and a quoted text
with an escape that names no character has no text. -/
inductive Token where
  | openList
  | closeList
  | openRecord
  | closeRecord
  | comma
  | colon
  | null
  | bool (b : Bool)
  | number (n : Option Number)
  | text (s : Option String)
  | bad

/-- What stands in a quoted text: a character, or a code unit given by number. -/
inductive Piece where
  | char (c : Char)
  | unit (n : Nat)

/-- Joins pieces to characters, after those given in reverse. A leading surrogate needs a
trailing one right after it, and neither stands alone. -/
def assemble : List Piece → List Char → Option (List Char)
  | [], done => some done.reverse
  | .char c :: rest, done => assemble rest (c :: done)
  | .unit n :: rest, done =>
    if 0xD800 ≤ n ∧ n < 0xDC00 then
      match rest with
      | .unit m :: rest =>
        if 0xDC00 ≤ m ∧ m < 0xE000 then
          assemble rest (Char.ofNat (0x10000 + (n - 0xD800) * 1024 + (m - 0xDC00)) :: done)
        else none
      | _ => none
    else if 0xDC00 ≤ n ∧ n < 0xE000 then none
    else assemble rest (Char.ofNat n :: done)

/-- How far a numeral has got. -/
inductive Stage where
  | sign
  | zero
  | whole
  | point
  | fraction
  | mark
  | markSign
  | power
  deriving DecidableEq

/-- A numeral as read so far: its digits without the point, how many of them follow the point,
and the exponent. -/
structure Spelling where
  stage : Stage
  negative : Bool
  coefficient : Nat
  places : Nat
  powerNegative : Bool
  power : Nat

/-- What a character does to a numeral: it goes on, it is complete before the character, or it
is none. -/
inductive Spelt where
  | more (s : Spelling)
  | complete
  | broken

/-- Whether a numeral may end here. -/
def Stage.isComplete : Stage → Bool
  | .zero | .whole | .fraction | .power => true
  | .sign | .point | .mark | .markSign => false

/-- The value of a digit. -/
def digit? (c : Char) : Option Nat :=
  if 48 ≤ c.toNat ∧ c.toNat ≤ 57 then some (c.toNat - 48) else none

def Spelling.next (s : Spelling) (c : Char) : Spelt :=
  match digit? c with
  | some d =>
    match s.stage with
    | .sign => .more { s with stage := if d = 0 then .zero else .whole, coefficient := d }
    | .zero => .broken
    | .whole => .more { s with coefficient := s.coefficient * 10 + d }
    | .point | .fraction =>
      .more { s with stage := .fraction, coefficient := s.coefficient * 10 + d, places := s.places + 1 }
    | .mark | .markSign | .power => .more { s with stage := .power, power := s.power * 10 + d }
  | none =>
    match s.stage, c with
    | .zero, '.' | .whole, '.' => .more { s with stage := .point }
    | .zero, 'e' | .zero, 'E' | .whole, 'e' | .whole, 'E' | .fraction, 'e' | .fraction, 'E' =>
      .more { s with stage := .mark }
    | .mark, '+' => .more { s with stage := .markSign }
    | .mark, '-' => .more { s with stage := .markSign, powerNegative := true }
    | stage, _ => if stage.isComplete then .complete else .broken

/-- The number of a complete numeral. Without point and exponent it is an integer where 64 bits
hold it, except that -0 is a double. -/
def Spelling.number? (s : Spelling) : Option Number :=
  let exponent := (if s.powerNegative then -(s.power : Int) else s.power) - s.places
  let real := (Binary64.ofDecimal? s.negative s.coefficient exponent).map Number.real
  match s.stage with
  | .zero | .whole =>
    if s.negative then
      if s.coefficient = 0 then real
      else if h : s.coefficient ≤ 0x8000000000000000 then
        some (.int (-s.coefficient) (by omega))
      else real
    else if h : s.coefficient < 0x10000000000000000 then
      some (.int s.coefficient (by omega))
    else real
  | _ => real

/-- What is being read. -/
inductive Mode where
  | idle
  | literal (missing : List Char) (token : Token)
  | numeral (s : Spelling)
  | quoted (pieces : List Piece)
  | escape (pieces : List Piece)
  | unit (pieces : List Piece) (missing value : Nat)
  | stopped

/-- A numeral's first character, if it is one. -/
def Spelling.start? (c : Char) : Option Spelling :=
  if c = '-' then some ⟨.sign, true, 0, 0, false, 0⟩
  else match digit? c with
    | some d => some ⟨if d = 0 then .zero else .whole, false, d, 0, false, 0⟩
    | none => none

/-- The character that a letter after a backslash stands for. -/
def escaped? (c : Char) : Option Char :=
  match c with
  | '"' => some '"'
  | '\\' => some '\\'
  | '/' => some '/'
  | 'b' => some '\x08'
  | 'f' => some '\x0c'
  | 'n' => some '\n'
  | 'r' => some '\r'
  | 't' => some '\t'
  | _ => none

/-- The value of a hexadecimal digit. -/
def hexValue? (c : Char) : Option Nat :=
  let n := c.toNat
  if 48 ≤ n ∧ n ≤ 57 then some (n - 48)
  else if 65 ≤ n ∧ n ≤ 70 then some (n - 55)
  else if 97 ≤ n ∧ n ≤ 102 then some (n - 87)
  else none

/-- The words complete so far, last first, and what is being read. -/
structure Scan where
  done : List Token
  mode : Mode

def Scan.emit (s : Scan) (t : Token) : Scan :=
  ⟨t :: s.done, .idle⟩

def Scan.stop (s : Scan) : Scan :=
  ⟨.bad :: s.done, .stopped⟩

/-- A character between words. -/
def Scan.begin (s : Scan) (c : Char) : Scan :=
  match c with
  | ' ' | '\t' | '\n' | '\r' => ⟨s.done, .idle⟩
  | '[' => s.emit .openList
  | ']' => s.emit .closeList
  | '{' => s.emit .openRecord
  | '}' => s.emit .closeRecord
  | ',' => s.emit .comma
  | ':' => s.emit .colon
  | '"' => ⟨s.done, .quoted []⟩
  | 'n' => ⟨s.done, .literal ['u', 'l', 'l'] .null⟩
  | 't' => ⟨s.done, .literal ['r', 'u', 'e'] (.bool true)⟩
  | 'f' => ⟨s.done, .literal ['a', 'l', 's', 'e'] (.bool false)⟩
  | c =>
    match Spelling.start? c with
    | some n => ⟨s.done, .numeral n⟩
    | none => s.stop

/-- One character more. -/
def Scan.step (s : Scan) (c : Char) : Scan :=
  match s.mode with
  | .idle => s.begin c
  | .literal (m :: more) token =>
    if c ≠ m then s.stop
    else if more = [] then s.emit token
    else ⟨s.done, .literal more token⟩
  | .literal [] _ => s.stop
  | .numeral n =>
    match n.next c with
    | .more n => ⟨s.done, .numeral n⟩
    | .complete => (s.emit (.number n.number?)).begin c
    | .broken => s.stop
  | .quoted pieces =>
    if c = '"' then s.emit (.text ((assemble pieces.reverse []).map String.ofList))
    else if c = '\\' then ⟨s.done, .escape pieces⟩
    else if c.toNat < 0x20 then s.stop
    else ⟨s.done, .quoted (.char c :: pieces)⟩
  | .escape pieces =>
    if c = 'u' then ⟨s.done, .unit pieces 4 0⟩
    else match escaped? c with
      | some e => ⟨s.done, .quoted (.char e :: pieces)⟩
      | none => s.stop
  | .unit pieces missing value =>
    match hexValue? c with
    | some d =>
      let value := value * 16 + d
      if missing = 1 then ⟨s.done, .quoted (.unit value :: pieces)⟩
      else ⟨s.done, .unit pieces (missing - 1) value⟩
    | none => s.stop
  | .stopped => s

/-- The words once the text has ended. -/
def Scan.finish (s : Scan) : List Token :=
  match s.mode with
  | .idle | .stopped => s.done.reverse
  | .numeral n =>
    if n.stage.isComplete then (Token.number n.number? :: s.done).reverse
    else (Token.bad :: s.done).reverse
  | _ => (Token.bad :: s.done).reverse

/-- The words of a text. -/
def tokens (cs : List Char) : List Token :=
  (cs.foldl Scan.step ⟨[], .idle⟩).finish

end PromptStudio.Json
