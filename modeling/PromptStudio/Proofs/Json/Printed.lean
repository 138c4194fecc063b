import PromptStudio.Json.Reading
import PromptStudio.Proofs.Json.Numerals
import PromptStudio.Proofs.Json.Quoted

/-!
# Reading what was written

The text of a value is cut into the words of that value, and its words are read as the value.
-/

namespace PromptStudio.Proofs
open Json

mutual

def words : Json → List Token
  | .null => [.null]
  | .bool b => [.bool b]
  | .num n => [.number (some n)]
  | .str s => [.text (some s)]
  | .arr items => .openList :: itemWords items ++ [.closeList]
  | .obj members => .openRecord :: memberWords members ++ [.closeRecord]

def itemWords : List Json → List Token
  | [] => []
  | [v] => words v
  | v :: w :: rest => words v ++ .comma :: itemWords (w :: rest)

def memberWords : List (String × Json) → List Token
  | [] => []
  | [(n, v)] => .text (some n) :: .colon :: words v
  | (n, v) :: m :: rest => .text (some n) :: .colon :: words v ++ .comma :: memberWords (m :: rest)

end

/-! ## From characters to words -/

/-- The words complete so far, where a complete numeral may be under way. -/
inductive ScannedTo (done : List Token) : Scan → Prop where
  | idle : ScannedTo done ⟨done, .idle⟩
  | numeral {before : List Token} {s : Spelling} {n : Number} (complete : s.stage.isComplete = true)
      (number : s.number? = some n) (last : done = .number (some n) :: before) :
      ScannedTo done ⟨before, .numeral s⟩

/-- A character that ends a numeral and is none of its characters. -/
def Separates (c : Char) : Prop :=
  c = ',' ∨ c = ']' ∨ c = '}'

lemma next_of_separates {c : Char} (hc : Separates c) {s : Spelling}
    (h : s.stage.isComplete = true) : s.next c = .complete := by
  have hdigit : digit? c = none := by
    rcases hc with rfl | rfl | rfl
    · rfl
    · rfl
    · rfl
  unfold Spelling.next
  rw [hdigit]
  dsimp only
  cases hstage : s.stage with
  | zero => rcases hc with rfl | rfl | rfl <;> rfl
  | whole => rcases hc with rfl | rfl | rfl <;> rfl
  | fraction => rcases hc with rfl | rfl | rfl <;> rfl
  | power => rcases hc with rfl | rfl | rfl <;> rfl
  | sign => rw [hstage] at h; exact absurd h (by decide)
  | point => rw [hstage] at h; exact absurd h (by decide)
  | mark => rw [hstage] at h; exact absurd h (by decide)
  | markSign => rw [hstage] at h; exact absurd h (by decide)

lemma ScannedTo.step {done : List Token} {s : Scan} (h : ScannedTo done s) {c : Char}
    (hc : Separates c) : s.step c = Scan.begin ⟨done, .idle⟩ c := by
  cases h with
  | idle => rfl
  | numeral complete number last =>
    unfold Scan.step
    dsimp only
    rw [next_of_separates hc complete]
    dsimp only
    rw [number, Scan.emit, ← last]

lemma ScannedTo.finish {done : List Token} {s : Scan} (h : ScannedTo done s) :
    s.finish = done.reverse := by
  cases h with
  | idle => rfl
  | numeral complete number last =>
    unfold Scan.finish
    dsimp only
    rw [if_pos complete, number, ← last]

section Readable

variable {esc : Char → List Char}

mutual

/-- A value's text, scanned between two words, is cut into the value's words. -/
lemma scannedTo_chars (hesc : Readable esc) : (v : Json) → (done : List Token) →
    ScannedTo ((words v).reverse ++ done) ((chars esc v).foldl Scan.step ⟨done, .idle⟩)
  | .null, done => .idle
  | .bool true, done => .idle
  | .bool false, done => .idle
  | .num n, done => by
    obtain ⟨s, hs, hcomplete, hnumber⟩ := scannedAs_number n done
    rw [chars, hs]
    exact .numeral hcomplete hnumber rfl
  | .str s, done => by
    rw [chars, foldl_quoted hesc]
    exact .idle
  | .arr items, done => by
    have hopen : Scan.step ⟨done, .idle⟩ '[' = ⟨.openList :: done, .idle⟩ := rfl
    have hclose (all : List Token) : Scan.begin ⟨all, .idle⟩ ']' = ⟨.closeList :: all, .idle⟩ := rfl
    have hitems := scannedTo_itemChars hesc items (.openList :: done)
    rw [chars, List.cons_append, List.foldl_cons, hopen, List.foldl_append, List.foldl_cons,
      List.foldl_nil, hitems.step (Or.inr (Or.inl rfl)), hclose]
    have hwords : (words (.arr items)).reverse ++ done =
        .closeList :: ((itemWords items).reverse ++ .openList :: done) := by simp [words]
    rw [hwords]
    exact .idle
  | .obj members, done => by
    have hopen : Scan.step ⟨done, .idle⟩ '\x7b' = ⟨.openRecord :: done, .idle⟩ := rfl
    have hclose (all : List Token) : Scan.begin ⟨all, .idle⟩ '\x7d' = ⟨.closeRecord :: all, .idle⟩ :=
      rfl
    have hmembers := scannedTo_memberChars hesc members (.openRecord :: done)
    rw [chars, List.cons_append, List.foldl_cons, hopen, List.foldl_append, List.foldl_cons,
      List.foldl_nil, hmembers.step (Or.inr (Or.inr rfl)), hclose]
    have hwords : (words (.obj members)).reverse ++ done =
        .closeRecord :: ((memberWords members).reverse ++ .openRecord :: done) := by simp [words]
    rw [hwords]
    exact .idle

lemma scannedTo_itemChars (hesc : Readable esc) : (items : List Json) → (done : List Token) →
    ScannedTo ((itemWords items).reverse ++ done)
      ((itemChars esc items).foldl Scan.step ⟨done, .idle⟩)
  | [], done => .idle
  | [v], done => scannedTo_chars hesc v done
  | v :: w :: rest, done => by
    have hcomma (all : List Token) : Scan.begin ⟨all, .idle⟩ ',' = ⟨.comma :: all, .idle⟩ := rfl
    have hfirst := scannedTo_chars hesc v done
    have hrest := scannedTo_itemChars hesc (w :: rest) (.comma :: ((words v).reverse ++ done))
    rw [itemChars, List.foldl_append, List.foldl_cons, hfirst.step (Or.inl rfl), hcomma]
    have hwords : (itemWords (v :: w :: rest)).reverse ++ done =
        (itemWords (w :: rest)).reverse ++ .comma :: ((words v).reverse ++ done) := by
      simp [itemWords]
    rw [hwords]
    exact hrest

lemma scannedTo_memberChars (hesc : Readable esc) :
    (members : List (String × Json)) → (done : List Token) →
    ScannedTo ((memberWords members).reverse ++ done)
      ((memberChars esc members).foldl Scan.step ⟨done, .idle⟩)
  | [], done => .idle
  | [(n, v)], done => by
    have hvalue := scannedTo_chars hesc v (.colon :: .text (some n) :: done)
    have hcolon : Scan.step ⟨.text (some n) :: done, .idle⟩ ':' =
        ⟨.colon :: .text (some n) :: done, .idle⟩ := rfl
    rw [memberChars, List.foldl_append, foldl_quoted hesc, List.foldl_cons, hcolon]
    have hwords : (memberWords [(n, v)]).reverse ++ done =
        (words v).reverse ++ .colon :: .text (some n) :: done := by simp [memberWords]
    rw [hwords]
    exact hvalue
  | (n, v) :: m :: rest, done => by
    have hvalue := scannedTo_chars hesc v (.colon :: .text (some n) :: done)
    have hcolon : Scan.step ⟨.text (some n) :: done, .idle⟩ ':' =
        ⟨.colon :: .text (some n) :: done, .idle⟩ := rfl
    have hcomma (all : List Token) : Scan.begin ⟨all, .idle⟩ ',' = ⟨.comma :: all, .idle⟩ := rfl
    have hrest := scannedTo_memberChars hesc (m :: rest)
      (.comma :: ((words v).reverse ++ .colon :: .text (some n) :: done))
    rw [memberChars, List.foldl_append, List.foldl_append, foldl_quoted hesc, List.foldl_cons,
      List.foldl_cons, hcolon, hvalue.step (Or.inl rfl), hcomma]
    have hwords : (memberWords ((n, v) :: m :: rest)).reverse ++ done =
        (memberWords (m :: rest)).reverse ++
          .comma :: ((words v).reverse ++ .colon :: .text (some n) :: done) := by
      simp [memberWords]
    rw [hwords]
    exact hrest

end

theorem tokens_chars (hesc : Readable esc) (v : Json) : tokens (chars esc v) = words v := by
  unfold tokens
  rw [(scannedTo_chars hesc v []).finish, List.append_nil, List.reverse_reverse]

end Readable

/-! ## From words to a reading -/

mutual

/-- A value's words, where a value is due, are read as the value. -/
lemma foldl_words : (v : Json) → (frames : List Frame) → (expect : Expect) →
    expect = .value ∨ expect = .itemOrEnd →
    (words v).foldl Reader.step (.running frames expect) = put (toReading v) frames
  | .null, frames, _, h => by rcases h with rfl | rfl <;> rfl
  | .bool b, frames, _, h => by rcases h with rfl | rfl <;> rfl
  | .num n, frames, _, h => by rcases h with rfl | rfl <;> rfl
  | .str s, frames, _, h => by rcases h with rfl | rfl <;> rfl
  | .arr items, frames, expect, h => by
    have hopen : Reader.step (.running frames expect) .openList =
        .running (.list [] :: frames) .itemOrEnd := by
      rcases h with rfl | rfl <;> rfl
    rw [words, List.cons_append, List.foldl_cons, hopen, List.foldl_append, toReading]
    by_cases hnil : items = []
    · subst hnil
      rfl
    · rw [foldl_itemWords items hnil [] frames .itemOrEnd (Or.inr rfl), List.append_nil]
      have hclose (done : List Reading) :
          [Token.closeList].foldl Reader.step (.running (.list done :: frames) .next) =
            put (.list done.reverse true) frames := rfl
      rw [hclose, List.reverse_reverse]
  | .obj members, frames, expect, h => by
    have hopen : Reader.step (.running frames expect) .openRecord =
        .running (.record [] none :: frames) .nameOrEnd := by
      rcases h with rfl | rfl <;> rfl
    rw [words, List.cons_append, List.foldl_cons, hopen, List.foldl_append, toReading]
    by_cases hnil : members = []
    · subst hnil
      rfl
    · rw [foldl_memberWords members hnil [] frames .nameOrEnd (Or.inr rfl), List.append_nil]
      have hclose (done : List (Name × Reading)) :
          [Token.closeRecord].foldl Reader.step (.running (.record done none :: frames) .next) =
            put (.record done.reverse true) frames := rfl
      rw [hclose, List.reverse_reverse]

lemma foldl_itemWords : (items : List Json) → items ≠ [] → (done : List Reading) →
    (frames : List Frame) → (expect : Expect) → expect = .value ∨ expect = .itemOrEnd →
    (itemWords items).foldl Reader.step (.running (.list done :: frames) expect) =
      .running (.list ((itemReadings items).reverse ++ done) :: frames) .next
  | [], hne, _, _, _, _ => absurd rfl hne
  | [v], _, done, frames, expect, h => by
    rw [itemWords, foldl_words v _ expect h]
    rfl
  | v :: w :: rest, _, done, frames, expect, h => by
    have hcomma (r : Reading) : Reader.step (put r (.list done :: frames)) .comma =
        .running (.list (r :: done) :: frames) .value := rfl
    rw [itemWords, List.foldl_append, List.foldl_cons, foldl_words v _ expect h, hcomma,
      foldl_itemWords (w :: rest) (by simp) _ frames .value (Or.inl rfl)]
    have hreadings : (itemReadings (v :: w :: rest)).reverse ++ done =
        (itemReadings (w :: rest)).reverse ++ toReading v :: done := by simp [itemReadings]
    rw [hreadings]

lemma foldl_memberWords : (members : List (String × Json)) → members ≠ [] →
    (done : List (Name × Reading)) → (frames : List Frame) → (expect : Expect) →
    expect = .name ∨ expect = .nameOrEnd →
    (memberWords members).foldl Reader.step (.running (.record done none :: frames) expect) =
      .running (.record ((memberReadings members).reverse ++ done) none :: frames) .next
  | [], hne, _, _, _, _ => absurd rfl hne
  | [(n, v)], _, done, frames, expect, h => by
    have hname : [Token.text (some n), .colon].foldl Reader.step
          (.running (.record done none :: frames) expect) =
        .running (.record done (some (.known n)) :: frames) .value := by
      rcases h with rfl | rfl <;> rfl
    have hsplit : memberWords [(n, v)] = [.text (some n), .colon] ++ words v := by
      rw [memberWords]
      rfl
    rw [hsplit, List.foldl_append, hname, foldl_words v _ .value (Or.inl rfl)]
    rfl
  | (n, v) :: m :: rest, _, done, frames, expect, h => by
    have hname : [Token.text (some n), .colon].foldl Reader.step
          (.running (.record done none :: frames) expect) =
        .running (.record done (some (.known n)) :: frames) .value := by
      rcases h with rfl | rfl <;> rfl
    have hcomma (r : Reading) :
        Reader.step (put r (.record done (some (.known n)) :: frames)) .comma =
          .running (.record ((.known n, r) :: done) none :: frames) .name := rfl
    have hsplit : memberWords ((n, v) :: m :: rest) =
        [.text (some n), .colon] ++ (words v ++ .comma :: memberWords (m :: rest)) := by
      rw [memberWords]
      rfl
    rw [hsplit, List.foldl_append, hname, List.foldl_append, List.foldl_cons,
      foldl_words v _ .value (Or.inl rfl), hcomma,
      foldl_memberWords (m :: rest) (by simp) _ frames .name (Or.inl rfl)]
    have hreadings : (memberReadings ((n, v) :: m :: rest)).reverse ++ done =
        (memberReadings (m :: rest)).reverse ++ (.known n, toReading v) :: done := by
      simp [memberReadings]
    rw [hreadings]

end

theorem reading_print (v : Json) : reading v.print = (toReading v, true) := by
  unfold reading print
  rw [String.toList_ofList, tokens_chars readable_escape, foldl_words v [] .value (Or.inl rfl)]
  rfl

end PromptStudio.Proofs
