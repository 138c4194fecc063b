import Mathlib.Logic.Function.Basic
import Mathlib.Tactic.Lemma
import PromptStudio.Lookup.Discover
import PromptStudio.Lookup.Subject
import PromptStudio.Proofs.Text.Digits
import PromptStudio.Proofs.Text.Separators

/-!
# What a cache key tells

The key of a subject tells the subject, so two lookups with different requests have different keys.
The key of a word search does not: a colon in the topics or in the term is none of the colons
between them.
-/

namespace PromptStudio.Proofs
open Lookup

lemma digits_inj {m n : Nat} : Text.Numeral.digits m = Text.Numeral.digits n ↔ m = n := by
  refine ⟨fun h => ?_, congrArg _⟩
  have hvalue := congrArg (fun cs => Nat.ofDigitChars 10 cs 0) h
  unfold Text.Numeral.digits at hvalue
  rwa [Nat.ofDigitChars_ten_toDigits, Nat.ofDigitChars_ten_toDigits] at hvalue

lemma colon_not_mem_digits (n : Nat) : ':' ∉ Text.Numeral.digits n := by
  intro hmem
  exact absurd (isDigit_of_mem_digits hmem) (by decide)

/-! ## Subjects -/

/-- Two subjects of one key are the same. -/
theorem subject_key_injective : Function.Injective Subject.key := by
  intro s s' h
  have hlist := congrArg String.toList h
  -- Keys of different kinds differ within their first five characters.
  cases s <;> cases s' <;>
    simp only [Subject.key, Text.Numeral.ofNat, String.toList_append, String.toList_ofList,
      List.append_assoc, String.reduceToList, List.cons_append, List.nil_append, List.cons.injEq,
      Char.reduceEq, false_and, true_and, and_false, String.toList_inj] at hlist
  case word.word w w' => rw [hlist]
  case pages.pages q q' => rw [hlist]
  case summary.summary t t' => rw [hlist]
  case entities.entities q q' => rw [hlist]
  case attributes.attributes i i' => rw [hlist]
  case relations.relations t n t' n' =>
    obtain ⟨hterm, hlimit⟩ := (append_cons_inj_of_not_mem_right (colon_not_mem_digits n)
      (colon_not_mem_digits n')).1 hlist
    rw [String.toList_inj.1 hterm, digits_inj.1 hlimit]

/-! ## Word searches -/

/-- What a query for the words of one flavor is about. -/
@[ext]
structure WordSearch where
  flavor : Flavor
  topics : Option String
  term : String
  limit : Nat
  deriving DecidableEq

def WordSearch.query (w : WordSearch) : Query :=
  flavorQuery w.flavor w.topics w.term w.limit

/-- The topics before the colon of a key, which are empty where there are none. -/
def WordSearch.front (w : WordSearch) : String :=
  w.topics.getD ""

/-- The topics of one search are those of the other, a colon and a text that, before one more
colon, also begins the other's term. -/
def ColonMoved (a b : WordSearch) : Prop :=
  ∃ middle, a.front = b.front ++ ":" ++ middle ∧ b.term = middle ++ ":" ++ a.term

lemma code_injective : Function.Injective Flavor.code := by
  intro f f'
  cases f <;> cases f' <;> decide

lemma colon_not_mem_code (f : Flavor) : ':' ∉ f.code.toList := by
  cases f <;> decide

lemma wordKey_eq_iff (a b : WordSearch) :
    a.query.key = b.query.key ↔ a.flavor = b.flavor ∧ a.limit = b.limit ∧
      a.front.toList ++ ':' :: a.term.toList = b.front.toList ++ ':' :: b.term.toList := by
  have hsplit (w : WordSearch) : w.query.key.toList = "dm:".toList ++ (w.flavor.code.toList ++
      ':' :: ((w.front.toList ++ ':' :: w.term.toList) ++ ':' :: Text.Numeral.digits w.limit)) := by
    simp only [WordSearch.query, WordSearch.front, flavorQuery, Text.Numeral.ofNat,
      String.toList_append, String.toList_ofList, List.append_assoc, String.reduceToList,
      List.cons_append, List.nil_append]
  rw [← String.toList_inj, hsplit, hsplit, List.append_cancel_left_eq,
    append_cons_inj_of_not_mem (colon_not_mem_code _) (colon_not_mem_code _),
    append_cons_inj_of_not_mem_right (colon_not_mem_digits _) (colon_not_mem_digits _),
    String.toList_inj, code_injective.eq_iff, digits_inj]
  exact and_congr_right fun _ => and_comm

lemma colonMoved_iff (a b : WordSearch) :
    ColonMoved a b ↔ ∃ m, a.front.toList = b.front.toList ++ ':' :: m ∧
      b.term.toList = m ++ ':' :: a.term.toList := by
  constructor
  · rintro ⟨middle, hfront, hterm⟩
    exact ⟨middle.toList, by rw [hfront, toList_joined], by rw [hterm, toList_joined]⟩
  · rintro ⟨m, hfront, hterm⟩
    refine ⟨String.ofList m, String.toList_inj.1 ?_, String.toList_inj.1 ?_⟩
    · rw [toList_joined, String.toList_ofList, hfront]
    · rw [toList_joined, String.toList_ofList, hterm]

lemma topics_ne_empty (s : Option String) : topics s ≠ some "" := by
  intro h
  obtain ⟨text, -, htext⟩ := Option.bind_eq_some_iff.1 h
  unfold Text.nonBlank? at htext
  dsimp only at htext
  split at htext
  · cases htext
  · rename_i hne
    exact hne (Option.some.inj htext)

/-- Trimmed topics are never empty, so the text before the colon tells them. -/
lemma front_inj {a b : WordSearch} (ha : ∃ s, topics s = a.topics) (hb : ∃ s, topics s = b.topics) :
    a.front = b.front ↔ a.topics = b.topics := by
  obtain ⟨s, hs⟩ := ha
  obtain ⟨s', hs'⟩ := hb
  have hane : a.topics ≠ some "" := hs ▸ topics_ne_empty s
  have hbne : b.topics ≠ some "" := hs' ▸ topics_ne_empty s'
  unfold WordSearch.front
  cases hfirst : a.topics with
  | none =>
    cases hsecond : b.topics with
    | none => simp
    | some t =>
      rw [hsecond] at hbne
      simpa [eq_comm] using hbne
  | some t =>
    cases hsecond : b.topics with
    | none =>
      rw [hfirst] at hane
      simpa using hane
    | some t' => simp

lemma subject_key_ne (s : Subject) (w : WordSearch) : s.key ≠ w.query.key := by
  intro h
  have hlist := congrArg String.toList h
  cases s <;>
    simp [Subject.key, WordSearch.query, flavorQuery, String.toList_append] at hlist

/-- Two different searches with trimmed topics have one key just if they agree in flavor and limit
and one colon, of the topics of one and the term of the other, is the colon between them. -/
theorem same_key_iff_colon_moved (a b : WordSearch) (ha : ∃ s, topics s = a.topics)
    (hb : ∃ s, topics s = b.topics) (hne : a ≠ b) :
    a.query.key = b.query.key ↔
      a.flavor = b.flavor ∧ a.limit = b.limit ∧ (ColonMoved a b ∨ ColonMoved b a) := by
  rw [wordKey_eq_iff, append_cons_eq_append_cons_iff, ← colonMoved_iff, ← colonMoved_iff,
    String.toList_inj, String.toList_inj, front_inj ha hb]
  constructor
  · rintro ⟨hflavor, hlimit, ⟨htopics, hterm⟩ | hmoved⟩
    · exact absurd (WordSearch.ext hflavor htopics hterm hlimit) hne
    · exact ⟨hflavor, hlimit, hmoved⟩
  · rintro ⟨hflavor, hlimit, hmoved⟩
    exact ⟨hflavor, hlimit, Or.inr hmoved⟩

/-- A search without topics has the key of one whose topics begin with the colon. -/
theorem same_key_iff_colon_moved_without_topics :
    let a : WordSearch := ⟨.noun, topics (some " :ash\t"), "lava", 5⟩
    let b : WordSearch := ⟨.noun, topics none, "ash:lava", 5⟩
    ((∃ s, topics s = a.topics) ∧ (∃ s, topics s = b.topics) ∧ a ≠ b) ∧
    a.query.key = b.query.key := by
  intro a b
  have hmoved : ColonMoved a b := ⟨"ash", by decide, by decide⟩
  have hne : a ≠ b := by decide
  have ha : ∃ s, topics s = a.topics := ⟨some " :ash\t", rfl⟩
  have hb : ∃ s, topics s = b.topics := ⟨none, rfl⟩
  exact ⟨⟨ha, hb, hne⟩, (same_key_iff_colon_moved a b ha hb hne).2 ⟨rfl, rfl, Or.inl hmoved⟩⟩

/-- A search for `b:c` about `a` is served the words found for `c` about `a:b`. -/
theorem words_served_for_another_search :
    let remote : Remote := fun r => some ⟨200,
      if r.query.contains ("topics", "a:b") then "[[\"one\"]]" else "[[\"two\"]]"⟩
    let first : Discovery := ⟨"c", some "a:b", 25, [.meansLike], .isolate⟩
    let second : Discovery := ⟨"b:c", some "a", 25, [.meansLike], .isolate⟩
    let after := (first.run remote ⟨0⟩ (.memory .empty)).store
    let texts (f : Fetched (Except Failure (List Candidate))) : Option (List String) :=
      f.outcome.toOption.map fun found => found.map Candidate.text
    (flavorQuery .meansLike (topics (some "a:b")) "c" 25).key =
      (flavorQuery .meansLike (topics (some "a")) "b:c" 25).key ∧
    texts (second.run remote ⟨0⟩ (.memory .empty)) = some ["two"] ∧
    texts (second.run remote ⟨0⟩ after) = some ["one"] ∧
    (second.run remote ⟨0⟩ after).sent = [] := by
  decide +kernel

end PromptStudio.Proofs
