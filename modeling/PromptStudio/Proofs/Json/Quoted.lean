import Mathlib.Tactic.Lemma
import PromptStudio.Json.Printer
import PromptStudio.Json.Token

/-!
# Texts in quotes

A text in quotes, scanned from between two words, is that text.
-/

namespace PromptStudio.Proofs
open Json

/-- Pieces that are joined to one character. -/
def StandFor (pieces : List Piece) (c : Char) : Prop :=
  ∀ rest done, assemble (pieces ++ rest) done = assemble rest (c :: done)

/-- What is written for every character is scanned as pieces that stand for it. -/
def Readable (esc : Char → List Char) : Prop :=
  ∀ c, ∃ pieces, StandFor pieces c ∧ ∀ done before,
    (esc c).foldl Scan.step ⟨done, .quoted before⟩ = ⟨done, .quoted (pieces.reverse ++ before)⟩

lemma standFor_char (c : Char) : StandFor [.char c] c := fun _ _ => rfl

lemma standFor_unit {n : Nat} (h : n < 0xD800) : StandFor [.unit n] (Char.ofNat n) := by
  intro rest done
  have hleading : ¬ (0xD800 ≤ n ∧ n < 0xDC00) := by omega
  have htrailing : ¬ (0xDC00 ≤ n ∧ n < 0xE000) := by omega
  rw [List.singleton_append]
  cases rest with
  | nil => simp only [assemble, if_neg hleading, if_neg htrailing]
  | cons p rest =>
    cases p with
    | char c => simp only [assemble, if_neg hleading, if_neg htrailing]
    | unit m => simp only [assemble, if_neg hleading, if_neg htrailing]

lemma hexValue?_hexDigit : ∀ n < 16, hexValue? (hexDigit n) = some n := by
  decide

lemma foldl_unitEscape {n : Nat} (h : n < 0x10000) (done : List Token) (before : List Piece) :
    (unitEscape n).foldl Scan.step ⟨done, .quoted before⟩ = ⟨done, .quoted (.unit n :: before)⟩ := by
  have hdigit (k : Nat) : hexValue? (hexDigit (k % 16)) = some (k % 16) :=
    hexValue?_hexDigit (k % 16) (Nat.mod_lt k (by decide))
  have hopen : ['\\', 'u'].foldl Scan.step ⟨done, .quoted before⟩ = ⟨done, .unit before 4 0⟩ := rfl
  have hvalue : ((n / 4096 % 16 * 16 + n / 256 % 16) * 16 + n / 16 % 16) * 16 + n % 16 = n := by
    omega
  have hsplit : unitEscape n = ['\\', 'u'] ++ [hexDigit (n / 4096 % 16), hexDigit (n / 256 % 16),
      hexDigit (n / 16 % 16), hexDigit (n % 16)] := rfl
  rw [hsplit, List.foldl_append, hopen]
  simp [Scan.step, hdigit, hvalue]

lemma foldl_plain {c : Char} (hquote : c ≠ '"') (hslash : c ≠ '\\') (hcontrol : ¬ c.toNat < 0x20)
    (done : List Token) (before : List Piece) :
    [c].foldl Scan.step ⟨done, .quoted before⟩ = ⟨done, .quoted (.char c :: before)⟩ := by
  rw [List.foldl_cons, List.foldl_nil]
  unfold Scan.step
  dsimp only
  rw [if_neg hquote, if_neg hslash, if_neg hcontrol]

lemma readable_escape : Readable escape := by
  intro c
  unfold escape
  split
  all_goals first
    | exact ⟨_, standFor_char _, fun _ _ => rfl⟩
    | skip
  rename_i hquote hslash _ _ _ _ _
  by_cases hcontrol : c.toNat < 0x20
  · rw [if_pos hcontrol]
    refine ⟨[.unit c.toNat], ?_, fun done before => foldl_unitEscape (by omega) done before⟩
    have hunit := standFor_unit (n := c.toNat) (by omega)
    rw [Char.ofNat_toNat] at hunit
    exact hunit
  · rw [if_neg hcontrol]
    exact ⟨[.char c], standFor_char c, fun done before => foldl_plain hquote hslash hcontrol done before⟩

section Readable

variable {esc : Char → List Char} (hesc : Readable esc)
include hesc

lemma foldl_flatMap (cs : List Char) (done : List Token) (before : List Piece) :
    ∃ pieces, (∀ rest acc, assemble (pieces ++ rest) acc = assemble rest (cs.reverse ++ acc)) ∧
      (cs.flatMap esc).foldl Scan.step ⟨done, .quoted before⟩ =
        ⟨done, .quoted (pieces.reverse ++ before)⟩ := by
  induction cs generalizing before with
  | nil => exact ⟨[], fun _ _ => rfl, rfl⟩
  | cons c cs ih =>
    obtain ⟨first, hfirst, hscan⟩ := hesc c
    obtain ⟨pieces, hpieces, hrest⟩ := ih (first.reverse ++ before)
    refine ⟨first ++ pieces, ?_, ?_⟩
    · intro rest acc
      rw [List.append_assoc, hfirst, hpieces, List.reverse_cons, List.append_assoc]
      rfl
    · rw [List.flatMap_cons, List.foldl_append, hscan, hrest, List.reverse_append, List.append_assoc]

theorem foldl_quoted (s : String) (done : List Token) :
    (quoted esc s).foldl Scan.step ⟨done, .idle⟩ = ⟨.text (some s) :: done, .idle⟩ := by
  obtain ⟨pieces, hpieces, hscan⟩ := foldl_flatMap hesc s.toList done []
  have hopen : Scan.step ⟨done, .idle⟩ '"' = ⟨done, .quoted []⟩ := rfl
  have hclose (before : List Piece) : Scan.step ⟨done, .quoted before⟩ '"' =
      ⟨.text ((assemble before.reverse []).map String.ofList) :: done, .idle⟩ := rfl
  have hjoin : assemble pieces [] = some s.toList := by
    have hall := hpieces [] []
    rw [List.append_nil, List.append_nil] at hall
    rw [hall, assemble, List.reverse_reverse]
  unfold quoted
  rw [List.cons_append, List.foldl_cons, hopen, List.foldl_append, hscan, List.append_nil,
    List.foldl_cons, List.foldl_nil, hclose, List.reverse_reverse, hjoin, Option.map_some,
    String.ofList_toList]

end Readable

end PromptStudio.Proofs
