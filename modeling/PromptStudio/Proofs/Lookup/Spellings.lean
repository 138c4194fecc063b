import PromptStudio.Proofs.Lookup.Parameters
import PromptStudio.Proofs.Text.Decimals

/-!
# One search in many spellings

Parameters may be written in many ways and still ask for the same search: blanks around a text, a
blank text for none at all, a number out of range, flavors that are unknown or named again. What is
read from them differs in the blanks around the term alone.
-/

namespace PromptStudio.Proofs
open Lookup

/-- A number of results is asked for: 25 if none is given, else the number given, moved into the
range from 5 to 50. -/
inductive AsksFor (raw : Option String) : Nat → Prop where
  | standard (hblank : raw.bind Text.nonBlank? = none) : AsksFor raw 25
  | given {t : String} {n : Nat} (hgiven : raw.bind Text.nonBlank? = some t)
      (hnumber : DigitsOf t.toList n ∨ ∃ ds, t.toList = '+' :: ds ∧ DigitsOf ds n)
      (hlimit : n < Text.Numeral.limit64) : AsksFor raw (max 5 (min n 50))

/-- The parameters ask for one search, in whatever way they are written. -/
structure SameSearch (get other : Parameters) : Prop where
  term : Text.trim ((get "term").getD "") = Text.trim ((other "term").getD "")
  topics : (get "topics").bind Text.nonBlank? = (other "topics").bind Text.nonBlank?
  limit : ∀ n, AsksFor (get "max") n ↔ AsksFor (other "max") n
  flavors : Flavor.ofParameter (get "flavors") = Flavor.ofParameter (other "flavors")
  policy : ((get "policy").bind Text.nonBlank?).getD "isolate" =
    ((other "policy").bind Text.nonBlank?).getD "isolate"

section count

variable {name : String} {raw raw' : Option String}

lemma count_eq_ok_iff {n : Nat} : count name raw = .ok n ↔ AsksFor raw n := by
  unfold count
  cases hgiven : raw.bind Text.nonBlank? with
  | none =>
    constructor
    · intro h
      cases h
      exact .standard hgiven
    · intro h
      cases h with
      | standard => rfl
      | given hgiven' => cases hgiven.symm.trans hgiven'
  | some t =>
    dsimp only
    constructor
    · intro h
      cases hread : Text.Numeral.readNat Text.Numeral.limit64 t.toList with
      | error f =>
        rw [hread] at h
        cases h
      | ok m =>
        rw [hread] at h
        cases h
        obtain ⟨hnumber, hlimit⟩ := readNat_eq_ok_iff.1 hread
        exact .given hgiven hnumber hlimit
    · intro h
      cases h with
      | standard hblank => cases hgiven.symm.trans hblank
      | given hgiven' hnumber hlimit =>
        cases hgiven.symm.trans hgiven'
        rw [readNat_eq_ok_iff.2 ⟨hnumber, hlimit⟩]
        rfl

lemma count_eq_error {e : Rejection} (h : count name raw = .error e) : e = .notWhole name := by
  unfold count at h
  split at h
  · cases h
  · split at h
    · cases h
    · cases h
      rfl

lemma count_congr (h : ∀ n, AsksFor raw n ↔ AsksFor raw' n) : count name raw = count name raw' := by
  cases hread : count name raw with
  | ok n => exact (count_eq_ok_iff.2 ((h n).1 (count_eq_ok_iff.1 hread))).symm
  | error e =>
    cases hread' : count name raw' with
    | ok n =>
      have hok : count name raw = .ok n := count_eq_ok_iff.2 ((h n).2 (count_eq_ok_iff.1 hread'))
      cases hok.symm.trans hread
    | error e' => rw [count_eq_error hread, count_eq_error hread']

end count

lemma ofParameter_eq_ofCode? (raw : Option String) :
    FailurePolicy.ofParameter raw =
      match FailurePolicy.ofCode? ((raw.bind Text.nonBlank?).getD "isolate") with
      | some p => .ok p
      | none => .error (.unknownPolicy ((raw.bind Text.nonBlank?).getD "isolate")) := by
  unfold FailurePolicy.ofParameter
  cases raw.bind Text.nonBlank? with
  | none => rfl
  | some code => rfl

lemma term_congr {s s' : String} (h : Text.trim s = Text.trim s') :
    Lookup.term s = Lookup.term s' := by
  unfold Lookup.term
  rw [h]

/-- Parameters for one search are read alike, but for the blanks around the term. -/
theorem SameSearch.ofParameters_eq {get other : Parameters} (h : SameSearch get other) :
    Discovery.ofParameters other =
      (Discovery.ofParameters get).map fun d => { d with term := (other "term").getD "" } := by
  have htopics : Lookup.topics (other "topics") = Lookup.topics (get "topics") := h.topics.symm
  have hlimit : count "max" (other "max") = count "max" (get "max") := (count_congr h.limit).symm
  have hpolicy : FailurePolicy.ofParameter (other "policy") =
      FailurePolicy.ofParameter (get "policy") := by
    rw [ofParameter_eq_ofCode?, ofParameter_eq_ofCode?, h.policy]
  unfold Discovery.ofParameters
  rw [htopics, hlimit, hpolicy, h.flavors]
  cases count "max" (get "max") with
  | error e => rfl
  | ok limit =>
    cases FailurePolicy.ofParameter (get "policy") with
    | error e => rfl
    | ok policy => rfl

end PromptStudio.Proofs
