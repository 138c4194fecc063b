import Mathlib.Tactic.Lemma
import PromptStudio.Project.Shelf

/-!
# What a session can do to a shelf

Saving and removing leave the rows of every other session as they were, and looking and listing
do not depend on those rows.
-/

namespace PromptStudio.Proofs
open Project

/-- A save in one of two cases: it is refused to a session that does not own the row, and else
the row is put there. -/
lemma save?_cases (s : Shelf) (id : Uuid) (p : Saved) :
    (s.save? id p = none ∧ ∃ old, s.get? id = some old ∧ old.session ≠ p.session) ∨
    (s.save? id p = some (s.put id p) ∧ ∀ old, s.get? id = some old → old.session = p.session) := by
  unfold Shelf.save?
  cases hget : s.get? id with
  | none => exact Or.inr ⟨rfl, fun old hold => by cases hold⟩
  | some old =>
    by_cases howner : old.session = p.session
    · refine Or.inr ⟨if_pos howner, ?_⟩
      intro old' hold'
      cases hold'
      exact howner
    · exact Or.inl ⟨if_neg howner, old, rfl, howner⟩

lemma save?_of_none {s : Shelf} {id : Uuid} (hnone : s.get? id = none) (p : Saved) :
    s.save? id p = some (s.put id p) := by
  unfold Shelf.save?
  rw [hnone]

lemma save?_of_foreign {s : Shelf} {id : Uuid} {p old : Saved} (hget : s.get? id = some old)
    (hne : old.session ≠ p.session) : s.save? id p = none := by
  rcases save?_cases s id p with ⟨hnone, -⟩ | ⟨-, howner⟩
  · exact hnone
  · exact absurd (howner old hget) hne

lemma eq_put_of_save {s s' : Shelf} {id : Uuid} {p : Saved} (hsave : s.save? id p = some s') :
    s' = s.put id p ∧ ∀ old, s.get? id = some old → old.session = p.session := by
  rcases save?_cases s id p with ⟨hnone, -⟩ | ⟨hput, howner⟩
  · cases hnone.symm.trans hsave
  · exact ⟨Option.some.inj (hsave.symm.trans hput), howner⟩

lemma get?_save {s s' : Shelf} {id : Uuid} {p : Saved} (hsave : s.save? id p = some s')
    (id' : Uuid) : s'.get? id' = if id = id' then some p else s.get? id' := by
  rw [(eq_put_of_save hsave).1, Table.get?_put]

lemma get?_remove (s : Shelf) (b id id' : Uuid) :
    (s.remove b id).get? id' =
      if id = id' then (s.get? id).filter (fun p => p.session != b) else s.get? id' := by
  unfold Shelf.remove Shelf.find?
  by_cases hid : id = id'
  · subst hid
    rw [if_pos rfl]
    cases hget : s.get? id with
    | none => simp [Option.filter, hget]
    | some p =>
      by_cases hp : p.session = b
      · simp [Option.filter, hp, Table.get?_erase]
      · simp [Option.filter, hp, hget]
  · rw [if_neg hid]
    split
    · rw [Table.get?_erase, if_neg hid]
    · rfl

lemma get?_of_get?_remove {s : Shelf} {b id id' : Uuid} {p : Saved}
    (h : (s.remove b id).get? id' = some p) : s.get? id' = some p := by
  rw [get?_remove] at h
  by_cases hid : id = id'
  · subst hid
    rw [if_pos rfl] at h
    exact (Option.filter_eq_some_iff.1 h).1
  · rwa [if_neg hid] at h

/-- After a save a session finds the row that it has saved, and else what it found before. -/
lemma find?_save {s s' : Shelf} {id : Uuid} {p : Saved} (hsave : s.save? id p = some s')
    (a id' : Uuid) :
    s'.find? a id' = if id = id' ∧ p.session = a then some p else s.find? a id' := by
  unfold Shelf.find?
  rw [get?_save hsave]
  by_cases hid : id = id'
  · subst hid
    by_cases ha : p.session = a
    · simp [Option.filter, ha]
    · cases hold : s.get? id with
      | none => simp [Option.filter, ha]
      | some old => simp [Option.filter, ha, (eq_put_of_save hsave).2 old hold]
  · simp [hid]

lemma find?_remove (s : Shelf) (b id a id' : Uuid) :
    (s.remove b id).find? a id' = if id = id' ∧ b = a then none else s.find? a id' := by
  unfold Shelf.find?
  rw [get?_remove]
  by_cases hid : id = id'
  · subst hid
    rw [if_pos rfl, Option.filter_filter]
    by_cases hb : b = a
    · simp [hb]
    · have hsame (p : Saved) : (p.session != b && p.session == a) = (p.session == a) := by
        by_cases hp : p.session = a
        · simp [hp, Ne.symm hb]
        · simp [hp]
      rw [if_neg fun h => hb h.2]
      simp only [hsame]
  · simp [hid]

end PromptStudio.Proofs
