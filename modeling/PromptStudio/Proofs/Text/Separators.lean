import Mathlib.Data.List.TakeWhile
import Mathlib.Tactic.Lemma

/-!
# Texts around a separator

Where the separator may stand in the texts themselves, a joined text can be split in several ways.
Where it may not, the joined text tells its parts.
-/

namespace PromptStudio.Proofs

/-- Lists around one separator each are the same where the separator is, or one of them has its
separator further on. -/
lemma append_cons_eq_append_cons_iff {α : Type} {a : α} {x y z w : List α} :
    x ++ a :: z = y ++ a :: w ↔ (x = y ∧ z = w) ∨ (∃ m, x = y ++ a :: m ∧ w = m ++ a :: z) ∨
      ∃ m, y = x ++ a :: m ∧ z = m ++ a :: w := by
  constructor
  · intro h
    rcases List.append_eq_append_iff.1 h with ⟨m, hy, hz⟩ | ⟨m, hx, hw⟩
    · cases m with
      | nil => exact Or.inl ⟨(hy.trans (List.append_nil x)).symm, (List.cons.inj hz).2⟩
      | cons b m =>
        obtain ⟨rfl, htail⟩ := List.cons.inj hz
        exact Or.inr (Or.inr ⟨m, hy, htail⟩)
    · cases m with
      | nil => exact Or.inl ⟨hx.trans (List.append_nil y), (List.cons.inj hw).2.symm⟩
      | cons b m =>
        obtain ⟨rfl, htail⟩ := List.cons.inj hw
        exact Or.inr (Or.inl ⟨m, hx, htail⟩)
  · rintro (⟨rfl, rfl⟩ | ⟨m, rfl, rfl⟩ | ⟨m, rfl, rfl⟩)
    · rfl
    · rw [List.append_assoc, List.cons_append]
    · rw [List.append_assoc, List.cons_append]

lemma append_cons_inj_of_not_mem {α : Type} {a : α} {x y z w : List α} (hx : a ∉ x) (hy : a ∉ y) :
    x ++ a :: z = y ++ a :: w ↔ x = y ∧ z = w := by
  rw [append_cons_eq_append_cons_iff]
  constructor
  · rintro (h | ⟨m, rfl, -⟩ | ⟨m, rfl, -⟩)
    · exact h
    · exact absurd (List.mem_append_right y List.mem_cons_self) hx
    · exact absurd (List.mem_append_right x List.mem_cons_self) hy
  · exact Or.inl

lemma append_cons_inj_of_not_mem_right {α : Type} {a : α} {x y z w : List α} (hz : a ∉ z)
    (hw : a ∉ w) : x ++ a :: z = y ++ a :: w ↔ x = y ∧ z = w := by
  rw [← List.reverse_inj, List.reverse_append, List.reverse_append, List.reverse_cons,
    List.reverse_cons, List.append_assoc, List.append_assoc, List.singleton_append,
    List.singleton_append, append_cons_inj_of_not_mem (by simpa using hz) (by simpa using hw),
    List.reverse_inj, List.reverse_inj, and_comm]

section first

variable {α : Type} [BEq α] [LawfulBEq α] {a : α} {x : List α}

lemma not_mem_takeWhile_ne (a : α) (x : List α) : a ∉ x.takeWhile (· != a) := by
  intro hmem
  have hne := List.mem_takeWhile_imp hmem
  rw [bne_self_eq_false] at hne
  exact Bool.false_ne_true hne

lemma takeWhile_of_not_mem (hx : a ∉ x) : x.takeWhile (· != a) = x := by
  rw [List.takeWhile_eq_self_iff]
  intro b hb
  rw [bne_iff_ne]
  rintro rfl
  exact hx hb

lemma takeWhile_append_cons_of_not_mem (hx : a ∉ x) (z : List α) :
    (x ++ a :: z).takeWhile (· != a) = x := by
  rw [List.takeWhile_append, takeWhile_of_not_mem hx, if_pos rfl, List.takeWhile_cons_of_neg,
    List.append_nil]
  rw [bne_self_eq_false]
  exact Bool.false_ne_true

end first

lemma drop_append_cons {α : Type} (a : α) (x z : List α) :
    (x ++ a :: z).drop (x.length + 1) = z := by
  rw [List.drop_length_add_append, List.drop_one, List.tail_cons]

lemma toList_joined (x y : String) : (x ++ ":" ++ y).toList = x.toList ++ ':' :: y.toList := by
  rw [String.toList_append, String.toList_append, List.append_assoc]
  rfl

end PromptStudio.Proofs
