import Mathlib.Data.List.Induction
import Mathlib.Tactic.Lemma
import PromptStudio.Proofs.Json.Objects

/-!
# Records read back

Writing and reading a record are inverse to each other if they are for every single field: an
object of distinct fields is read as these fields, in whatever order they stand.
-/

namespace PromptStudio.Proofs
open Json

/-- Names and values of the fields of a format, from which reading gets the fields back. -/
structure Writer (F : Format) where
  name : F.Field → String
  write : (f : F.Field) → F.Value f → Json
  named_name : ∀ f, F.named (name f) = some f
  read_write : ∀ f v, F.read f (write f v).toReading = .ok v

namespace Writer

variable {F : Format} (W : Writer F)

def members (items : F.Items) : List (String × Json) :=
  items.map fun i => (W.name i.1, W.write i.1 i.2)

lemma passes_members (items : F.Items) : Passes F (memberReadings (W.members items)) items := by
  induction items with
  | nil => exact .nil
  | cons i rest ih => exact .field (W.named_name i.1) (W.read_write i.1 i.2) ih

/-- An object of distinct fields is read as these fields, the last first. -/
theorem readRecord_members (items : F.Items) (hdistinct : (items.map Sigma.fst).Nodup) :
    F.readRecord (Json.obj (W.members items)).toReading = .ok items.reverse :=
  readRecord_eq_ok_iff.2 ⟨rfl, items, W.passes_members items, hdistinct, rfl⟩

end Writer

lemma asList_map {α : Type} {read : Reading → Except Fault α} {write : α → Json}
    (h : ∀ a, read (write a).toReading = .ok a) (as : List α) :
    Reading.asList read (Json.arr (as.map write)).toReading = .ok as := by
  rw [toReading, Reading.asList]
  induction as with
  | nil => rfl
  | cons a rest ih =>
    rw [List.map_cons, itemReadings, readList, h a]
    dsimp only
    rw [ih]
    rfl

/-! ## Members by name -/

lemma lookup_member (n name : String) (v : Json) (rest : List (String × Json)) :
    ((n, v) :: rest).lookup name = if name = n then some v else rest.lookup name := by
  rw [List.lookup_cons]
  by_cases h : name = n
  · rw [if_pos h, beq_iff_eq.2 h]
  · rw [if_neg h, beq_eq_false_iff_ne.2 h]

lemma lookup_insertMember (n name : String) (v : Json) (members : List (String × Json)) :
    (insertMember n v members).lookup name =
      if name = n then some v else members.lookup name := by
  induction members with
  | nil => exact lookup_member n name v []
  | cons m rest ih =>
    obtain ⟨n', v'⟩ := m
    rw [insertMember, lookup_member]
    by_cases hlt : n < n'
    · rw [if_pos hlt, lookup_member, lookup_member]
    · rw [if_neg hlt]
      by_cases heq : n = n'
      · subst heq
        rw [if_pos rfl, lookup_member]
        split <;> rfl
      · rw [if_neg heq, lookup_member, ih]
        by_cases h : name = n'
        · have hne : ¬ name = n := fun e => heq (e.symm.trans h)
          rw [if_pos h, if_pos h, if_neg hne]
        · rw [if_neg h, if_neg h]

lemma get?_record_concat (members : List (String × Json)) (n name : String) (v : Json) :
    (record (members ++ [(n, v)])).get? name =
      if name = n then some v else (record members).get? name := by
  unfold record
  rw [List.foldl_append]
  exact lookup_insertMember n name v _

lemma get?_record_of_mem {members : List (String × Json)} {name : String} {v : Json}
    (hdistinct : (members.map Prod.fst).Nodup) (h : (name, v) ∈ members) :
    (record members).get? name = some v := by
  induction members using List.reverseRecOn with
  | nil => cases h
  | append_singleton members m ih =>
    obtain ⟨n, w⟩ := m
    rw [List.map_append, List.nodup_append] at hdistinct
    obtain ⟨hmembers, -, hnew⟩ := hdistinct
    rw [get?_record_concat]
    rcases List.mem_append.1 h with hold | hlast
    · have hne : name ≠ n := hnew name (List.mem_map.2 ⟨_, hold, rfl⟩) n (by simp)
      rw [if_neg hne, ih hmembers hold]
    · obtain ⟨rfl, rfl⟩ := Prod.mk.inj (List.mem_singleton.1 hlast)
      exact if_pos rfl

end PromptStudio.Proofs
