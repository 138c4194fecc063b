/-!
# Finite tables

A table holds each key at most once, in the order in which the keys came in. Putting a value
under a key that is there replaces the value in its place.
-/

namespace PromptStudio

/-- Pairs with distinct keys. -/
structure Table (κ α : Type) where
  entries : List (κ × α)
  distinct : (entries.map Prod.fst).Nodup

namespace Table

variable {κ α : Type} [DecidableEq κ]

def empty : Table κ α := ⟨[], List.nodup_nil⟩

instance : Inhabited (Table κ α) := ⟨empty⟩

/-- The pairs with the value of one key replaced, or with a pair more at the end. -/
def putEntry (k : κ) (a : α) : List (κ × α) → List (κ × α)
  | [] => [(k, a)]
  | (k', a') :: rest => if k' = k then (k, a) :: rest else (k', a') :: putEntry k a rest

theorem keys_putEntry (k : κ) (a : α) (es : List (κ × α)) :
    (putEntry k a es).map Prod.fst =
      if k ∈ es.map Prod.fst then es.map Prod.fst else es.map Prod.fst ++ [k] := by
  induction es with
  | nil => simp [putEntry]
  | cons e rest ih =>
    obtain ⟨k', a'⟩ := e
    by_cases h : k' = k
    · simp [putEntry, h]
    · have hk : ¬ k = k' := fun e => h e.symm
      simp only [putEntry, if_neg h, List.map_cons, ih, List.mem_cons, hk, false_or]
      split <;> simp

/-- The table with a value put under a key. -/
def put (t : Table κ α) (k : κ) (a : α) : Table κ α where
  entries := putEntry k a t.entries
  distinct := by
    rw [keys_putEntry]
    split
    · exact t.distinct
    · rename_i h
      refine List.nodup_append.2 ⟨t.distinct, by simp, ?_⟩
      intro x hx y hy
      rw [List.mem_singleton] at hy
      exact fun e => h (hy ▸ e ▸ hx)

/-- The value under a key. -/
def get? (t : Table κ α) (k : κ) : Option α :=
  (t.entries.find? fun e => e.1 == k).map Prod.snd

/-- The table of the pairs that pass a test. -/
def filter (t : Table κ α) (keep : κ → α → Bool) : Table κ α where
  entries := t.entries.filter fun e => keep e.1 e.2
  distinct := t.distinct.sublist (List.Sublist.map _ List.filter_sublist)

/-- The table without a key. -/
def erase (t : Table κ α) (k : κ) : Table κ α :=
  t.filter fun k' _ => k' != k

/-- The number of keys. -/
def size (t : Table κ α) : Nat := t.entries.length

@[simp] theorem get?_empty (k : κ) : (empty : Table κ α).get? k = none := rfl

theorem find?_putEntry (k k' : κ) (a : α) (es : List (κ × α)) :
    ((putEntry k a es).find? fun e => e.1 == k').map Prod.snd =
      if k = k' then some a else (es.find? fun e => e.1 == k').map Prod.snd := by
  induction es with
  | nil => by_cases h : k = k' <;> simp [putEntry, h]
  | cons e rest ih =>
    obtain ⟨k₁, a₁⟩ := e
    by_cases h1 : k₁ = k
    · subst h1
      by_cases h2 : k₁ = k' <;> simp [putEntry, h2]
    · by_cases h2 : k₁ = k'
      · subst h2
        have h3 : ¬ k = k₁ := fun e => h1 e.symm
        simp [putEntry, h1, h3]
      · simpa [putEntry, h1, h2] using ih

theorem get?_put (t : Table κ α) (k k' : κ) (a : α) :
    (t.put k a).get? k' = if k = k' then some a else t.get? k' :=
  find?_putEntry k k' a t.entries

@[simp] theorem get?_put_self (t : Table κ α) (k : κ) (a : α) : (t.put k a).get? k = some a := by
  simp [get?_put]

theorem get?_put_of_ne (t : Table κ α) {k k' : κ} (h : k ≠ k') (a : α) :
    (t.put k a).get? k' = t.get? k' := by
  simp [get?_put, h]

theorem find?_eq_some_iff_of_nodup (k : κ) (a : α) (es : List (κ × α))
    (distinct : (es.map Prod.fst).Nodup) :
    (es.find? fun e => e.1 == k).map Prod.snd = some a ↔ (k, a) ∈ es := by
  induction es with
  | nil => simp
  | cons e rest ih =>
    obtain ⟨k₁, a₁⟩ := e
    rw [List.map_cons, List.nodup_cons] at distinct
    by_cases h : k₁ = k
    · subst h
      have hrest : (k₁, a) ∉ rest := fun h => distinct.1 (List.mem_map.2 ⟨(k₁, a), h, rfl⟩)
      simp [hrest, eq_comm]
    · have hk : ¬ k = k₁ := fun e => h e.symm
      simpa [h, hk] using ih distinct.2

/-- A key has a value just if the pair is in the table. -/
theorem get?_eq_some_iff (t : Table κ α) (k : κ) (a : α) :
    t.get? k = some a ↔ (k, a) ∈ t.entries :=
  find?_eq_some_iff_of_nodup k a t.entries t.distinct

theorem get?_filter (t : Table κ α) (keep : κ → α → Bool) (k : κ) :
    (t.filter keep).get? k = (t.get? k).filter (keep k) := by
  apply Option.ext
  intro a
  rw [get?_eq_some_iff, Option.filter_eq_some_iff, get?_eq_some_iff]
  exact List.mem_filter

theorem get?_erase (t : Table κ α) (k k' : κ) :
    (t.erase k).get? k' = if k = k' then none else t.get? k' := by
  rw [erase, get?_filter]
  by_cases h : k = k'
  · subst h
    cases t.get? k <;> simp [Option.filter]
  · have h' : ¬ k' = k := fun e => h e.symm
    cases t.get? k' <;> simp [Option.filter, h, h']

theorem putEntry_of_find? (k : κ) (a : α) (es : List (κ × α))
    (h : (es.find? fun e => e.1 == k).map Prod.snd = some a) : putEntry k a es = es := by
  induction es with
  | nil => simp at h
  | cons e rest ih =>
    obtain ⟨k₁, a₁⟩ := e
    by_cases hk : k₁ = k
    · simp_all [putEntry]
    · simp only [putEntry, if_neg hk, List.cons.injEq, true_and]
      exact ih (by simpa [hk] using h)

/-- Putting the value that is there changes nothing. -/
theorem put_of_get? (t : Table κ α) {k : κ} {a : α} (h : t.get? k = some a) : t.put k a = t := by
  obtain ⟨es, distinct⟩ := t
  simp only [put, mk.injEq]
  exact putEntry_of_find? k a es h

end Table
end PromptStudio
