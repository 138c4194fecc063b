import PromptStudio.Proofs.Cache.Contents

/-!
# What is under each key of a store

Two stores of one kind hold the same if they do so under each key, in whatever order the keys came
in. Writes under different keys can change places.
-/

namespace PromptStudio.Proofs
open Cache

/-- Entries or hashes by key; a store that fails every call holds nothing. -/
inductive Holdings where
  | entries (at? : String → Option Entry)
  | hashes (at? : String → Option (Table String String))
  | nothing

def Holdings.put (key : String) (e : Entry) : Holdings → Holdings
  | entries at? => .entries (Function.update at? key (some e))
  | hashes at? =>
    .hashes (Function.update at? (serverKey key) (some (e.intoHash (at? (serverKey key)))))
  | nothing => .nothing

def holdings : Store → Holdings
  | .memory entries => .entries entries.get?
  | .hashes server => .hashes server.get?
  | .failing => .nothing

lemma get?_put_eq_update {κ α : Type} [DecidableEq κ] (t : Table κ α) (k : κ) (a : α) :
    (t.put k a).get? = Function.update t.get? k (some a) := by
  funext k'
  rw [Table.get?_put, Function.update_apply]
  by_cases h : k = k'
  · rw [if_pos h, if_pos h.symm]
  · rw [if_neg h, if_neg (Ne.symm h)]

lemma holdings_set (s : Store) (key : String) (v : Json) (now : Instant) :
    holdings (s.set key v now) = (holdings s).put key ⟨v.print, now⟩ := by
  cases s with
  | memory entries => exact congrArg Holdings.entries (get?_put_eq_update entries key _)
  | hashes server => exact congrArg Holdings.hashes (get?_put_eq_update server _ _)
  | failing => rfl

lemma Holdings.put_comm (h : Holdings) {key key' : String} (hne : key ≠ key') (e e' : Entry) :
    (h.put key e).put key' e' = (h.put key' e').put key e := by
  cases h with
  | entries at? => exact congrArg Holdings.entries (Function.update_comm hne _ _ _)
  | hashes at? =>
    have hserver : serverKey key ≠ serverKey key' := serverKey_injective.ne hne
    simp only [Holdings.put, Function.update_of_ne hserver, Function.update_of_ne hserver.symm]
    exact congrArg Holdings.hashes (Function.update_comm hserver _ _ _)
  | nothing => rfl

lemma read_set_of_ne (s : Store) {key key' : String} (hne : key ≠ key') (v : Json)
    (written : Instant) : (s.set key v written).read key' = s.read key' := by
  unfold Store.set
  cases hwrite : s.write key ⟨v.print, written⟩ with
  | error f => rfl
  | ok s' => exact read_write_of_ne hwrite hne

lemma get?_set_of_ne (s : Store) {key key' : String} (hne : key ≠ key') (v : Json) (ttl : Int)
    (written now : Instant) : (s.set key v written).get? key' ttl now = s.get? key' ttl now :=
  get?_congr (read_set_of_ne s hne v written) ttl now

/-- The store reads back what is written at this time: a memory always does, and a server if the
calendar has the time. -/
def Keeps : Store → Instant → Prop
  | .memory _, _ => True
  | .hashes _, t => InCalendar t
  | .failing, _ => False

lemma keeps_of_ne_failing {s : Store} (h : s ≠ .failing) {t : Instant} (ht : InCalendar t) :
    Keeps s t := by
  cases s with
  | memory entries => trivial
  | hashes server => exact ht
  | failing => exact absurd rfl h

lemma Keeps.set {s : Store} {t : Instant} (h : Keeps s t) (key : String) (v : Json)
    (now : Instant) : Keeps (s.set key v now) t := by
  cases s with
  | memory entries => trivial
  | hashes server => exact h
  | failing => exact h.elim

lemma read_set_self {s : Store} {now : Instant} (h : Keeps s now) (key : String) (v : Json) :
    (s.set key v now).read key = .ok (some ⟨v.print, now⟩) := by
  unfold Store.set
  cases hwrite : s.write key ⟨v.print, now⟩ with
  | error f =>
    obtain rfl := eq_failing_of_write hwrite
    exact h.elim
  | ok s' =>
    rcases read_write hwrite with hread | ⟨hout, f, hfault⟩
    · exact hread
    · cases s with
      | memory entries =>
        cases hwrite
        cases hfault
      | hashes server => exact absurd h hout
      | failing => exact h.elim

lemma get?_set_self (s : Store) {key : String} {v : Json} {ttl : Int}
    (hread : Json.parse? v.print = some v) (httl : 0 ≤ ttl) (now : Instant) :
    (s.set key v now).get? key ttl now = some v ∨ (s.set key v now).get? key ttl now = none := by
  unfold Store.set
  cases hwrite : s.write key ⟨v.print, now⟩ with
  | error f =>
    obtain rfl := eq_failing_of_write hwrite
    exact Or.inr rfl
  | ok s' =>
    rcases read_write hwrite with hentry | ⟨-, f, hfault⟩
    · left
      rw [get?_of_read hentry, freshValue_eq_some_iff]
      have hage : now.since now = 0 := Int.sub_self now.millis
      exact ⟨_, rfl, hage ▸ httl, hread⟩
    · exact Or.inr (get?_of_fault hfault ttl now)

end PromptStudio.Proofs
