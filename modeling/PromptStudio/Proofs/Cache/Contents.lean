import Mathlib.Logic.Function.Basic
import Mathlib.Tactic.Lemma
import PromptStudio.Cache.Fresh
import PromptStudio.Proofs.Text.Digits

/-!
# What a store holds

A store is read as a map from keys to entries, whether it keeps the entries as they are or as
hashes on a server. An entry comes back as it was written, unless its time is none that a server
can tell.
-/

namespace PromptStudio.Proofs
open Cache

def InCalendar (t : Instant) : Prop :=
  Instant.first ≤ t.millis ∧ t.millis ≤ Instant.last

instance (t : Instant) : Decidable (InCalendar t) :=
  inferInstanceAs (Decidable (Instant.first ≤ t.millis ∧ t.millis ≤ Instant.last))

lemma ofMillis?_of_inCalendar {t : Instant} (h : InCalendar t) :
    Instant.ofMillis? t.millis = some t :=
  if_pos h

lemma ofMillis?_of_not_inCalendar {t : Instant} (h : ¬ InCalendar t) :
    Instant.ofMillis? t.millis = none :=
  if_neg h

/-! ## An entry as a hash -/

lemma time?_intDigits (i : Int) :
    time? (String.ofList (Text.Numeral.intDigits i)) = some i ∨
      time? (String.ofList (Text.Numeral.intDigits i)) = none := by
  unfold time?
  rw [String.toList_ofList]
  cases h : Text.Numeral.readInt Text.Numeral.signedLimit64 (Text.Numeral.intDigits i) with
  | ok j =>
    rw [eq_of_readInt_intDigits h]
    exact Or.inl rfl
  | error f => exact Or.inr rfl

lemma time?_of_inCalendar {t : Instant} (h : InCalendar t) :
    time? (String.ofList (Text.Numeral.intDigits t.millis)) = some t.millis := by
  obtain ⟨hfirst, hlast⟩ := h
  unfold Instant.first at hfirst
  unfold Instant.last at hlast
  have hlimit : (Text.Numeral.signedLimit64 : Int) = 0x8000000000000000 := rfl
  unfold time?
  rw [String.toList_ofList, readInt_intDigits (by omega) (by omega)]
  rfl

lemma get?_intoHash_value (e : Entry) (hash : Option (Table String String)) :
    (e.intoHash hash).get? valueField = some e.value := by
  unfold Entry.intoHash
  rw [Table.get?_put_of_ne _ (by decide), Table.get?_put_self]

lemma get?_intoHash_time (e : Entry) (hash : Option (Table String String)) :
    (e.intoHash hash).get? timeField =
      some (String.ofList (Text.Numeral.intDigits e.writtenAt.millis)) := by
  unfold Entry.intoHash
  rw [Table.get?_put_self]

lemma ofHash_intoHash (key : String) (e : Entry) (hash : Option (Table String String)) :
    Entry.ofHash key (some (e.intoHash hash)) = .ok (some e) ∨
      ¬ InCalendar e.writtenAt ∧ ∃ f, Entry.ofHash key (some (e.intoHash hash)) = .error f := by
  unfold Entry.ofHash
  dsimp only [Option.bind_some]
  rw [get?_intoHash_value, get?_intoHash_time]
  dsimp only
  by_cases hcalendar : InCalendar e.writtenAt
  · left
    rw [time?_of_inCalendar hcalendar]
    dsimp only
    rw [ofMillis?_of_inCalendar hcalendar]
  · right
    refine ⟨hcalendar, ?_⟩
    rcases time?_intDigits e.writtenAt.millis with h | h
    · rw [h]
      dsimp only
      rw [ofMillis?_of_not_inCalendar hcalendar]
      exact ⟨_, rfl⟩
    · rw [h]
      exact ⟨_, rfl⟩

lemma serverKey_injective : Function.Injective serverKey := by
  intro key key' h
  have hlist := congrArg String.toList h
  unfold serverKey at hlist
  rw [String.toList_append, String.toList_append] at hlist
  exact String.toList_inj.1 (List.append_cancel_left hlist)

/-! ## Reading after writing -/

section write

variable {s s' : Store} {key : String} {e : Entry}

lemma eq_failing_of_write {f : Fault} (h : s.write key e = .error f) : s = .failing := by
  cases s with
  | memory entries => cases h
  | hashes server => cases h
  | failing => rfl

/-- The key that was written under holds the entry, unless its time cannot be told. -/
theorem read_write (h : s.write key e = .ok s') :
    s'.read key = .ok (some e) ∨ ¬ InCalendar e.writtenAt ∧ ∃ f, s'.read key = .error f := by
  cases s with
  | memory entries =>
    rw [← Except.ok.inj h]
    left
    unfold Store.read
    dsimp only
    rw [Table.get?_put_self]
  | hashes server =>
    rw [← Except.ok.inj h]
    unfold Store.read
    dsimp only
    rw [Table.get?_put_self]
    exact ofHash_intoHash key e _
  | failing => cases h

theorem read_write_of_ne (h : s.write key e = .ok s') {key' : String} (hne : key ≠ key') :
    s'.read key' = s.read key' := by
  cases s with
  | memory entries =>
    rw [← Except.ok.inj h]
    unfold Store.read
    dsimp only
    rw [Table.get?_put_of_ne _ hne]
  | hashes server =>
    rw [← Except.ok.inj h]
    unfold Store.read
    dsimp only
    rw [Table.get?_put_of_ne _ (serverKey_injective.ne hne)]
  | failing => cases h

end write

/-! ## Stores as maps -/

/-- The last entry written under each key. -/
abbrev Contents : Type := String → Option Entry

def Contents.put (c : Contents) (key : String) (e : Entry) : Contents :=
  fun key' => if key = key' then some e else c key'

lemma Contents.put_self (c : Contents) (key : String) (e : Entry) : c.put key e key = some e :=
  if_pos rfl

lemma Contents.put_of_ne (c : Contents) {key key' : String} (h : key ≠ key') (e : Entry) :
    c.put key e key' = c key' :=
  if_neg h

/-- The value of an entry, if it is at most `ttl` milliseconds old and can be read. -/
def freshValue (e : Option Entry) (ttl : Int) (now : Instant) : Option Json :=
  e.bind fun e => if now.since e.writtenAt ≤ ttl then Json.parse? e.value else none

lemma freshValue_eq_some_iff {e : Option Entry} {ttl : Int} {now : Instant} {v : Json} :
    freshValue e ttl now = some v ↔
      ∃ e', e = some e' ∧ now.since e'.writtenAt ≤ ttl ∧ Json.parse? e'.value = some v := by
  unfold freshValue
  rw [Option.bind_eq_some_iff]
  refine exists_congr fun e' => and_congr_right fun _ => ?_
  by_cases h : now.since e'.writtenAt ≤ ttl
  · simp [h]
  · simp [h]

lemma get?_of_read {s : Store} {key : String} {e : Option Entry} (h : s.read key = .ok e)
    (ttl : Int) (now : Instant) : s.get? key ttl now = freshValue e ttl now := by
  unfold Store.get?
  rw [h]
  cases e with
  | none => rfl
  | some e =>
    unfold freshValue
    dsimp only [Option.bind_some]
    by_cases hfresh : now.since e.writtenAt ≤ ttl
    · rw [if_neg (Int.not_lt.2 hfresh), if_pos hfresh]
    · rw [if_pos (Int.not_le.1 hfresh), if_neg hfresh]

lemma get?_congr {s s' : Store} {key : String} (h : s'.read key = s.read key) (ttl : Int)
    (now : Instant) : s'.get? key ttl now = s.get? key ttl now := by
  unfold Store.get?
  rw [h]

lemma get?_of_fault {s : Store} {key : String} {f : Fault} (h : s.read key = .error f) (ttl : Int)
    (now : Instant) : s.get? key ttl now = none := by
  unfold Store.get?
  rw [h]

lemma get?_eq_some_iff_read {s : Store} {key : String} {ttl : Int} {now : Instant} {v : Json} :
    s.get? key ttl now = some v ↔ ∃ e, s.read key = .ok (some e) ∧
      now.since e.writtenAt ≤ ttl ∧ Json.parse? e.value = some v := by
  cases hread : s.read key with
  | error f =>
    rw [get?_of_fault hread]
    exact iff_of_false nofun (fun ⟨_, heq, _⟩ => by cases heq)
  | ok entry =>
    rw [get?_of_read hread, freshValue_eq_some_iff]
    simp only [Except.ok.injEq]

/-- Reading the store is reading the map. -/
def Holds (s : Store) (c : Contents) : Prop :=
  ∀ key, s.read key = .ok (c key)

/-- Reading the store is reading the map, or fails. -/
def HoldsAtMost (s : Store) (c : Contents) : Prop :=
  ∀ key, s.read key = .ok (c key) ∨ ∃ f, s.read key = .error f

lemma Holds.atMost {s : Store} {c : Contents} (h : Holds s c) : HoldsAtMost s c :=
  fun key => Or.inl (h key)

lemma holds_memory_empty : Holds (.memory .empty) fun _ => none := fun _ => rfl

lemma holds_hashes_empty : Holds (.hashes .empty) fun _ => none := fun _ => rfl

lemma holdsAtMost_failing (c : Contents) : HoldsAtMost .failing c := fun _ => Or.inr ⟨_, rfl⟩

section Holds

variable {s : Store} {c : Contents} {key : String} {ttl : Int} {now : Instant}

/-- A store that can be read can be written to, and then holds the entry as well. -/
theorem Holds.write (h : Holds s c) (key : String) (e : Entry) (htime : InCalendar e.writtenAt) :
    ∃ s', s.write key e = .ok s' ∧ Holds s' (c.put key e) := by
  cases hwrite : s.write key e with
  | error f =>
    obtain rfl := eq_failing_of_write hwrite
    cases h key
  | ok s' =>
    refine ⟨s', rfl, fun key' => ?_⟩
    by_cases hkey : key = key'
    · subst hkey
      rw [Contents.put_self]
      rcases read_write hwrite with hread | ⟨hout, -⟩
      · exact hread
      · exact absurd htime hout
    · rw [Contents.put_of_ne c hkey, read_write_of_ne hwrite hkey]
      exact h key'

lemma Holds.set (h : Holds s c) (v : Json) (htime : InCalendar now) :
    Holds (s.set key v now) (c.put key ⟨v.print, now⟩) := by
  obtain ⟨s', hwrite, hs'⟩ := h.write key ⟨v.print, now⟩ htime
  unfold Store.set
  rw [hwrite]
  exact hs'

theorem Holds.get? (h : Holds s c) : s.get? key ttl now = freshValue (c key) ttl now :=
  get?_of_read (h key) ttl now

/-- A write that fails leaves behind less than it might have. -/
theorem HoldsAtMost.set (h : HoldsAtMost s c) (key : String) (v : Json) (now : Instant) :
    HoldsAtMost (s.set key v now) (c.put key ⟨v.print, now⟩) := by
  intro key'
  unfold Store.set
  cases hwrite : s.write key ⟨v.print, now⟩ with
  | error f =>
    obtain rfl := eq_failing_of_write hwrite
    exact Or.inr ⟨_, rfl⟩
  | ok s' =>
    dsimp only
    by_cases hkey : key = key'
    · subst hkey
      rw [Contents.put_self]
      rcases read_write hwrite with hread | ⟨-, hfault⟩
      · exact Or.inl hread
      · exact Or.inr hfault
    · rw [Contents.put_of_ne c hkey, read_write_of_ne hwrite hkey]
      exact h key'

/-- A value that is found is the fresh value of what was written. -/
theorem HoldsAtMost.get? (h : HoldsAtMost s c) {v : Json} (hget : s.get? key ttl now = some v) :
    freshValue (c key) ttl now = some v := by
  rcases h key with hread | ⟨f, hread⟩
  · rwa [get?_of_read hread] at hget
  · rw [get?_of_fault hread] at hget
    cases hget

end Holds

end PromptStudio.Proofs
