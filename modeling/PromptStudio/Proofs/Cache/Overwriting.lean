import PromptStudio.Proofs.Cache.Contents

/-!
# What a write changes

A write changes one entry and nothing else. On a server it sets two fields of one hash: the other
fields of the hash and all other hashes stay as they were.
-/

namespace PromptStudio.Proofs
open Cache

/-- The text in a field of the hash under one of a server's keys. -/
def fieldAt? (server : Server) (k name : String) : Option String :=
  (server.get? k).bind fun hash => hash.get? name

/-- The decimal text of the milliseconds of an instant. -/
def timeText (t : Instant) : String :=
  String.ofList (Text.Numeral.intDigits t.millis)

/-- After as before, but for one entry. -/
structure EntrySet (key : String) (e : Entry) (before after : Table String Entry) : Prop where
  entry : after.get? key = some e
  others : ∀ key', key' ≠ key → after.get? key' = before.get? key'

/-- After as before, but for the two fields of one entry. -/
structure FieldsSet (key : String) (e : Entry) (before after : Server) : Prop where
  value : fieldAt? after (serverKey key) valueField = some e.value
  time : fieldAt? after (serverKey key) timeField = some (timeText e.writtenAt)
  fields : ∀ name, name ≠ valueField → name ≠ timeField →
    fieldAt? after (serverKey key) name = fieldAt? before (serverKey key) name
  hashes : ∀ k, k ≠ serverKey key → after.get? k = before.get? k

/-- After as before, but for one entry in a store that works. -/
inductive Overwritten (key : String) (e : Entry) : Store → Store → Prop where
  | memory {before after : Table String Entry} (h : EntrySet key e before after) :
      Overwritten key e (.memory before) (.memory after)
  | hashes {before after : Server} (h : FieldsSet key e before after) :
      Overwritten key e (.hashes before) (.hashes after)
  | failing : Overwritten key e .failing .failing

lemma entrySet_put (key : String) (e : Entry) (entries : Table String Entry) :
    EntrySet key e entries (entries.put key e) where
  entry := Table.get?_put_self entries key e
  others _ hne := Table.get?_put_of_ne entries (Ne.symm hne) e

lemma get?_intoHash_of_ne (e : Entry) (hash : Option (Table String String)) {name : String}
    (hvalue : name ≠ valueField) (htime : name ≠ timeField) :
    (e.intoHash hash).get? name = hash.bind fun h => h.get? name := by
  unfold Entry.intoHash
  rw [Table.get?_put_of_ne _ (Ne.symm htime), Table.get?_put_of_ne _ (Ne.symm hvalue)]
  cases hash with
  | none => rfl
  | some h => rfl

lemma fieldsSet_put (key : String) (e : Entry) (server : Server) :
    FieldsSet key e server
      (server.put (serverKey key) (e.intoHash (server.get? (serverKey key)))) := by
  have hself (name : String) :
      fieldAt? (server.put (serverKey key) (e.intoHash (server.get? (serverKey key))))
        (serverKey key) name = (e.intoHash (server.get? (serverKey key))).get? name := by
    unfold fieldAt?
    rw [Table.get?_put_self, Option.bind_some]
  constructor
  · rw [hself, get?_intoHash_value]
  · rw [hself, get?_intoHash_time]
    rfl
  · intro name hvalue htime
    rw [hself, get?_intoHash_of_ne e _ hvalue htime]
    rfl
  · exact fun k hne => Table.get?_put_of_ne server (Ne.symm hne) _

lemma Overwritten.exists_hashes {key : String} {e : Entry} {server : Server} {s : Store}
    (h : Overwritten key e (.hashes server) s) :
    ∃ server', s = .hashes server' ∧ FieldsSet key e server server' := by
  cases h with
  | hashes hset => exact ⟨_, rfl, hset⟩

theorem overwritten_set (s : Store) (key : String) (v : Json) (now : Instant) :
    Overwritten key ⟨v.print, now⟩ s (s.set key v now) := by
  cases s with
  | memory entries => exact .memory (entrySet_put key _ entries)
  | hashes server => exact .hashes (fieldsSet_put key _ server)
  | failing => exact .failing

end PromptStudio.Proofs
