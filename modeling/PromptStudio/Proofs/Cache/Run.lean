import Mathlib.Data.List.Induction
import PromptStudio.Proofs.Cache.Contents
import PromptStudio.Proofs.Json.RoundTrip

/-!
# Runs of a cache

A run is a list of accesses to one cache or to the store beneath it. Whatever the layout of the
store, each access finds what was last written under its key.
-/

namespace PromptStudio.Proofs
open Cache

/-- An access to a cache, or to the entries of its store. -/
inductive Access where
  | set (key : String) (value : Json) (now : Instant)
  | get (key : String) (ttl : Int) (now : Instant)
  | write (key : String) (entry : Entry)
  | read (key : String)

inductive Found where
  | done
  | refused (fault : Fault)
  | value (v : Option Json)
  | entry (e : Except Fault (Option Entry))

namespace Access

/-- The store after an access, and what the access finds. -/
def onStore (s : Store) : Access → Store × Found
  | set key v now => (s.set key v now, .done)
  | get key ttl now => (s, .value (s.get? key ttl now))
  | write key e =>
    match s.write key e with
    | .ok s' => (s', .done)
    | .error f => (s, .refused f)
  | read key => (s, .entry (s.read key))

def entryFor? (key : String) : Access → Option Entry
  | set key' v now => if key' = key then some ⟨v.print, now⟩ else none
  | write key' e => if key' = key then some e else none
  | get .. | read .. => none

def writtenAt? : Access → Option Instant
  | set _ _ now => some now
  | write _ e => some e.writtenAt
  | get .. | read .. => none

end Access

def found (s : Store) : List Access → List Found
  | [] => []
  | a :: as => (a.onStore s).2 :: found (a.onStore s).1 as

/-- The entry last written under a key. -/
def lastWritten? (past : List Access) : Contents :=
  fun key => past.reverse.findSome? (Access.entryFor? key)

/-- What an access finds in the map of the entries last written. -/
def Access.onMap (past : List Access) : Access → Found
  | set .. => .done
  | get key ttl now => .value (freshValue (lastWritten? past key) ttl now)
  | write .. => .done
  | read key => .entry (.ok (lastWritten? past key))

lemma lastWritten?_concat (past : List Access) (a : Access) (key : String) :
    lastWritten? (past ++ [a]) key = (a.entryFor? key).or (lastWritten? past key) := by
  unfold lastWritten?
  rw [List.reverse_append, List.findSome?_append, List.reverse_singleton, List.findSome?_singleton]

lemma lastWritten?_put (past : List Access) {a : Access} {key : String} {e : Entry}
    (h : ∀ key', a.entryFor? key' = if key = key' then some e else none) :
    lastWritten? (past ++ [a]) = (lastWritten? past).put key e := by
  funext key'
  rw [lastWritten?_concat, h]
  unfold Contents.put
  split <;> rfl

lemma lastWritten?_of_silent (past : List Access) {between : List Access} {key : String}
    (h : ∀ a ∈ between, a.entryFor? key = none) :
    lastWritten? (past ++ between) key = lastWritten? past key := by
  induction between using List.reverseRecOn with
  | nil => rw [List.append_nil]
  | append_singleton between a ih =>
    rw [← List.append_assoc, lastWritten?_concat, h a (by simp), Option.none_or]
    exact ih fun a' hmem => h a' (List.mem_append_left [a] hmem)

/-- One access: it finds what the map has, and the store holds the map after it. -/
theorem Holds.onStore {s : Store} {past : List Access} (h : Holds s (lastWritten? past)) {a : Access}
    (htime : ∀ t, a.writtenAt? = some t → InCalendar t) :
    (a.onStore s).2 = a.onMap past ∧ Holds (a.onStore s).1 (lastWritten? (past ++ [a])) := by
  cases a with
  | set key v now =>
    rw [lastWritten?_put past fun _ => rfl]
    exact ⟨rfl, h.set v (htime now rfl)⟩
  | write key e =>
    obtain ⟨s', hwrite, hs'⟩ := h.write key e (htime e.writtenAt rfl)
    rw [lastWritten?_put past fun _ => rfl]
    unfold Access.onStore
    dsimp only
    rw [hwrite]
    exact ⟨rfl, hs'⟩
  | get key ttl now =>
    refine ⟨congrArg Found.value h.get?, fun key' => ?_⟩
    rw [lastWritten?_concat]
    exact h key'
  | read key =>
    refine ⟨congrArg Found.entry (h key), fun key' => ?_⟩
    rw [lastWritten?_concat]
    exact h key'

/-- What the accesses of a run find in the map of the entries last written. -/
def foundInMap (past : List Access) : List Access → List Found
  | [] => []
  | a :: as => a.onMap past :: foundInMap (past ++ [a]) as

lemma foundInMap_append (past first second : List Access) :
    foundInMap past (first ++ second) =
      foundInMap past first ++ foundInMap (past ++ first) second := by
  induction first generalizing past with
  | nil => rw [List.append_nil]; rfl
  | cons a first ih =>
    rw [List.cons_append, foundInMap, foundInMap, ih, List.append_assoc]
    rfl

lemma found_eq_foundInMap {accesses : List Access}
    (htime : ∀ a ∈ accesses, ∀ t, a.writtenAt? = some t → InCalendar t)
    {s : Store} {past : List Access} (h : Holds s (lastWritten? past)) :
    found s accesses = foundInMap past accesses := by
  induction accesses generalizing s past with
  | nil => rfl
  | cons a rest ih =>
    obtain ⟨hfound, hholds⟩ := h.onStore (htime a List.mem_cons_self)
    rw [found, foundInMap, hfound,
      ih (fun a' hmem => htime a' (List.mem_cons_of_mem a hmem)) hholds]

lemma onMap_get_of_set {before between : List Access} {key : String} {v : Json}
    {written now : Instant} {ttl : Int} (hsilent : ∀ a ∈ between, a.entryFor? key = none)
    (hnormal : v.Normal) (hdepth : v.depth ≤ Json.depthLimit) (hage : now.since written ≤ ttl) :
    (Access.get key ttl now).onMap (before ++ .set key v written :: between) = .value (some v) := by
  have hlast : lastWritten? (before ++ .set key v written :: between) key =
      some ⟨v.print, written⟩ := by
    rw [← List.singleton_append, ← List.append_assoc, lastWritten?_of_silent _ hsilent,
      lastWritten?_put before fun _ => rfl, Contents.put_self]
  refine congrArg Found.value ?_
  rw [hlast, freshValue_eq_some_iff]
  exact ⟨_, rfl, hage, parse?_print hnormal hdepth⟩

/-- Whether a store keeps entries in memory or as hashes, every access of a run finds what it finds
in the map of the entries last written. A value that was set is found as it was as long as it is
fresh and not written over. -/
theorem every_access_finds_last_written (accesses : List Access)
    (htime : ∀ a ∈ accesses, ∀ t, a.writtenAt? = some t → InCalendar t) :
    found (.memory .empty) accesses = foundInMap [] accesses ∧
    found (.hashes .empty) accesses = foundInMap [] accesses ∧
    ∀ before between key v written ttl now,
      accesses = before ++ .set key v written :: between ++ [.get key ttl now] →
      (∀ a ∈ between, a.entryFor? key = none) → v.Normal → v.depth ≤ Json.depthLimit →
      now.since written ≤ ttl →
      (foundInMap [] accesses).getLast? = some (.value (some v)) := by
  refine ⟨found_eq_foundInMap htime holds_memory_empty,
    found_eq_foundInMap htime holds_hashes_empty, ?_⟩
  rintro before between key v written ttl now rfl hsilent hnormal hdepth hage
  rw [foundInMap_append, foundInMap, foundInMap, List.nil_append,
    onMap_get_of_set hsilent hnormal hdepth hage, List.getLast?_append]
  rfl

/-- A value at the very end of its time, beside a damaged entry under a key that begins like a
server's. -/
theorem every_access_finds_last_written_beside_prefixed_key :
    let v : Json := .obj [("a", .str "\"\n"), ("b", .arr [.num (.ofInt (-7))])]
    let accesses : List Access := [.set "k" v ⟨0⟩, .write "cache:k" ⟨"\x7b", ⟨1⟩⟩, .get "k" 5 ⟨5⟩]
    (∀ a ∈ accesses, ∀ t, a.writtenAt? = some t → InCalendar t) ∧
    (found (.hashes .empty) accesses).getLast? = some (.value (some v)) := by
  intro v accesses
  have htime : ∀ a ∈ accesses, ∀ t, a.writtenAt? = some t → InCalendar t := by
    simp only [accesses, List.forall_mem_cons, Access.writtenAt?, Option.some.injEq, forall_eq',
      reduceCtorEq, false_implies, implies_true, List.not_mem_nil, and_true]
    decide
  have hnormal : v.Normal := ⟨by decide, trivial, ⟨trivial, trivial⟩, trivial⟩
  obtain ⟨-, hhashes, hvalue⟩ := every_access_finds_last_written accesses htime
  refine ⟨htime, ?_⟩
  rw [hhashes]
  exact hvalue [] [.write "cache:k" ⟨"\x7b", ⟨1⟩⟩] "k" v ⟨0⟩ 5 ⟨5⟩ rfl
    (by simp [Access.entryFor?]) hnormal (by decide) (by decide)

end PromptStudio.Proofs
