import Mathlib.Data.List.Induction
import PromptStudio.Lookup.Fetch
import PromptStudio.Proofs.Cache.Contents
import PromptStudio.Proofs.Json.RoundTrip

/-!
# Where the value of a query comes from

A value is either brought by the request of its own query, or it was brought by the last successful
request under the same key, and is kept no longer than asked for.
-/

namespace PromptStudio.Proofs
open Cache Lookup

lemma ask_eq_ok_iff {remote : Remote} {r : Remote.Request} {v : Json} :
    remote.ask r = .ok v ↔
      ∃ reply, remote r = some reply ∧ reply.isSuccess = true ∧
        Json.parse? reply.body = some v := by
  unfold Remote.ask
  cases remote r with
  | none => simp
  | some reply =>
    unfold Remote.Reply.value Remote.Reply.json
    cases hsuccess : reply.isSuccess with
    | false => simp [hsuccess]
    | true =>
      cases hparse : Json.parse? reply.body with
      | none => simp [hsuccess, hparse]
      | some w => simp [hsuccess, hparse]

lemma parse?_print_of_ask {remote : Remote} {r : Remote.Request} {v : Json}
    (h : remote.ask r = .ok v) : Json.parse? v.print = some v := by
  obtain ⟨reply, -, -, hparse⟩ := ask_eq_ok_iff.1 h
  exact parse?_print_of_parse? hparse

/-- What a query does, in three cases: it finds its value, or its request brings one, or fails. -/
theorem fetch_cases (q : Query) (remote : Remote) (now : Instant) (s : Store) :
    (∃ v, s.get? q.key q.ttl now = some v ∧ q.fetch remote now s = ⟨.ok v, s, []⟩) ∨
    (∃ v, remote.ask q.request = .ok v ∧
      q.fetch remote now s = ⟨.ok v, s.set q.key v now, [q.request]⟩) ∨
    (∃ e, remote.ask q.request = .error e ∧
      q.fetch remote now s = ⟨.error e, s, [q.request]⟩) := by
  unfold Query.fetch
  cases hget : s.get? q.key q.ttl now with
  | some v => exact Or.inl ⟨v, rfl, rfl⟩
  | none =>
    dsimp only
    cases hask : remote.ask q.request with
    | ok v => exact Or.inr (Or.inl ⟨v, rfl, rfl⟩)
    | error e => exact Or.inr (Or.inr ⟨e, rfl, rfl⟩)

lemma store_fetch_failing (q : Query) (remote : Remote) (now : Instant) :
    (q.fetch remote now .failing).store = .failing := by
  rcases fetch_cases q remote now .failing with ⟨v, -, heq⟩ | ⟨v, -, heq⟩ | ⟨e, -, heq⟩
  · rw [heq]
  · rw [heq]
    rfl
  · rw [heq]

/-! ## Runs of queries -/

/-- A query with the time and the other services that it meets. -/
structure Asking where
  query : Query
  remote : Remote
  now : Instant

def Asking.fetch (a : Asking) (s : Store) : Fetched (Except Remote.Failure Json) :=
  a.query.fetch a.remote a.now s

lemma Asking.fetch_cases (a : Asking) (s : Store) :
    (∃ v, s.get? a.query.key a.query.ttl a.now = some v ∧ a.fetch s = ⟨.ok v, s, []⟩) ∨
    (∃ v, a.remote.ask a.query.request = .ok v ∧
      a.fetch s = ⟨.ok v, s.set a.query.key v a.now, [a.query.request]⟩) ∨
    (∃ e, a.remote.ask a.query.request = .error e ∧
      a.fetch s = ⟨.error e, s, [a.query.request]⟩) :=
  Proofs.fetch_cases a.query a.remote a.now s

/-- A query of a run, with what came of it. -/
structure Asked where
  asking : Asking
  fetched : Fetched (Except Remote.Failure Json)

/-- The queries of a run, in order, with what came of each. -/
def asked (s : Store) : List Asking → List Asked
  | [] => []
  | a :: as => ⟨a, a.fetch s⟩ :: asked (a.fetch s).store as

def storeAfter (s : Store) (as : List Asking) : Store :=
  as.foldl (fun s a => (a.fetch s).store) s

/-- The value that the request of a query brought under a key, with its time. -/
def Asked.brought? (key : String) (a : Asked) : Option (Json × Instant) :=
  if a.asking.query.key = key ∧ a.fetched.sent ≠ [] then
    a.fetched.outcome.toOption.map fun v => (v, a.asking.now)
  else none

/-- The value that was last brought under a key, with its time. -/
def lastBrought? (past : List Asked) (key : String) : Option (Json × Instant) :=
  past.reverse.findSome? (Asked.brought? key)

lemma asked_concat (s : Store) (as : List Asking) (a : Asking) :
    asked s (as ++ [a]) = asked s as ++ [⟨a, a.fetch (storeAfter s as)⟩] := by
  induction as generalizing s with
  | nil => rfl
  | cons b as ih =>
    rw [List.cons_append, asked, ih]
    rfl

lemma storeAfter_concat (s : Store) (as : List Asking) (a : Asking) :
    storeAfter s (as ++ [a]) = (a.fetch (storeAfter s as)).store := by
  unfold storeAfter
  rw [List.foldl_append]
  rfl

lemma lastBrought?_concat (past : List Asked) (a : Asked) (key : String) :
    lastBrought? (past ++ [a]) key = (a.brought? key).or (lastBrought? past key) := by
  unfold lastBrought?
  rw [List.reverse_append, List.findSome?_append, List.reverse_singleton, List.findSome?_singleton]

/-- What a store holds after queries that brought these values. -/
def kept (past : List Asked) : Contents :=
  fun key => (lastBrought? past key).map fun b => ⟨b.1.print, b.2⟩

/-- After the queries, a store holds no more than what they brought, all of which can be read. -/
structure Remembers (past : List Asked) (s : Store) : Prop where
  holds : HoldsAtMost s (kept past)
  readable : ∀ key v w, lastBrought? past key = some (v, w) → Json.parse? v.print = some v

section Remembers

variable {past : List Asked} {s : Store}

lemma Remembers.of_silent (h : Remembers past s) {a : Asked} (hquiet : ∀ key, a.brought? key = none)
    (hstore : a.fetched.store = s) : Remembers (past ++ [a]) a.fetched.store := by
  have hlast : lastBrought? (past ++ [a]) = lastBrought? past := by
    funext key
    rw [lastBrought?_concat, hquiet key, Option.none_or]
  rw [hstore]
  constructor
  · unfold kept
    rw [hlast]
    exact h.holds
  · rw [hlast]
    exact h.readable

lemma lastBrought?_of_request (past : List Asked) (a : Asking) (v : Json) (s : Store)
    (r : Remote.Request) (key : String) :
    lastBrought? (past ++ [⟨a, ⟨.ok v, s, [r]⟩⟩]) key =
      if a.query.key = key then some (v, a.now) else lastBrought? past key := by
  rw [lastBrought?_concat]
  unfold Asked.brought?
  by_cases h : a.query.key = key
  · simp [h, Except.toOption]
  · simp [h]

lemma kept_of_request (past : List Asked) (a : Asking) (v : Json) (s : Store) (r : Remote.Request) :
    kept (past ++ [⟨a, ⟨.ok v, s, [r]⟩⟩]) = (kept past).put a.query.key ⟨v.print, a.now⟩ := by
  funext key
  unfold kept Contents.put
  rw [lastBrought?_of_request]
  split <;> rfl

lemma Remembers.of_request (h : Remembers past s) (a : Asking) {v : Json}
    (hread : Json.parse? v.print = some v) (r : Remote.Request) :
    Remembers (past ++ [⟨a, ⟨.ok v, s.set a.query.key v a.now, [r]⟩⟩])
      (s.set a.query.key v a.now) := by
  constructor
  · rw [kept_of_request]
    exact h.holds.set a.query.key v a.now
  · intro key v' w hbrought
    rw [lastBrought?_of_request] at hbrought
    split at hbrought
    · cases hbrought
      exact hread
    · exact h.readable key v' w hbrought

theorem Remembers.fetch (h : Remembers past s) (a : Asking) :
    Remembers (past ++ [⟨a, a.fetch s⟩]) (a.fetch s).store := by
  rcases a.fetch_cases s with ⟨v, -, heq⟩ | ⟨v, hask, heq⟩ | ⟨e, -, heq⟩
  · rw [heq]
    exact h.of_silent (fun key => by simp [Asked.brought?]) rfl
  · rw [heq]
    exact h.of_request a (parse?_print_of_ask hask) a.query.request
  · rw [heq]
    exact h.of_silent (fun key => by simp [Asked.brought?, Except.toOption]) rfl

end Remembers

theorem remembers_asked {s : Store} (h : HoldsAtMost s fun _ => none) (as : List Asking) :
    Remembers (asked s as) (storeAfter s as) := by
  induction as using List.reverseRecOn with
  | nil => exact ⟨h, fun _ _ _ hbrought => by cases hbrought⟩
  | append_singleton as a ih =>
    rw [asked_concat, storeAfter_concat]
    exact ih.fetch a

lemma storeAfter_failing (as : List Asking) : storeAfter .failing as = .failing := by
  induction as using List.reverseRecOn with
  | nil => rfl
  | append_singleton as a ih =>
    rw [storeAfter_concat, ih]
    exact store_fetch_failing a.query a.remote a.now

/-- The request of the query was the only one sent, was answered with success, and brought the
value. -/
def FromRequest (a : Asking) (sent : List Remote.Request) (v : Json) : Prop :=
  sent = [a.query.request] ∧ ∃ reply, a.remote a.query.request = some reply ∧
    reply.isSuccess = true ∧ Json.parse? reply.body = some v

/-- Nothing was sent, and the value is the one last brought under the key, not too long ago. -/
def FromPast (past : List Asked) (a : Asking) (sent : List Remote.Request) (v : Json) : Prop :=
  sent = [] ∧ ∃ w, lastBrought? past a.query.key = some (v, w) ∧ a.now.since w ≤ a.query.ttl

/-- After any run from an empty store, the value of a query comes from its own request or from the
last successful one under its key. From a store that fails every call it comes from its own
request. -/
theorem value_from_request_or_past (s : Store)
    (hs : s = .memory .empty ∨ s = .hashes .empty ∨ s = .failing) (as : List Asking) (a : Asking)
    (v : Json) (h : (a.fetch (storeAfter s as)).outcome = .ok v) :
    FromRequest a (a.fetch (storeAfter s as)).sent v ∨
      s ≠ .failing ∧ FromPast (asked s as) a (a.fetch (storeAfter s as)).sent v := by
  have hempty : HoldsAtMost s fun _ => none := by
    rcases hs with rfl | rfl | rfl
    · exact holds_memory_empty.atMost
    · exact holds_hashes_empty.atMost
    · exact holdsAtMost_failing _
  have hremembers := remembers_asked hempty as
  rcases a.fetch_cases (storeAfter s as) with
    ⟨v', hget, heq⟩ | ⟨v', hask, heq⟩ | ⟨e, -, heq⟩
  · right
    rw [heq] at h ⊢
    cases h
    refine ⟨?_, rfl, ?_⟩
    · -- A store that fails every call is the same after the run, and finds nothing.
      rintro rfl
      rw [storeAfter_failing] at hget
      cases hget
    · obtain ⟨entry, hentry, hage, hparse⟩ :=
        freshValue_eq_some_iff.1 (hremembers.holds.get? hget)
      obtain ⟨⟨v'', w⟩, hbrought, rfl⟩ := Option.map_eq_some_iff.1 hentry
      have hv : v'' = v :=
        Option.some.inj ((hremembers.readable _ _ _ hbrought).symm.trans hparse)
      exact ⟨w, hv ▸ hbrought, hage⟩
  · left
    rw [heq] at h ⊢
    cases h
    exact ⟨rfl, ask_eq_ok_iff.1 hask⟩
  · rw [heq] at h
    cases h

/-- A value kept on a server is found at the very end of its time, where nobody else answers. -/
theorem value_from_request_or_past_at_end_of_time :
    let q : Query := ⟨⟨"https://api.conceptnet.io/c/en/lava", []⟩, "cache:lava", 5⟩
    let first : Asking := ⟨q, fun _ => some ⟨200, " [true, \"\\u000a\"]"⟩, ⟨-3⟩⟩
    let second : Asking := ⟨q, fun _ => none, ⟨2⟩⟩
    let s : Store := .hashes .empty
    let fetched := second.fetch (storeAfter s [first])
    ∃ v, v.print = "[true,\"\\n\"]" ∧
      ((s = .memory .empty ∨ s = .hashes .empty ∨ s = .failing) ∧ fetched.outcome = .ok v) ∧
      FromPast (asked s [first]) second fetched.sent v := by
  intro q first second s fetched
  have hempty : s = .memory .empty ∨ s = .hashes .empty ∨ s = .failing := Or.inr (Or.inl rfl)
  have htext : fetched.outcome.toOption.map Json.print = some "[true,\"\\n\"]" := by
    decide +kernel
  cases houtcome : fetched.outcome with
  | error e =>
    rw [houtcome] at htext
    cases htext
  | ok v =>
    rw [houtcome] at htext
    refine ⟨v, Option.some.inj htext, ⟨hempty, rfl⟩, ?_⟩
    rcases value_from_request_or_past s hempty [first] second v houtcome with
      ⟨-, reply, hreply, -⟩ | ⟨-, hpast⟩
    · cases hreply
    · exact hpast

end PromptStudio.Proofs
