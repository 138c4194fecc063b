import PromptStudio.Proofs.Cache.Overwriting
import PromptStudio.Proofs.Lookup.Misses

/-!
# All or nothing

A query that finds a fresh value asks nobody and keeps nothing. One that finds none asks once, and
what it keeps of the reply is one entry, or nothing at all: a failure of any kind leaves the store
as it was, with whatever has gone stale in it or cannot be read.
-/

namespace PromptStudio.Proofs
open Cache Lookup

/-- Why a request brings no value: nobody answers, the status is none of success, or the body is no
JSON. -/
inductive Unanswered (remote : Remote) (r : Remote.Request) : Remote.Failure → Prop where
  | transport (hreply : remote r = none) : Unanswered remote r .transport
  | status {reply : Remote.Reply} (hreply : remote r = some reply)
      (hstatus : reply.status < 200 ∨ 300 ≤ reply.status) :
      Unanswered remote r (.status reply.status)
  | parse {reply : Remote.Reply} (hreply : remote r = some reply)
      (hstatus : 200 ≤ reply.status ∧ reply.status < 300)
      (hbody : Json.parse? reply.body = none) : Unanswered remote r .parse

/-- A request is answered with a status of success and with this value as JSON. -/
def Brings (remote : Remote) (r : Remote.Request) (v : Json) : Prop :=
  ∃ reply, remote r = some reply ∧ (200 ≤ reply.status ∧ reply.status < 300) ∧
    Json.parse? reply.body = some v

lemma isSuccess_iff (reply : Remote.Reply) :
    reply.isSuccess = true ↔ 200 ≤ reply.status ∧ reply.status < 300 := by
  unfold Remote.Reply.isSuccess
  rw [Bool.and_eq_true, decide_eq_true_eq, decide_eq_true_eq]

section ask

variable {remote : Remote} {r : Remote.Request}

lemma ask_eq_ok_iff_brings {v : Json} : remote.ask r = .ok v ↔ Brings remote r v := by
  simp only [ask_eq_ok_iff, Brings, isSuccess_iff]

lemma ask_of_unanswered {e : Remote.Failure} (h : Unanswered remote r e) :
    remote.ask r = .error e := by
  unfold Remote.ask Remote.Reply.value
  cases h with
  | transport hreply => rw [hreply]
  | @status reply hreply hstatus =>
    have hfailed : ¬ reply.isSuccess = true := by
      rw [isSuccess_iff]
      omega
    rw [hreply]
    exact if_neg hfailed
  | parse hreply hstatus hbody =>
    rw [hreply]
    dsimp only
    rw [if_pos ((isSuccess_iff _).2 hstatus), Remote.Reply.json, hbody]

lemma brings_or_unanswered (remote : Remote) (r : Remote.Request) :
    (∃ v, Brings remote r v) ∨ ∃ e, Unanswered remote r e := by
  cases hreply : remote r with
  | none => exact Or.inr ⟨_, .transport hreply⟩
  | some reply =>
    by_cases hstatus : 200 ≤ reply.status ∧ reply.status < 300
    · cases hbody : Json.parse? reply.body with
      | none => exact Or.inr ⟨_, .parse hreply hstatus hbody⟩
      | some v => exact Or.inl ⟨v, reply, hreply, hstatus, hbody⟩
    · exact Or.inr ⟨_, .status hreply (by omega)⟩

lemma ask_eq_error_iff {e : Remote.Failure} : remote.ask r = .error e ↔ Unanswered remote r e := by
  refine ⟨fun h => ?_, ask_of_unanswered⟩
  rcases brings_or_unanswered remote r with ⟨v, hv⟩ | ⟨e', he'⟩
  · cases (ask_eq_ok_iff_brings.2 hv).symm.trans h
  · cases (ask_of_unanswered he').symm.trans h
    exact he'

end ask

/-- A fresh value is served without a request, and nothing changes. Without one the request of the
query is sent once. The query fails just if that brings nothing, and then nothing changes either.
If it brings a value, a store that works has the text of the value and the time under the key, and
is otherwise as it was. -/
theorem fetch_keeps_all_or_nothing (q : Query) (remote : Remote) (now : Instant) (s : Store) :
    let found := s.get? q.key q.ttl now
    let fetched := q.fetch remote now s
    (∀ v, found = some v → fetched.outcome = .ok v ∧ fetched.sent = [] ∧ fetched.store = s) ∧
    (found = none → fetched.sent = [q.request]) ∧
    (∀ e, fetched.outcome = .error e ↔ found = none ∧ Unanswered remote q.request e) ∧
    (∀ e, fetched.outcome = .error e → fetched.store = s) ∧
    (found = none → ∀ v, fetched.outcome = .ok v ↔ Brings remote q.request v) ∧
    ∀ v, found = none → fetched.outcome = .ok v →
      Overwritten q.key ⟨v.print, now⟩ s fetched.store ∧
      (s ≠ .failing → InCalendar now →
        fetched.store.read q.key = .ok (some ⟨v.print, now⟩)) := by
  intro found fetched
  cases hfound : found with
  | some v =>
    have heq : fetched = ⟨.ok v, s, []⟩ := fetch_of_found remote now hfound
    rw [heq]
    refine ⟨?_, nofun, ?_, nofun, nofun, nofun⟩
    · intro v' hv'
      cases hv'
      exact ⟨rfl, rfl, rfl⟩
    · exact fun e => iff_of_false nofun (fun h => by cases h.1)
  | none =>
    have heq : fetched =
        ⟨remote.ask q.request, q.keep (remote.ask q.request) now s, [q.request]⟩ :=
      fetch_of_missing remote now (Option.isNone_iff_eq_none.2 hfound)
    rw [heq]
    refine ⟨nofun, fun _ => rfl, fun e => ?_, fun e he => ?_, fun _ v => ask_eq_ok_iff_brings,
      fun v _ hv => ?_⟩
    · exact ask_eq_error_iff.trans (and_iff_right rfl).symm
    · have hask : remote.ask q.request = .error e := he
      dsimp only
      rw [hask]
      rfl
    · have hask : remote.ask q.request = .ok v := hv
      dsimp only
      rw [hask]
      exact ⟨overwritten_set s q.key v now,
        fun hs hnow => read_set_self (keeps_of_ne_failing hs hnow) q.key v⟩

/-- An entry on a server is fresh but no JSON. It outlives a failure, and a success takes its place
beside a field of somebody else. -/
theorem fetch_keeps_all_or_nothing_beside_note :
    let q : Query := ⟨⟨"https://api.dictionaryapi.dev/api/v2/entries/en/lava", []⟩, "dict:lava", 5⟩
    let hash := ((Table.empty.put "note" "kept").put valueField "[1").put timeField "+05"
    let server := Table.empty.put (serverKey q.key) hash
    let s : Store := .hashes server
    let now : Instant := ⟨6⟩
    (s.get? q.key q.ttl now = none ∧ (s.read q.key).toOption = some (some ⟨"[1", ⟨5⟩⟩) ∧
      InCalendar now) ∧
    (q.fetch (fun _ => some ⟨503, "[]"⟩) now s).store = s ∧
    let after := (q.fetch (fun _ => some ⟨200, " [ ]"⟩) now s).store
    after.read q.key = .ok (some ⟨"[]", now⟩) ∧
    ∃ server', after = .hashes server' ∧
      fieldAt? server' (serverKey q.key) "note" = some "kept" := by
  intro q hash server s now
  have hnone : s.get? q.key q.ttl now = none := by
    apply Option.isNone_iff_eq_none.1
    decide +kernel
  have hread : (s.read q.key).toOption = some (some ⟨"[1", ⟨5⟩⟩) := by decide +kernel
  have hnow : InCalendar now := by decide
  obtain ⟨-, -, hfails, hkept, -⟩ :=
    fetch_keeps_all_or_nothing q (fun _ => some ⟨503, "[]"⟩) now s
  obtain ⟨-, -, -, -, hbrings, hoverwritten⟩ :=
    fetch_keeps_all_or_nothing q (fun _ => some ⟨200, " [ ]"⟩) now s
  refine ⟨⟨hnone, hread, hnow⟩, ?_, ?_⟩
  · have hdown : Unanswered (fun _ => some ⟨503, "[]"⟩) q.request (.status 503) :=
      @Unanswered.status _ _ ⟨503, "[]"⟩ rfl (by decide)
    exact hkept _ ((hfails _).2 ⟨hnone, hdown⟩)
  · have hbody : ∃ v, Json.parse? " [ ]" = some v ∧ v.print = "[]" := by
      have htext : (Json.parse? " [ ]").map Json.print = some "[]" := by decide +kernel
      exact Option.map_eq_some_iff.1 htext
    obtain ⟨v, hv, hprint⟩ := hbody
    have hok := (hbrings hnone v).2 ⟨_, rfl, by decide, hv⟩
    obtain ⟨hover, hentry⟩ := hoverwritten v hnone hok
    rw [hprint] at hover hentry
    obtain ⟨server', hserver, hset⟩ := hover.exists_hashes
    refine ⟨hentry nofun hnow, server', hserver, ?_⟩
    rw [hset.fields "note" (by decide) (by decide)]
    decide +kernel

end PromptStudio.Proofs
