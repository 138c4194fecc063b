import Mathlib.Data.List.Perm.Basic
import PromptStudio.Proofs.Cache.Holdings
import PromptStudio.Proofs.Lookup.Keys
import PromptStudio.Proofs.Lookup.Origin

/-!
# Queries of different keys

Queries of different keys keep out of each other's way: each finds what it would have found at the
start. So all that they do is to send the requests of those that find nothing fresh and to keep the
replies, and their order does not matter.
-/

namespace PromptStudio.Proofs
open Cache Lookup

section queries

variable {α β : Type} (remote : Remote) (now : Instant)

def missing (s : Store) (q : Query) : Bool :=
  (s.get? q.key q.ttl now).isNone

lemma missing_mono {s : Store} {q : Query} {now later : Instant} (h : missing now s q = true)
    (hlater : now.millis ≤ later.millis) : missing later s q = true := by
  unfold missing Store.get? at h ⊢
  rw [Option.isNone_iff_eq_none] at h ⊢
  split at h
  case h_1 e hread =>
    -- An entry that is stale stays so, and one that cannot be read does too.
    split at h
    case isTrue hstale =>
      apply if_pos
      unfold Instant.since at hstale ⊢
      omega
    case isFalse => rw [h, ite_self]
  case h_2 => rfl
  case h_3 => rfl

lemma exists_of_not_missing {s : Store} {q : Query} {now : Instant}
    (h : ¬ missing now s q = true) : ∃ v, s.get? q.key q.ttl now = some v := by
  apply Option.ne_none_iff_exists'.1
  intro hnone
  exact h (Option.isNone_iff_eq_none.2 hnone)

/-- What is held once the reply to a query is kept. -/
def Holdings.putReply (h : Holdings) (q : Query) : Holdings :=
  match remote.ask q.request with
  | .ok v => h.put q.key ⟨v.print, now⟩
  | .error _ => h

lemma holdings_keep (s : Store) (q : Query) :
    holdings (q.keep (remote.ask q.request) now s) = (holdings s).putReply remote now q := by
  unfold Query.keep Holdings.putReply
  cases remote.ask q.request with
  | ok v => exact holdings_set s q.key v now
  | error e => rfl

lemma putReply_comm (h : Holdings) {q q' : Query} (hne : q.key ≠ q'.key) :
    (h.putReply remote now q).putReply remote now q' =
      (h.putReply remote now q').putReply remote now q := by
  unfold Holdings.putReply
  cases remote.ask q.request with
  | error e => rfl
  | ok v =>
    cases remote.ask q'.request with
    | error e => rfl
    | ok v' => exact h.put_comm hne _ _

lemma fetch_of_missing {s : Store} {q : Query} (h : missing now s q = true) :
    q.fetch remote now s =
      ⟨remote.ask q.request, q.keep (remote.ask q.request) now s, [q.request]⟩ := by
  unfold Query.fetch
  rw [Option.isNone_iff_eq_none.1 h]

lemma fetch_of_found {s : Store} {q : Query} {v : Json} (h : s.get? q.key q.ttl now = some v) :
    q.fetch remote now s = ⟨.ok v, s, []⟩ := by
  unfold Query.fetch
  rw [h]

lemma keeps_fetch {s : Store} {t : Instant} (h : Keeps s t) (q : Query) (remote : Remote)
    (now : Instant) : Keeps (q.fetch remote now s).store t := by
  rcases fetch_cases q remote now s with ⟨v, -, heq⟩ | ⟨v, -, heq⟩ | ⟨e, -, heq⟩
  · rwa [heq]
  · rw [heq]
    exact h.set q.key v now
  · rwa [heq]

lemma read_fetch_of_ne (s : Store) {q : Query} {key : String} (hne : q.key ≠ key) :
    (q.fetch remote now s).store.read key = s.read key := by
  rcases fetch_cases q remote now s with ⟨v, -, heq⟩ | ⟨v, -, heq⟩ | ⟨e, -, heq⟩
  · rw [heq]
  · rw [heq]
    exact read_set_of_ne s hne v now
  · rw [heq]

lemma get?_fetch_of_ne (s : Store) {q : Query} {key : String} (hne : q.key ≠ key) (ttl : Int)
    (at' : Instant) : (q.fetch remote now s).store.get? key ttl at' = s.get? key ttl at' :=
  get?_congr (read_fetch_of_ne remote now s hne) ttl at'

lemma outcome_fetch_congr {s s' : Store} {q : Query}
    (h : s'.get? q.key q.ttl now = s.get? q.key q.ttl now) :
    (q.fetch remote now s').outcome = (q.fetch remote now s).outcome := by
  unfold Query.fetch
  rw [h]
  cases s.get? q.key q.ttl now with
  | some v => rfl
  | none => rfl

lemma outcome_fetch_again (s : Store) {q : Query} (httl : 0 ≤ q.ttl) :
    (q.fetch remote now (q.fetch remote now s).store).outcome = (q.fetch remote now s).outcome := by
  rcases fetch_cases q remote now s with ⟨v, -, heq⟩ | ⟨v, hask, heq⟩ | ⟨e, -, heq⟩
  · rw [heq, heq]
  · rw [heq]
    rcases get?_set_self s (parse?_print_of_ask hask) httl now with hfound | hnone
    · rw [fetch_of_found remote now hfound]
    · rw [fetch_of_missing remote now (Option.isNone_iff_eq_none.2 hnone), hask]
  · rw [heq, heq]

/-- All that is left of a run is what its queries bring that find nothing fresh at the start. -/
structure AskedOf (qs : List Query) (s : Store) (run : Fetched α) : Prop where
  holds : holdings run.store =
    (qs.filter (missing now s)).foldl (Holdings.putReply remote now) (holdings s)
  sent : run.sent.Perm ((qs.filter (missing now s)).map Query.request)

/-- Two runs leave the same under each key and send the same requests, in whatever order. -/
structure SameEffects (run : Fetched α) (run' : Fetched β) : Prop where
  holds : holdings run.store = holdings run'.store
  sent : run.sent.Perm run'.sent

lemma askedOf_fetch (s : Store) (q : Query) :
    AskedOf remote now [q] s (q.fetch remote now s) := by
  cases hget : s.get? q.key q.ttl now with
  | some v =>
    have hmissing : missing now s q = false := by rw [missing, hget, Option.isNone_some]
    rw [fetch_of_found remote now hget]
    constructor
    · simp [hmissing]
    · simp [hmissing]
  | none =>
    have hmissing : missing now s q = true := by rw [missing, hget, Option.isNone_none]
    rw [fetch_of_missing remote now hmissing]
    constructor
    · simp [hmissing, holdings_keep]
    · simp [hmissing]

variable {remote now} {s : Store} {qs qs' : List Query} {run : Fetched α} {run' : Fetched β}

lemma AskedOf.append (h : AskedOf remote now qs s run) (h' : AskedOf remote now qs' run.store run')
    (hmissing : ∀ q ∈ qs', missing now run.store q = missing now s q) (a : α) :
    AskedOf remote now (qs ++ qs') s ⟨a, run'.store, run.sent ++ run'.sent⟩ := by
  have hfilter : qs'.filter (missing now run.store) = qs'.filter (missing now s) :=
    List.filter_congr hmissing
  constructor
  · rw [List.filter_append, List.foldl_append, ← h.holds, ← hfilter]
    exact h'.holds
  · rw [List.filter_append, List.map_append, ← hfilter]
    exact h.sent.append h'.sent

lemma foldl_putReply_of_perm (hperm : qs.Perm qs')
    (hkeys : ∀ q ∈ qs, ∀ q' ∈ qs, q.key = q'.key → q = q') (h : Holdings) :
    qs.foldl (Holdings.putReply remote now) h = qs'.foldl (Holdings.putReply remote now) h := by
  refine hperm.foldl_eq' (fun q hq q' hq' held => ?_) h
  by_cases hkey : q.key = q'.key
  · rw [hkeys q hq q' hq' hkey]
  · exact putReply_comm remote now held hkey

lemma AskedOf.sameEffects (h : AskedOf remote now qs s run) (h' : AskedOf remote now qs' s run')
    (hkeys : ∀ q ∈ qs, ∀ q' ∈ qs, q.key = q'.key → q = q') (hperm : qs.Perm qs') :
    SameEffects run run' := by
  have hmissed := hperm.filter (missing now s)
  constructor
  · rw [h.holds, h'.holds]
    exact foldl_putReply_of_perm hmissed (fun q hq q' hq' =>
      hkeys q (List.mem_of_mem_filter hq) q' (List.mem_of_mem_filter hq')) (holdings s)
  · exact h.sent.trans ((hmissed.map Query.request).trans h'.sent.symm)

end queries

/-! ## The flavors of a search -/

lemma nodup_firsts (fs : List Flavor) : (Flavor.firsts fs).Nodup := by
  induction fs with
  | nil => exact List.nodup_nil
  | cons f fs ih =>
    rw [Flavor.firsts, List.nodup_cons]
    exact ⟨by simp, ih.filter _⟩

section flavors

variable (remote : Remote) (now : Instant) (d : Discovery) (t : String)

lemma flavor_eq_of_key_eq {f f' : Flavor} (topics : Option String) {limit : Nat}
    (h : (flavorQuery f topics t limit).key = (flavorQuery f' topics t limit).key) : f = f' :=
  ((wordKey_eq_iff ⟨f, topics, t, limit⟩ ⟨f', topics, t, limit⟩).1 h).1

def queryOf (f : Flavor) : Query :=
  flavorQuery f (topics d.topics) t d.limit

lemma queryOf_eq_of_key_eq {q q' : Query} {fs : List Flavor} (hq : q ∈ fs.map (queryOf d t))
    (hq' : q' ∈ fs.map (queryOf d t)) (hkey : q.key = q'.key) : q = q' := by
  obtain ⟨f, -, rfl⟩ := List.mem_map.1 hq
  obtain ⟨f', -, rfl⟩ := List.mem_map.1 hq'
  rw [flavor_eq_of_key_eq t (topics d.topics) hkey]

lemma get?_fetchFlavor_of_ne (s : Store) {f f' : Flavor} (hne : f ≠ f') :
    (fetchFlavor remote now d t s f).store.get? (queryOf d t f').key (queryOf d t f').ttl now =
      s.get? (queryOf d t f').key (queryOf d t f').ttl now :=
  get?_fetch_of_ne remote now s (fun hkey => hne (flavor_eq_of_key_eq t _ hkey)) _ now

lemma outcome_fetchFlavor_after (s : Store) (f f' : Flavor) :
    (fetchFlavor remote now d t (fetchFlavor remote now d t s f).store f').outcome =
      (fetchFlavor remote now d t s f').outcome := by
  have hsame : ((queryOf d t f').fetch remote now (fetchFlavor remote now d t s f).store).outcome =
      ((queryOf d t f').fetch remote now s).outcome := by
    by_cases hf : f = f'
    · subst hf
      exact outcome_fetch_again remote now s (show (0 : Int) ≤ day by decide)
    · exact outcome_fetch_congr remote now (get?_fetchFlavor_of_ne remote now d t s hf)
  exact congrArg (fun outcome => outcome.bind (Lookup.words f')) hsame

/-- Each flavor comes to what it would have come to as the first one. -/
lemma outcome_fetchFlavors (s : Store) (fs : List Flavor) :
    (fetchFlavors remote now d t s fs).outcome =
      fs.map fun f => (fetchFlavor remote now d t s f).outcome := by
  induction fs generalizing s with
  | nil => rfl
  | cons f fs ih =>
    rw [fetchFlavors, List.map_cons]
    dsimp only
    rw [ih]
    exact congrArg _ (List.map_congr_left fun f' _ =>
      outcome_fetchFlavor_after remote now d t s f f')

lemma askedOf_fetchFlavors (s : Store) {fs : List Flavor} (hfs : fs.Nodup) :
    AskedOf remote now (fs.map (queryOf d t)) s (fetchFlavors remote now d t s fs) := by
  induction fs generalizing s with
  | nil => exact ⟨rfl, .nil⟩
  | cons f fs ih =>
    obtain ⟨hf, hfs⟩ := List.nodup_cons.1 hfs
    have hfirst : AskedOf remote now [queryOf d t f] s (fetchFlavor remote now d t s f) :=
      ⟨(askedOf_fetch remote now s _).holds, (askedOf_fetch remote now s _).sent⟩
    have hrest := hfirst.append (ih _ hfs) ?_ (fetchFlavor remote now d t s f).outcome
    · exact ⟨hrest.holds, hrest.sent⟩
    · intro q hq
      obtain ⟨f', hf', rfl⟩ := List.mem_map.1 hq
      have hne : f ≠ f' := fun heq => hf (heq ▸ hf')
      rw [missing, missing, get?_fetchFlavor_of_ne remote now d t s hne]

end flavors

end PromptStudio.Proofs
