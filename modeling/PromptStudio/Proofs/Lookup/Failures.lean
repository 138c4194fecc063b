import PromptStudio.Proofs.Lookup.Misses
import PromptStudio.Proofs.Lookup.Policies

/-!
# Flavors that fail

The lookup of a flavor fails in one of two ways. Either its request brings no JSON: then nothing is
kept, and a later search asks again. Or its JSON is no list of words: then that is kept, and until
it is stale the flavor fails again, unasked.
-/

namespace PromptStudio.Proofs
open Cache Lookup

/-! ## What a search does with one flavor -/

lemma words_eq_error {f : Flavor} {v : Json} {e : Remote.Failure}
    (h : Lookup.words f v = .error e) : e = .parse := by
  unfold Lookup.words at h
  split at h
  · cases h
  · exact (Except.error.inj h).symm

lemma parameter_injective : Function.Injective Flavor.parameter := by
  intro f f'
  cases f <;> cases f' <;> decide

section search

variable (remote : Remote) (now : Instant) (d : Discovery) (t : String)

/-- What each lookup of a search leaves true of the store, the search leaves true of it. -/
lemma fetchFlavors_keeps {P : Store → Prop}
    (hstep : ∀ s g, P s → P (fetchFlavor remote now d t s g).store) {s : Store} (h : P s)
    (fs : List Flavor) : P (fetchFlavors remote now d t s fs).store := by
  induction fs generalizing s with
  | nil => exact h
  | cons g fs ih => exact ih (hstep s g h)

lemma store_fetchFlavor (s : Store) (f : Flavor) :
    (fetchFlavor remote now d t s f).store = ((queryOf d t f).fetch remote now s).store := rfl

lemma outcome_fetchFlavor (s : Store) (f : Flavor) :
    (fetchFlavor remote now d t s f).outcome =
      ((queryOf d t f).fetch remote now s).outcome.bind (Lookup.words f) := rfl

lemma store_fetchFlavor_of_found {s : Store} {f : Flavor}
    (h : ¬ missing now s (queryOf d t f) = true) : (fetchFlavor remote now d t s f).store = s := by
  obtain ⟨v, hfound⟩ := exists_of_not_missing h
  rw [store_fetchFlavor, fetch_of_found remote now hfound]

lemma missing_fetchFlavor_of_ne (s : Store) {f g : Flavor} (hne : g ≠ f) :
    missing now (fetchFlavor remote now d t s g).store (queryOf d t f) =
      missing now s (queryOf d t f) := by
  rw [missing, missing, get?_fetchFlavor_of_ne remote now d t s hne]

lemma request_mem_sent_fetchFlavor (s : Store) (f g : Flavor) :
    (queryOf d t f).request ∈ (fetchFlavor remote now d t s g).sent ↔
      g = f ∧ missing now s (queryOf d t f) = true := by
  change _ ∈ ((queryOf d t g).fetch remote now s).sent ↔ _
  by_cases hmissing : missing now s (queryOf d t g) = true
  · rw [fetch_of_missing remote now hmissing, List.mem_singleton]
    constructor
    · intro hrequest
      -- The requests of two flavors differ in the name of the pair that carries the term.
      have hquery := List.append_cancel_left (congrArg Remote.Request.query hrequest)
      obtain ⟨hname, -⟩ := Prod.mk.inj (List.singleton_inj.1 hquery)
      obtain rfl := parameter_injective hname
      exact ⟨rfl, hmissing⟩
    · rintro ⟨rfl, -⟩
      rfl
  · obtain ⟨v, hfound⟩ := exists_of_not_missing hmissing
    rw [fetch_of_found remote now hfound]
    apply iff_of_false List.not_mem_nil
    rintro ⟨rfl, h⟩
    exact hmissing h

lemma request_mem_sent_iff (s : Store) (fs : List Flavor) (f : Flavor) :
    (queryOf d t f).request ∈ (fetchFlavors remote now d t s fs).sent ↔
      f ∈ fs ∧ missing now s (queryOf d t f) = true := by
  induction fs generalizing s with
  | nil => simp [fetchFlavors]
  | cons g fs ih =>
    rw [fetchFlavors]
    dsimp only
    rw [List.mem_append, ih, request_mem_sent_fetchFlavor, List.mem_cons, eq_comm]
    by_cases hg : g = f
    · subst hg
      by_cases hmissing : missing now s (queryOf d t g) = true
      · simp [hmissing]
      · simp [hmissing, store_fetchFlavor_of_found remote now d t hmissing]
    · rw [missing_fetchFlavor_of_ne remote now d t s hg]
      simp [Ne.symm hg]

lemma read_fetchFlavors_of_idle {s : Store} {f : Flavor}
    (hidle : ∀ s', s'.read (queryOf d t f).key = s.read (queryOf d t f).key →
      (fetchFlavor remote now d t s' f).store = s') (fs : List Flavor) :
    (fetchFlavors remote now d t s fs).store.read (queryOf d t f).key =
      s.read (queryOf d t f).key := by
  refine fetchFlavors_keeps remote now d t (P := fun s' => s'.read _ = s.read _) ?_ rfl fs
  intro s' g h
  by_cases hg : g = f
  · rw [hg, hidle s' h]
    exact h
  · rw [← h]
    exact read_fetch_of_ne remote now s' fun hkey => hg (flavor_eq_of_key_eq t _ hkey)

lemma read_fetchFlavors_of_found {s : Store} {f : Flavor}
    (h : ¬ missing now s (queryOf d t f) = true) (fs : List Flavor) :
    (fetchFlavors remote now d t s fs).store.read (queryOf d t f).key =
      s.read (queryOf d t f).key := by
  apply read_fetchFlavors_of_idle
  intro s' hread
  apply store_fetchFlavor_of_found
  rwa [missing, get?_congr hread]

lemma read_fetchFlavors_of_unanswered {s : Store} {f : Flavor} {e : Remote.Failure}
    (hmissing : missing now s (queryOf d t f) = true)
    (hask : remote.ask (queryOf d t f).request = .error e) (fs : List Flavor) :
    (fetchFlavors remote now d t s fs).store.read (queryOf d t f).key =
      s.read (queryOf d t f).key := by
  apply read_fetchFlavors_of_idle
  intro s' hread
  have hmissing' : missing now s' (queryOf d t f) = true := by
    rwa [missing, get?_congr hread]
  rw [store_fetchFlavor, fetch_of_missing remote now hmissing', hask]
  rfl

lemma read_fetchFlavors_of_brought {s : Store} {f : Flavor} {v : Json} {fs : List Flavor}
    (hf : f ∈ fs) (hkeeps : Keeps s now)
    (hmissing : missing now s (queryOf d t f) = true)
    (hask : remote.ask (queryOf d t f).request = .ok v) :
    (fetchFlavors remote now d t s fs).store.read (queryOf d t f).key =
      .ok (some ⟨v.print, now⟩) := by
  induction fs generalizing s with
  | nil => cases hf
  | cons g fs ih =>
    rw [fetchFlavors]
    dsimp only
    by_cases hg : g = f
    · subst hg
      have hstore : (fetchFlavor remote now d t s g).store = s.set (queryOf d t g).key v now := by
        rw [store_fetchFlavor, fetch_of_missing remote now hmissing, hask]
        rfl
      have hread := read_set_self hkeeps (queryOf d t g).key v
      rw [hstore, read_fetchFlavors_of_found, hread]
      -- The reply is fresh at the time of its writing, so the flavor is not asked for twice.
      rw [missing, get?_of_read hread, Option.isNone_iff_eq_none, ← ne_eq,
        Option.ne_none_iff_exists']
      refine ⟨v, freshValue_eq_some_iff.2 ⟨_, rfl, ?_, parse?_print_of_ask hask⟩⟩
      have hage : now.since now = 0 := Int.sub_self now.millis
      rw [hage]
      exact show (0 : Int) ≤ day by decide
    · apply ih ((List.mem_cons.1 hf).resolve_left (Ne.symm hg))
      · exact keeps_fetch hkeeps _ remote now
      · rwa [missing_fetchFlavor_of_ne remote now d t s hg]

end search

/-! ## What comes of a failure -/

section failures

variable {remote : Remote} {now : Instant} {d : Discovery} {t : String} {f : Flavor}

lemma run_of_term (hterm : Lookup.term d.term = .ok t) (remote : Remote) (now : Instant)
    (s : Store) :
    let found := fetchFlavors remote now d t s d.flavors
    d.run remote now s =
      ⟨(d.conclude found.outcome).mapError Failure.remote, found.store, found.sent⟩ := by
  unfold Discovery.run
  rw [hterm]

/-- What is kept for the flavor is as it was, and once the flavor is answered with words a later
search asks for it and merges the words, unless it fails for another flavor. -/
structure AskedAgain (d : Discovery) (t : String) (f : Flavor) (now : Instant)
    (before after : Store) : Prop where
  kept : after.read (queryOf d t f).key = before.read (queryOf d t f).key
  again : ∀ (remote : Remote) (later : Instant) v found, now.millis ≤ later.millis →
    remote.ask (queryOf d t f).request = .ok v → Lookup.words f v = .ok found →
    (queryOf d t f).request ∈ (d.run remote later after).sent ∧
    ∃ batches, found ∈ batches ∧
      ((d.run remote later after).outcome = .ok (Candidate.merge batches d.limit) ∨
        d.policy = .failFast ∧ ∃ e, (d.run remote later after).outcome = .error (.remote e))

/-- This is kept for the flavor, and until it is stale the flavor fails without being asked for. -/
structure FailsUnasked (d : Discovery) (t : String) (f : Flavor) (entry : Entry)
    (after : Store) : Prop where
  kept : after.read (queryOf d t f).key = .ok (some entry)
  unasked : ∀ (remote : Remote) (later : Instant), later.since entry.writtenAt ≤ day →
    (queryOf d t f).request ∉ (d.run remote later after).sent ∧
    ∀ i : Nat, d.flavors[i]? = some f →
      (fetchFlavors remote later d t after d.flavors).outcome[i]? = some (.error .parse)

lemma askedAgain_of_missing (hterm : Lookup.term d.term = .ok t) (hf : f ∈ d.flavors)
    {before after : Store}
    (hentry : after.read (queryOf d t f).key = before.read (queryOf d t f).key)
    (hmissing : missing now before (queryOf d t f) = true) :
    AskedAgain d t f now before after := by
  refine ⟨hentry, fun remote later v found hlater hask hwords => ?_⟩
  have hlost : missing later after (queryOf d t f) = true := by
    rw [missing, get?_congr hentry]
    exact missing_mono hmissing hlater
  rw [run_of_term hterm]
  dsimp only
  refine ⟨(request_mem_sent_iff remote later d t after d.flavors f).2 ⟨hf, hlost⟩,
    successes (fetchFlavors remote later d t after d.flavors).outcome, ?_, ?_⟩
  · have hfound : (fetchFlavor remote later d t after f).outcome = .ok found := by
      rw [outcome_fetchFlavor, fetch_of_missing remote later hlost, hask]
      exact hwords
    rw [outcome_fetchFlavors]
    refine List.mem_filterMap.2 ⟨.ok found, ?_, rfl⟩
    exact List.mem_map.2 ⟨f, hf, hfound⟩
  · rcases conclude_cases d (fetchFlavors remote later d t after d.flavors).outcome with
      ⟨hok, -⟩ | ⟨hpolicy, e, -, herror⟩
    · rw [hok]
      exact Or.inl rfl
    · rw [herror]
      exact Or.inr ⟨hpolicy, e, rfl⟩

lemma failsUnasked_of_read (hterm : Lookup.term d.term = .ok t) {entry : Entry} {v : Json}
    {after : Store} (hentry : after.read (queryOf d t f).key = .ok (some entry))
    (hparse : Json.parse? entry.value = some v) (hwords : Lookup.words f v = .error .parse) :
    FailsUnasked d t f entry after := by
  refine ⟨hentry, fun remote later hage => ?_⟩
  have hfound : after.get? (queryOf d t f).key (queryOf d t f).ttl later = some v := by
    rw [get?_of_read hentry]
    exact freshValue_eq_some_iff.2 ⟨entry, rfl, hage, hparse⟩
  constructor
  · rw [run_of_term hterm, request_mem_sent_iff, missing, hfound]
    exact fun h => Bool.false_ne_true h.2
  · intro i hi
    rw [outcome_fetchFlavors, List.getElem?_map, hi, Option.map_some, outcome_fetchFlavor,
      fetch_of_found remote later hfound]
    exact congrArg some hwords

/-- A flavor that fails was either not answered with JSON, and is asked for again, or what was found
or brought for it is JSON without words, and stays in the way for a day. -/
theorem failed_flavor_asked_again_unless_reply_kept {store : Store} {i : Nat} {e : Remote.Failure}
    (hterm : Lookup.term d.term = .ok t) (hf : d.flavors[i]? = some f)
    (hfailed : (fetchFlavors remote now d t store d.flavors).outcome[i]? = some (.error e)) :
    let q := queryOf d t f
    let after := (d.run remote now store).store
    missing now store q = true ∧ remote.ask q.request = .error e ∧
        AskedAgain d t f now store after ∨
    ∃ v, Lookup.words f v = .error e ∧
      ((∃ entry, store.get? q.key q.ttl now = some v ∧ store.read q.key = .ok (some entry) ∧
          FailsUnasked d t f entry after) ∨
        missing now store q = true ∧ remote.ask q.request = .ok v ∧
          (store ≠ .failing → InCalendar now → FailsUnasked d t f ⟨v.print, now⟩ after) ∧
          (store = .failing → AskedAgain d t f now store after)) := by
  intro q after
  have hmem : f ∈ d.flavors := List.mem_of_getElem? hf
  have hafter : after = (fetchFlavors remote now d t store d.flavors).store :=
    congrArg Fetched.store (run_of_term hterm remote now store)
  have houtcome : ((q.fetch remote now store).outcome.bind (Lookup.words f)) = .error e := by
    rw [outcome_fetchFlavors, List.getElem?_map, hf, Option.map_some, outcome_fetchFlavor]
      at hfailed
    exact Option.some.inj hfailed
  by_cases hmissing : missing now store q = true
  · rw [fetch_of_missing remote now hmissing] at houtcome
    cases hask : remote.ask q.request with
    | error e' =>
      rw [hask] at houtcome
      obtain rfl := Except.error.inj houtcome
      refine Or.inl ⟨hmissing, rfl, askedAgain_of_missing hterm hmem ?_ hmissing⟩
      rw [hafter]
      exact read_fetchFlavors_of_unanswered remote now d t hmissing hask d.flavors
    | ok v =>
      rw [hask] at houtcome
      have hwords : Lookup.words f v = .error e := houtcome
      refine Or.inr ⟨v, hwords, Or.inr ⟨hmissing, rfl, fun hs hnow => ?_, fun hs => ?_⟩⟩
      · rw [words_eq_error hwords] at hwords
        refine failsUnasked_of_read hterm ?_ (parse?_print_of_ask hask) hwords
        rw [hafter]
        exact read_fetchFlavors_of_brought remote now d t hmem (keeps_of_ne_failing hs hnow)
          hmissing hask
      · refine askedAgain_of_missing hterm hmem ?_ hmissing
        subst hs
        have hfailing := fetchFlavors_keeps remote now d t (P := fun s => s = .failing)
          (fun s g hs => by rw [hs]; exact store_fetch_failing _ remote now) rfl d.flavors
        rw [hafter, hfailing]
  · obtain ⟨v, hfound⟩ := exists_of_not_missing hmissing
    rw [fetch_of_found remote now hfound] at houtcome
    have hwords : Lookup.words f v = .error e := houtcome
    obtain ⟨entry, hread, -, hparse⟩ := get?_eq_some_iff_read.1 hfound
    refine Or.inr ⟨v, hwords, Or.inl ⟨entry, hfound, hread, ?_⟩⟩
    rw [words_eq_error hwords] at hwords
    refine failsUnasked_of_read hterm ?_ hparse hwords
    rw [hafter, ← hread]
    exact read_fetchFlavors_of_found remote now d t hmissing d.flavors

end failures

/-- Words gone stale are still kept on a server while the flavor, named twice, cannot be had. -/
theorem failed_flavor_asked_again_unless_reply_kept_beside_stale_words :
    let down : Remote := fun r =>
      if r.query.contains ("ml", "lava") then some ⟨503, "[]"⟩ else some ⟨200, "[[\"ash\"]]"⟩
    let d : Discovery := ⟨" lava ", none, 25, [.synonym, .meansLike, .meansLike], .isolate⟩
    let now : Instant := ⟨86400001⟩
    let store := (Store.hashes .empty).set "dm:ml::lava:25" (.arr []) ⟨0⟩
    (Lookup.term d.term = .ok "lava" ∧ d.flavors[1]? = some .meansLike ∧
      (fetchFlavors down now d "lava" store d.flavors).outcome[1]? =
        some (.error (.status 503))) ∧
    AskedAgain d "lava" .meansLike now store (d.run down now store).store := by
  intro down d now store
  have hterm : Lookup.term d.term = .ok "lava" := by decide +kernel
  have hf : d.flavors[1]? = some .meansLike := rfl
  have hfailed : (fetchFlavors down now d "lava" store d.flavors).outcome[1]? =
      some (.error (.status 503)) := by
    decide +kernel
  refine ⟨⟨hterm, hf, hfailed⟩, ?_⟩
  rcases failed_flavor_asked_again_unless_reply_kept hterm hf hfailed with
    ⟨-, -, hagain⟩ | ⟨v, hwords, -⟩
  · exact hagain
  · cases words_eq_error hwords

/-- A reply without words is kept, so the words that the next one would bring are not found. -/
theorem reply_without_words_kept :
    let odd : Remote := fun _ => some ⟨200, "\x7b\"unexpected\":\"shape\"\x7d"⟩
    let proper : Remote := fun _ => some ⟨200, "[\x7b\"word\":\"stone\",\"score\":5\x7d]"⟩
    let d : Discovery := ⟨"rock", none, 25, [.meansLike], .isolate⟩
    let first := d.run odd ⟨0⟩ (.memory .empty)
    let texts (f : Fetched (Except Failure (List Candidate))) : Option (List String) :=
      f.outcome.toOption.map fun found => found.map Candidate.text
    (fetchFlavors odd ⟨0⟩ d "rock" (.memory .empty) d.flavors).outcome = [.error .parse] ∧
    first.store.read "dm:ml::rock:25" ≠ (Store.memory .empty).read "dm:ml::rock:25" ∧
    texts (d.run proper ⟨1⟩ (.memory .empty)) = some ["stone"] ∧
    texts (d.run proper ⟨1⟩ first.store) = some [] ∧
    (d.run proper ⟨1⟩ first.store).sent = [] := by
  decide +kernel

end PromptStudio.Proofs
