import PromptStudio.Lookup.Source
import PromptStudio.Proofs.Text.Digits
import PromptStudio.Proofs.Text.Trimmed

/-!
# Accepted parameters

What a parameter looks like once it is accepted: a count is in its range, an entity id is a Q with
digits, and a search for words goes back to its parameters one by one.
-/

namespace PromptStudio.Proofs
open Lookup

lemma bounds_of_count {name : String} {raw : Option String} {n : Nat}
    (h : count name raw = .ok n) : 5 ≤ n ∧ n ≤ 50 := by
  unfold count at h
  split at h
  · cases h
    decide
  · split at h
    · cases h
      simp only [minCount, maxCount]
      omega
    · cases h

lemma eq_of_entityId {raw : Option String} {t : String} (h : entityId raw = .ok t) :
    t = Text.trim (raw.getD "") ∧ t ≠ "" ∧ ∃ digits : String, t = "Q" ++ digits ∧
      1 ≤ digits.length ∧ digits.length ≤ 19 ∧ ∀ c ∈ digits.toList, c.isDigit = true := by
  unfold entityId at h
  dsimp only at h
  split at h
  · rename_i ds hchars
    split at h
    · rename_i hdigits
      cases h
      obtain ⟨hne, hlength, hall⟩ := hdigits
      refine ⟨rfl, ?_, String.ofList ds, ?_, ?_, ?_, ?_⟩
      · intro hempty
        rw [hempty] at hchars
        cases hchars
      · apply String.toList_inj.1
        simp [hchars]
      · rw [String.length_ofList]
        exact List.length_pos_iff.2 hne
      · rwa [String.length_ofList]
      · rw [String.toList_ofList]
        exact List.all_eq_true.1 hall
    · cases h
  · cases h

lemma exists_of_bind {α β : Type} {x : Except Rejection α} {f : α → Except Rejection β} {b : β}
    (h : x >>= f = .ok b) : ∃ a, x = .ok a ∧ f a = .ok b := by
  cases x with
  | error e => cases h
  | ok a => exact ⟨a, rfl, h⟩

lemma eq_of_discovery {get : Parameters} {d : Discovery} (h : Discovery.ofParameters get = .ok d) :
    d.term = (get "term").getD "" ∧ d.topics = topics (get "topics") ∧
      count "max" (get "max") = .ok d.limit ∧ d.flavors = Flavor.ofParameter (get "flavors") ∧
      FailurePolicy.ofParameter (get "policy") = .ok d.policy := by
  unfold Discovery.ofParameters at h
  obtain ⟨limit, hcount, h⟩ := exists_of_bind h
  obtain ⟨policy, hpolicy, h⟩ := exists_of_bind h
  cases h
  exact ⟨rfl, rfl, hcount, rfl, hpolicy⟩

lemma topics_topics (raw : Option String) : topics (topics raw) = topics raw :=
  nonBlank?_bind_nonBlank? raw

lemma ofParameter_eq_failFast_iff {raw : Option String} :
    FailurePolicy.ofParameter raw = .ok .failFast ↔ raw.map Text.trim = some "fail_fast" := by
  unfold FailurePolicy.ofParameter FailurePolicy.ofCode?
  cases raw with
  | none => simp
  | some s =>
    by_cases hblank : Text.trim s = ""
    · simp [nonBlank?_of_blank hblank, hblank]
    · simp only [Option.bind_some, nonBlank?_of_ne hblank, Option.map_some]
      by_cases hisolate : Text.trim s = "isolate"
      · simp [hisolate]
      · by_cases hfast : Text.trim s = "fail_fast"
        · simp [hfast]
        · simp [hisolate, hfast]

lemma discovery_of_read {s : Source} {get : Parameters} {d : Discovery}
    (h : s.read get = .ok (.words d)) : s = .discover ∧ Discovery.ofParameters get = .ok d := by
  cases s with
  | discover =>
    obtain ⟨_, hread, heq⟩ := exists_of_map h
    cases heq
    exact ⟨rfl, hread⟩
  | dictionary | wikipedia | wikidata | conceptnet =>
    obtain ⟨_, -, heq⟩ := exists_of_map h
    cases heq

lemma read_subject {source : Source} (hsource : source ≠ .discover) {get : Parameters}
    {q : Question} (h : source.read get = .ok q) : ∃ s, q = .subject s := by
  cases source with
  | discover => exact absurd rfl hsource
  | dictionary | wikipedia | wikidata | conceptnet =>
    obtain ⟨s, -, heq⟩ := exists_of_map h
    exact ⟨s, heq.symm⟩

/-- What a source is asked about, with the parameters that this is read from. -/
inductive ReadsSubject (get : Parameters) : Source → Subject → Prop where
  | word {w : String} (hword : term ((get "word").getD "") = .ok w) :
      ReadsSubject get .dictionary (.word w)
  | pages {q : String} (hmode : mode get = "search")
      (hquery : required "q" maxQueryLength (get "q") = .ok q) :
      ReadsSubject get .wikipedia (.pages q)
  | summary {title : String} (hmode : mode get = "summary")
      (htitle : required "title" maxTitleLength (get "title") = .ok title) :
      ReadsSubject get .wikipedia (.summary title)
  | entities {q : String} (hmode : mode get = "search")
      (hquery : required "q" maxQueryLength (get "q") = .ok q) :
      ReadsSubject get .wikidata (.entities q)
  | attributes {id : String} (hmode : mode get = "attrs") (hid : entityId (get "id") = .ok id) :
      ReadsSubject get .wikidata (.attributes id)
  | relations {t : String} {limit : Nat} (hterm : term ((get "term").getD "") = .ok t)
      (hlimit : count "limit" (get "limit") = .ok limit) :
      ReadsSubject get .conceptnet (.relations t limit)

lemma readsSubject {get : Parameters} {s : Source} {subject : Subject}
    (h : s.read get = .ok (.subject subject)) : ReadsSubject get s subject := by
  cases s with
  | discover =>
    obtain ⟨_, -, heq⟩ := exists_of_map h
    cases heq
  | dictionary =>
    obtain ⟨_, hread, heq⟩ := exists_of_map h
    cases heq
    obtain ⟨w, hword, hread⟩ := exists_of_bind hread
    cases hread
    exact .word hword
  | wikipedia =>
    obtain ⟨_, hread, heq⟩ := exists_of_map h
    cases heq
    unfold Subject.ofWikipedia at hread
    split at hread
    · rename_i hmode
      obtain ⟨q, hquery, hread⟩ := exists_of_bind hread
      cases hread
      exact .pages hmode hquery
    · rename_i hmode
      obtain ⟨title, htitle, hread⟩ := exists_of_bind hread
      cases hread
      exact .summary hmode htitle
    · cases hread
  | wikidata =>
    obtain ⟨_, hread, heq⟩ := exists_of_map h
    cases heq
    unfold Subject.ofWikidata at hread
    split at hread
    · rename_i hmode
      obtain ⟨q, hquery, hread⟩ := exists_of_bind hread
      cases hread
      exact .entities hmode hquery
    · rename_i hmode
      obtain ⟨id, hid, hread⟩ := exists_of_bind hread
      cases hread
      exact .attributes hmode hid
    · cases hread
  | conceptnet =>
    obtain ⟨_, hread, heq⟩ := exists_of_map h
    cases heq
    obtain ⟨t, hterm, hread⟩ := exists_of_bind hread
    obtain ⟨limit, hlimit, hread⟩ := exists_of_bind hread
    cases hread
    exact .relations hterm hlimit

end PromptStudio.Proofs
