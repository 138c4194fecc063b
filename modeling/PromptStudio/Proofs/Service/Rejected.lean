import Mathlib.Data.List.Nodup
import PromptStudio.Proofs.Service.Counting

/-!
# What a rejected lookup costs

A lookup uses up one unit of its client's budget before its parameters are looked at, so a rejected
one does too. The exception is a query string that gives a parameter twice: it is turned down
before the client is admitted.
-/

namespace PromptStudio.Proofs
open Admission Service

/-! ## What is left of a budget -/

/-- The requests that a client may still make in its window, or in a new one if it has ended. -/
def budgetLeft (l : Ledger) (p : Policy) (client : String) (now : Instant) : Nat :=
  match l.get? (p.key client) with
  | none => p.limit
  | some b => if b.elapsed now then p.limit else p.limit - b.count

lemma not_elapsed_after {count : Nat} {now : Instant} {window : Int} (h : 0 ≤ window) :
    Bucket.elapsed ⟨count, now.after window⟩ now = false := by
  refine decide_eq_false fun hlt => ?_
  have hend : (now.after window).millis = now.millis + window := rfl
  rw [hend] at hlt
  omega

lemma budgetLeft_check {l : Ledger} {p : Policy} {client : String} {now : Instant}
    (hwindow : 0 ≤ p.window) (hleft : 0 < budgetLeft l p client now) :
    budgetLeft (l.check p client now).1 p client now + 1 = budgetLeft l p client now := by
  have hafter : (l.check p client now).1.get? (p.key client) =
      some (Bucket.charge (l.get? (p.key client)) p.window p.limit now).1 :=
    Table.get?_put_self l _ _
  unfold budgetLeft at hleft ⊢
  rw [hafter]
  cases hbucket : l.get? (p.key client) with
  | none =>
    simp only [hbucket] at hleft
    simp only [charge_none, openedWindow, not_elapsed_after hwindow]
    exact Nat.sub_add_cancel hleft
  | some b =>
    simp only [hbucket] at hleft
    by_cases helapsed : b.resetAt.millis < now.millis
    · have hopen : b.elapsed now = true := decide_eq_true helapsed
      simp only [hopen, if_true] at hleft
      simp only [charge_elapsed helapsed, openedWindow, not_elapsed_after hwindow, hopen, if_true]
      exact Nat.sub_add_cancel hleft
    · have hopen : b.elapsed now = false := decide_eq_false helapsed
      simp only [hopen, Bool.false_eq_true, if_false] at hleft
      have hroom : b.count < p.limit := by omega
      have hsame : Bucket.elapsed ⟨b.count + 1, b.resetAt⟩ now = false := hopen
      simp only [charge_counted helapsed hroom, hsame, hopen, Bool.false_eq_true, if_false]
      omega

lemma window_source (s : Lookup.Source) : 0 ≤ s.policy.window := by
  cases s <;> decide

/-! ## Parameters given twice -/

def RepeatsParameter (s : Lookup.Source) (r : Http.Request) : Prop :=
  ∃ name ∈ s.parameters, 2 ≤ (Http.Form.decode r.query).countP fun pair => pair.1 == name

lemma count_known (known : List String) (pairs : List (String × String)) (name : String) :
    ((pairs.filter fun pair => known.contains pair.1).map Prod.fst).count name =
      if name ∈ known then pairs.countP fun pair => pair.1 == name else 0 := by
  rw [List.count, List.countP_map, List.countP_filter]
  by_cases hname : name ∈ known
  · rw [if_pos hname]
    refine List.countP_congr fun pair _ => ?_
    simp only [Function.comp_apply, Bool.and_eq_true, beq_iff_eq, List.contains_iff_mem]
    exact and_iff_left_of_imp fun heq => heq ▸ hname
  · rw [if_neg hname, List.countP_eq_zero]
    intro pair _ h
    simp only [Function.comp_apply, Bool.and_eq_true, beq_iff_eq, List.contains_iff_mem] at h
    exact hname (h.1 ▸ h.2)

lemma fields?_eq_none_iff (s : Lookup.Source) (r : Http.Request) :
    Http.Form.fields? s.parameters (Http.Form.decode r.query) = none ↔ RepeatsParameter s r := by
  unfold Http.Form.fields? RepeatsParameter
  dsimp only
  rw [ite_eq_right_iff, List.nodup_iff_count_le_one]
  simp only [reduceCtorEq, imp_false, count_known, not_forall, Nat.not_le]
  refine exists_congr fun name => ?_
  by_cases hname : name ∈ s.parameters
  · rw [if_pos hname]
    exact (and_iff_right hname).symm
  · rw [if_neg hname]
    exact iff_of_false (by decide) fun h => hname h.1

section serve

variable {v : Visit} {s : Lookup.Source}

lemma serveWhole_of_repeated (haction : v.action? = some (.lookup s))
    (h : RepeatsParameter s v.request) (st : State) :
    serveWhole v.around st v.request = st.answer (.ofRejection .query) := by
  rw [serveWhole_of_action haction]
  simp only [perform, lookUp, (fields?_eq_none_iff s v.request).2 h]

/-- A lookup of a client with budget left, whatever it is answered, takes one unit of the budget
and nothing of any other. Only one that gives a parameter twice is rejected at no cost. -/
theorem lookup_costs_one_unless_repeated (st : State) (haction : v.action? = some (.lookup s))
    (hleft : 0 < budgetLeft st.ledger s.policy v.request.headers.client v.around.now) :
    let after := (v.serve st).state
    (¬ RepeatsParameter s v.request →
      budgetLeft after.ledger s.policy v.request.headers.client v.around.now + 1 =
        budgetLeft st.ledger s.policy v.request.headers.client v.around.now ∧
      ∀ key ≠ s.policy.key v.request.headers.client,
        after.ledger.get? key = st.ledger.get? key) ∧
    (RepeatsParameter s v.request → (v.serve st).response.status = 400 ∧ after = st) := by
  intro after
  have hafter : after = (serveWhole v.around st v.request).state := state_serve v st
  refine ⟨fun hread => ?_, fun hrepeated => ?_⟩
  · have hcounted : v.counted? = some s.policy := by
      rw [← fields?_eq_none_iff, ← ne_eq, Option.ne_none_iff_exists'] at hread
      obtain ⟨fields, hfields⟩ := hread
      rw [Visit.counted?, haction]
      dsimp only
      rw [hfields, Option.map_some]
    have hledger : after.ledger =
        (st.ledger.check s.policy v.request.headers.client v.around.now).1 := by
      rw [hafter, (countedOnce_serveWhole hcounted).ledger]
      rfl
    rw [hledger]
    exact ⟨budgetLeft_check (window_source s) hleft, fun key hkey =>
      Table.get?_put_of_ne st.ledger hkey.symm _⟩
  · have hserved := serveWhole_of_repeated haction hrepeated st
    refine ⟨?_, ?_⟩
    · rw [status_serve, hserved]
      rfl
    · rw [hafter, hserved]
      rfl

end serve

/-- The last unit of a budget goes to an identifier that is none, and is kept where the second name
of a pair is written with percent signs. -/
theorem lookup_costs_one_unless_repeated_of_the_last :
    let st : State := ⟨Table.empty.put "wd:unknown" ⟨19, ⟨5⟩⟩, .failing, none⟩
    let around : Surroundings := ⟨⟨5⟩, fun _ => none, ⟨9⟩, false⟩
    let unfit : Visit := ⟨around, ⟨.get, "/api/v1/lookup/wikidata?mode=attrs&id=x5&ID=Q5", [], ""⟩⟩
    let twice : Visit := ⟨around, ⟨.head, "/api/v1/lookup/wikidata?id=Q5&%69d=", [], ""⟩⟩
    let left (st : State) : Nat := budgetLeft st.ledger .wikidata "unknown" ⟨5⟩
    (unfit.action? = some (.lookup .wikidata) ∧ twice.action? = some (.lookup .wikidata) ∧
      ¬ RepeatsParameter .wikidata unfit.request ∧ RepeatsParameter .wikidata twice.request ∧
      left st = 1) ∧
    ((unfit.serve st).response.status = 400 ∧ left (unfit.serve st).state = 0) ∧
    ((twice.serve st).response.status = 400 ∧ (twice.serve st).state = st) := by
  intro st around unfit twice left
  have hunfit : unfit.action? = some (.lookup .wikidata) := by decide +kernel
  have htwice : twice.action? = some (.lookup .wikidata) := by decide +kernel
  have hread : ¬ RepeatsParameter .wikidata unfit.request := by
    rw [← fields?_eq_none_iff]
    decide +kernel
  have hrepeated : RepeatsParameter .wikidata twice.request := by
    rw [← fields?_eq_none_iff]
    decide +kernel
  have hleft : left st = 1 := by decide +kernel
  have hclient : unfit.request.headers.client = "unknown" ∧
      twice.request.headers.client = "unknown" := by
    decide +kernel
  have hpositive : 0 < budgetLeft st.ledger .wikidata "unknown" ⟨5⟩ := by
    rw [show budgetLeft st.ledger .wikidata "unknown" ⟨5⟩ = 1 from hleft]
    decide
  have hcounted := (lookup_costs_one_unless_repeated st hunfit
    (by rw [hclient.1]; exact hpositive)).1 hread
  have hkept := (lookup_costs_one_unless_repeated st htwice
    (by rw [hclient.2]; exact hpositive)).2 hrepeated
  refine ⟨⟨hunfit, htwice, hread, hrepeated, hleft⟩, ⟨by decide +kernel, ?_⟩, hkept⟩
  have hone := hcounted.1
  rw [hclient.1] at hone
  exact Nat.succ.inj (hone.trans hleft)

/-- A lookup that gives its word twice is rejected, and the budget is as it was. -/
theorem rejected_at_no_cost :
    let st : State := ⟨.empty, .failing, none⟩
    let around : Surroundings := ⟨⟨0⟩, fun _ => none, ⟨9⟩, false⟩
    let v : Visit := ⟨around, ⟨.get, "/api/v1/lookup/dictionary?word=a&word=b", [], ""⟩⟩
    let left (st : State) : Nat := budgetLeft st.ledger .dictionary "unknown" ⟨0⟩
    v.action? = some (.lookup .dictionary) ∧ v.request.headers.client = "unknown" ∧
    left st = 30 ∧ (v.serve st).response.status = 400 ∧ left (v.serve st).state = 30 := by
  decide +kernel

end PromptStudio.Proofs
