import Mathlib.Data.List.Basic
import Mathlib.Data.Prod.Basic
import PromptStudio.Lookup.Source
import PromptStudio.Proofs.Admission.Pruning
import PromptStudio.Proofs.Text.Separators

/-!
# Budgets are kept apart

A client has a budget for each feature. The key of a budget tells the feature and the client, also
where a client is called by a text with colons in it. So whatever is asked under other budgets, and
whenever the ledger is pruned, a client is answered as if it were alone with one feature.
-/

namespace PromptStudio.Proofs
open Admission

/-- What clients have budgets for. -/
inductive Feature where
  | lookup (source : Lookup.Source)
  | projectSave
  deriving DecidableEq

def Feature.policy : Feature → Policy
  | lookup source => source.policy
  | projectSave => .projectSave

/-- A request of a client that is to be counted. -/
structure Check where
  feature : Feature
  client : String
  now : Instant
  deriving DecidableEq

inductive Use where
  | check (check : Check)
  | prune (now : Instant)
  deriving DecidableEq

def Check.onLedger (c : Check) (l : Ledger) : Ledger × Verdict :=
  l.check c.feature.policy c.client c.now

def Check.isUnder (feature : Feature) (client : String) (c : Check) : Bool :=
  c.feature = feature ∧ c.client = client

namespace Use

def now : Use → Instant
  | check c => c.now
  | prune now => now

/-- Whether this is a request under one budget. -/
def isUnder (feature : Feature) (client : String) : Use → Bool
  | check c => c.isUnder feature client
  | prune _ => false

end Use

/-- The requests of a run with their verdicts, in order. -/
def checked (l : Ledger) : List Use → List (Check × Verdict)
  | [] => []
  | .check c :: uses => (c, (c.onLedger l).2) :: checked (c.onLedger l).1 uses
  | .prune now :: uses => checked (l.prune now).1 uses

/-! ## The key of a budget -/

lemma feature_injective : Function.Injective fun f : Feature => f.policy.feature := by
  intro f f' h
  cases f with
  | lookup s =>
    cases f' with
    | lookup s' => cases s <;> cases s' <;> first | rfl | exact absurd h (by decide)
    | projectSave => cases s <;> exact absurd h (by decide)
  | projectSave =>
    cases f' with
    | lookup s' => cases s' <;> exact absurd h (by decide)
    | projectSave => rfl

lemma colon_not_mem_feature (f : Feature) : ':' ∉ f.policy.feature.toList := by
  cases f with
  | lookup s => cases s <;> decide
  | projectSave => decide

/-- No feature has a colon in its name, so the first colon of a key ends the feature. -/
theorem budgetKey_eq_iff {f f' : Feature} {client client' : String} :
    f.policy.key client = f'.policy.key client' ↔ f = f' ∧ client = client' := by
  unfold Policy.key
  rw [← String.toList_inj, toList_joined, toList_joined,
    append_cons_inj_of_not_mem (colon_not_mem_feature f) (colon_not_mem_feature f'),
    String.toList_inj, String.toList_inj, feature_injective.eq_iff]

/-! ## Requests under budgets as requests of keys -/

def Check.call (c : Check) : Call :=
  ⟨c.feature.policy.key c.client, c.feature.policy.window, c.feature.policy.limit.toUInt32, c.now⟩

def Use.operation : Use → Operation
  | check c => .charge c.call
  | prune now => .prune now

lemma onLedger_call (c : Check) (l : Ledger) : c.call.onLedger l = c.onLedger l := by
  have hlimit : c.feature.policy.limit.toUInt32.toNat = c.feature.policy.limit := by
    cases c.feature with
    | lookup s => cases s <;> rfl
    | projectSave => rfl
  unfold Call.onLedger Check.onLedger Ledger.check Check.call
  rw [hlimit]

lemma call_key_eq_iff {c : Check} {f : Feature} {client : String} :
    c.call.key = f.policy.key client ↔ c.isUnder f client := by
  unfold Check.isUnder
  rw [decide_eq_true_iff]
  exact budgetKey_eq_iff

lemma call_injective : Function.Injective Check.call := by
  intro c c' h
  obtain ⟨hfeature, hclient⟩ := budgetKey_eq_iff.1 (congrArg Call.key h)
  have hnow : c.now = c'.now := congrArg Call.now h
  cases c
  cases c'
  simp only at hfeature hclient hnow
  rw [hfeature, hclient, hnow]

lemma now_operation (use : Use) : use.operation.now = use.now := by
  cases use <;> rfl

lemma answers_operation (l : Ledger) (uses : List Use) :
    answers l (uses.map Use.operation) = (checked l uses).map (Prod.map Check.call id) := by
  induction uses generalizing l with
  | nil => rfl
  | cons use uses ih =>
    cases use with
    | check c =>
      rw [List.map_cons, Use.operation, answers, onLedger_call, ih]
      rfl
    | prune now =>
      rw [List.map_cons, Use.operation, answers, ih]
      rfl

lemma operation_filter_isUnder (feature : Feature) (client : String) (uses : List Use) :
    (uses.filter (Use.isUnder feature client)).map Use.operation =
      (((uses.map Use.operation).filterMap Operation.call?).filter fun c =>
        c.key = feature.policy.key client).map .charge := by
  induction uses with
  | nil => rfl
  | cons use uses ih =>
    cases use with
    | check c =>
      have hcall : (Operation.charge c.call).call? = some c.call := rfl
      rw [List.map_cons, Use.operation, List.filterMap_cons_some hcall]
      by_cases h : c.call.key = feature.policy.key client
      · have hunder : (Use.check c).isUnder feature client = true := call_key_eq_iff.1 h
        rw [List.filter_cons_of_pos hunder, List.filter_cons_of_pos (by simpa using h),
          List.map_cons, List.map_cons, ih]
        rfl
      · have hother : ¬ (Use.check c).isUnder feature client = true :=
          fun hunder => h (call_key_eq_iff.2 hunder)
        rw [List.filter_cons_of_neg hother, List.filter_cons_of_neg (by simpa using h), ih]
    | prune now =>
      have hcall : (Operation.prune now).call? = none := rfl
      rw [List.map_cons, Use.operation, List.filterMap_cons_none hcall,
        List.filter_cons_of_neg Bool.false_ne_true, ih]

lemma get?_check_of_ne (l : Ledger) {c : Check} {feature : Feature} {client : String}
    (h : ¬ (c.feature = feature ∧ c.client = client)) :
    (c.onLedger l).1.get? (feature.policy.key client) = l.get? (feature.policy.key client) := by
  rw [← onLedger_call, get?_onLedger, if_neg]
  intro hkey
  exact h (budgetKey_eq_iff.1 hkey)

/-- While the clock does not step back, a client is answered under a feature as in the run that has
only its own requests under this feature and no prunings. In every ledger, requests of others and
for other features leave its window as it is. -/
theorem budgets_kept_apart (l : Ledger) (uses : List Use)
    (hclock : uses.Pairwise fun a b => a.now.millis ≤ b.now.millis)
    (feature : Feature) (client : String) :
    (checked l uses).filter (fun a => a.1.isUnder feature client) =
      checked l (uses.filter (Use.isUnder feature client)) ∧
    ∀ (l : Ledger) (c : Check), ¬ (c.feature = feature ∧ c.client = client) →
      (c.onLedger l).1.get? (feature.policy.key client) =
        l.get? (feature.policy.key client) := by
  refine ⟨?_, fun l c => get?_check_of_ne l⟩
  have hops : (uses.map Use.operation).Pairwise fun a b => a.now.millis ≤ b.now.millis := by
    apply List.pairwise_map.2
    simpa only [now_operation] using hclock
  have hunder : (fun a : Check × Verdict => decide (a.1.call.key = feature.policy.key client)) =
      fun a => a.1.isUnder feature client := by
    funext a
    rw [Bool.eq_iff_iff, decide_eq_true_iff]
    exact call_key_eq_iff
  -- Requests of keys tell the requests under budgets, so it suffices to compare the former.
  apply List.map_injective_iff.2 (call_injective.prodMap Function.injective_id)
  calc ((checked l uses).filter fun a => a.1.isUnder feature client).map (Prod.map Check.call id)
      = (answers l (uses.map Use.operation)).filter fun a =>
          a.1.key = feature.policy.key client := by
        rw [answers_operation, List.filter_map, ← hunder]
        rfl
    _ = answers l ((uses.filter (Use.isUnder feature client)).map Use.operation) := by
        rw [answers_without_prunings l hops, filter_isCharge, operation_filter_isUnder,
          answers_filter_key]
    _ = (checked l (uses.filter (Use.isUnder feature client))).map (Prod.map Check.call id) :=
        answers_operation l _

/-- Two clients whose names begin alike, two features, and a pruning in between. -/
theorem budgets_kept_apart_amid_others :
    let dictionary : Feature := .lookup .dictionary
    let uses : List Use := [.check ⟨dictionary, "a:b", ⟨0⟩⟩, .check ⟨dictionary, "a", ⟨0⟩⟩,
      .check ⟨.projectSave, "a:b", ⟨3⟩⟩, .prune ⟨60001⟩, .check ⟨dictionary, "a", ⟨60001⟩⟩,
      .check ⟨dictionary, "a:b", ⟨60002⟩⟩]
    (uses.Pairwise fun a b => a.now.millis ≤ b.now.millis) ∧
    ((checked .empty uses).filter fun a => a.1.isUnder dictionary "a:b").map Prod.snd =
      [⟨true, 29, ⟨60000⟩⟩, ⟨true, 29, ⟨120002⟩⟩] := by
  intro dictionary uses
  have hclock : uses.Pairwise fun a b => a.now.millis ≤ b.now.millis := by decide
  refine ⟨hclock, ?_⟩
  rw [(budgets_kept_apart .empty uses hclock dictionary "a:b").1]
  decide +kernel

end PromptStudio.Proofs
