import Mathlib.Tactic.ByContra
import PromptStudio.Proofs.Admission.Run

/-!
# Pruning is invisible

Pruning drops the buckets whose window has ended. A request finds such a bucket as if there were
none, so while the clock does not step back no answer tells whether and when a ledger is pruned.
-/

namespace PromptStudio.Proofs
open Admission

/-- The buckets that pruning keeps are those whose window has not ended. -/
theorem get?_prune (l : Ledger) (now : Instant) (key : String) (b : Bucket) :
    (l.prune now).1.get? key = some b ↔
      l.get? key = some b ∧ ¬ b.resetAt.millis < now.millis := by
  unfold Ledger.prune
  rw [Table.get?_filter, Option.filter_eq_some_iff]
  simp [Bucket.elapsed]

/-- The number that pruning returns is that of the buckets whose window has ended. -/
theorem count_prune (l : Ledger) (now : Instant) :
    (l.prune now).2 = (l.entries.filter fun e => e.2.resetAt.millis < now.millis).length := by
  have hsplit := List.length_eq_countP_add_countP (l := l.entries)
    fun e : String × Bucket => e.2.elapsed now
  have hkept : (l.prune now).1.entries.length =
      l.entries.countP fun e => ¬ e.2.elapsed now = true := by
    rw [List.countP_eq_length_filter]
    simp [Ledger.prune, Table.filter]
  have hcount : (l.prune now).2 = l.entries.length - (l.prune now).1.entries.length := rfl
  rw [hcount, hkept, hsplit, Nat.add_sub_cancel, List.countP_eq_length_filter]
  rfl

/-- The ledgers agree at an instant, except that the second may lack buckets whose window has
ended by then. -/
def AgreeAt (now : Int) (l pruned : Ledger) : Prop :=
  ∀ key, pruned.get? key = l.get? key ∨
    pruned.get? key = none ∧ ∃ b, l.get? key = some b ∧ b.resetAt.millis < now

lemma agreeAt_refl (now : Int) (l : Ledger) : AgreeAt now l l :=
  fun _ => Or.inl rfl

lemma agreeAt_later {now later : Int} {l pruned : Ledger} (h : AgreeAt now l pruned)
    (hle : now ≤ later) : AgreeAt later l pruned := by
  intro key
  rcases h key with heq | ⟨hnone, b, hb, hend⟩
  · exact Or.inl heq
  · exact Or.inr ⟨hnone, b, hb, by omega⟩

lemma agreeAt_prune {now : Instant} {l pruned : Ledger} (h : AgreeAt now.millis l pruned) :
    AgreeAt now.millis l (pruned.prune now).1 := by
  intro key
  cases hget : (pruned.prune now).1.get? key with
  | some b =>
    have hkept := ((get?_prune pruned now key b).1 hget).1
    rcases h key with heq | ⟨hnone, -⟩
    · exact Or.inl (by rw [← heq, hkept])
    · rw [hkept] at hnone
      cases hnone
  | none =>
    rcases h key with heq | hgone
    · cases hb : l.get? key with
      | none => exact Or.inl rfl
      | some b =>
        refine Or.inr ⟨rfl, b, rfl, ?_⟩
        by_contra hend
        have hkept := (get?_prune pruned now key b).2 ⟨heq.trans hb, hend⟩
        rw [hget] at hkept
        cases hkept
    · exact Or.inr ⟨rfl, hgone.2⟩

lemma onBucket_agreeAt {c : Call} {l pruned : Ledger} (h : AgreeAt c.now.millis l pruned) :
    c.onBucket (pruned.get? c.key) = c.onBucket (l.get? c.key) := by
  rcases h c.key with heq | ⟨hnone, b, hb, hend⟩
  · rw [heq]
  · rw [hnone, hb]
    exact (charge_elapsed hend).symm

lemma agreeAt_onLedger {c : Call} {l pruned : Ledger} (h : AgreeAt c.now.millis l pruned) :
    AgreeAt c.now.millis (c.onLedger l).1 (c.onLedger pruned).1 := by
  intro key
  rw [get?_onLedger, get?_onLedger, onBucket_agreeAt h]
  by_cases hkey : c.key = key
  · rw [if_pos hkey, if_pos hkey]
    exact Or.inl rfl
  · rw [if_neg hkey, if_neg hkey]
    exact h key

/-- Two runs in step, one of which skips every pruning. -/
theorem answers_of_agreeAt {ops : List Operation} {now : Int} {l pruned : Ledger}
    (h : AgreeAt now l pruned) (hnow : ∀ op ∈ ops, now ≤ op.now.millis)
    (hclock : ops.Pairwise fun a b => a.now.millis ≤ b.now.millis) :
    answers pruned ops = answers l (ops.filter Operation.isCharge) := by
  induction ops generalizing now l pruned with
  | nil => rfl
  | cons op ops ih =>
    obtain ⟨hfirst, hrest⟩ := List.pairwise_cons.1 hclock
    have hop := agreeAt_later h (hnow op List.mem_cons_self)
    cases op with
    | charge c =>
      rw [List.filter_cons_of_pos rfl, answers, answers, onLedger_verdict, onLedger_verdict,
        onBucket_agreeAt hop, ih (agreeAt_onLedger hop) hfirst hrest]
    | prune t =>
      rw [List.filter_cons_of_neg (by simp [Operation.isCharge]), answers]
      exact ih (agreeAt_prune hop) hfirst hrest

/-- While the clock does not step back, prunings can be left out of a run. -/
theorem answers_without_prunings (l : Ledger) {ops : List Operation}
    (hclock : ops.Pairwise fun a b => a.now.millis ≤ b.now.millis) :
    answers l ops = answers l (ops.filter Operation.isCharge) := by
  cases ops with
  | nil => rfl
  | cons op rest =>
    apply answers_of_agreeAt (agreeAt_refl op.now.millis l) _ hclock
    intro op' hop'
    rcases List.mem_cons.1 hop' with rfl | hmem
    · exact Int.le_refl _
    · exact (List.pairwise_cons.1 hclock).1 op' hmem

/-- While the clock does not step back, a run answers every request as the run without its
prunings does. Each pruning removes just the buckets whose window has ended, returns their number
and leaves the others as they were. -/
theorem pruning_is_invisible (ops : List Operation)
    (hclock : ops.Pairwise fun a b => a.now.millis ≤ b.now.millis) :
    answers .empty ops = answers .empty (ops.filter Operation.isCharge) ∧
    ∀ (l : Ledger) (now : Instant),
      (∀ key b, (l.prune now).1.get? key = some b ↔
        l.get? key = some b ∧ ¬ b.resetAt.millis < now.millis) ∧
      (l.prune now).2 = (l.entries.filter fun e => e.2.resetAt.millis < now.millis).length := by
  exact ⟨answers_without_prunings .empty hclock, fun l now => ⟨get?_prune l now, count_prune l now⟩⟩

/-- A bucket at the end of its window outlives a pruning at that instant, and a millisecond later
it is dropped. -/
theorem pruning_is_invisible_at_reset :
    let ops : List Operation := [.charge ⟨"k", 60, 1, ⟨0⟩⟩, .prune ⟨60⟩,
      .charge ⟨"k", 60, 1, ⟨60⟩⟩, .prune ⟨61⟩, .charge ⟨"k", 60, 1, ⟨61⟩⟩]
    (ops.Pairwise fun a b => a.now.millis ≤ b.now.millis) ∧
    answers .empty ops = answers .empty (ops.filter Operation.isCharge) ∧
    (answers .empty ops).map Prod.snd =
      [⟨true, 0, ⟨60⟩⟩, ⟨false, 0, ⟨60⟩⟩, ⟨true, 0, ⟨121⟩⟩] := by
  intro ops
  have hclock : ops.Pairwise fun a b => a.now.millis ≤ b.now.millis := by decide
  have hinvisible := (pruning_is_invisible ops hclock).1
  exact ⟨hclock, hinvisible, by decide⟩

end PromptStudio.Proofs
