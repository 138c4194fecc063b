import PromptStudio.Proofs.Admission.Pruning

/-!
# Bursts

A key may use up the end of one window and then all of the next one. A span as long as a window
meets no third: where a window is opened in it, all that follows in the span belongs to that window.
-/

namespace PromptStudio.Proofs
open Admission

/-- How many of the requests are admitted between two instants, both of which belong to the span. -/
def admittedWithin (first last : Instant) (as : List (Call × Verdict)) : Nat :=
  as.countP fun a =>
    first.millis ≤ a.1.now.millis ∧ a.1.now.millis ≤ last.millis ∧ a.2.allowed

section span

variable {first last resetAt : Instant} {window : Int} {limit : UInt32} {calls : List Call}

lemma admittedWithin_cons_le (first last : Instant) (a : Call × Verdict)
    (as : List (Call × Verdict)) :
    admittedWithin first last (a :: as) ≤ admittedWithin first last as + 1 := by
  unfold admittedWithin
  rw [List.countP_cons]
  split <;> omega

lemma admittedWithin_cons_of_not {a : Call × Verdict} (as : List (Call × Verdict))
    (h : ¬ (first.millis ≤ a.1.now.millis ∧ a.1.now.millis ≤ last.millis ∧ a.2.allowed = true)) :
    admittedWithin first last (a :: as) = admittedWithin first last as := by
  unfold admittedWithin
  apply List.countP_cons_of_neg
  simpa using h

lemma admittedWithin_of_after (bucket : Option Bucket)
    (h : ∀ c ∈ calls, last.millis < c.now.millis) :
    admittedWithin first last (bucketAnswers bucket calls) = 0 := by
  induction calls generalizing bucket with
  | nil => rfl
  | cons c cs ih =>
    rw [bucketAnswers, admittedWithin_cons_of_not]
    · apply ih
      intro c' hc'
      exact h c' (List.mem_cons_of_mem c hc')
    · intro hin
      have hc := h c List.mem_cons_self
      have hle : c.now.millis ≤ last.millis := hin.2.1
      omega

lemma admittedWithin_window {count n : Nat} (hcount : count ≤ limit.toNat)
    (hcalls : ∀ c ∈ calls, c.limit = limit)
    (hafter : ∀ c cs, c :: cs <:+ calls → resetAt.millis < c.now.millis →
      admittedWithin first last (bucketAnswers none (c :: cs)) ≤ n) :
    count + admittedWithin first last (bucketAnswers (some ⟨count, resetAt⟩) calls) ≤
      limit.toNat + n := by
  -- A request in the window moves one from what may still be admitted to what is counted.
  induction calls generalizing count with
  | nil =>
    have hnone : admittedWithin first last (bucketAnswers (some ⟨count, resetAt⟩) []) = 0 := rfl
    omega
  | cons c cs ih =>
    by_cases hover : resetAt.millis < c.now.millis
    · rw [bucketAnswers_of_elapsed hover]
      have hn := hafter c cs List.suffix_rfl hover
      omega
    · have hcs := fun c' hc' => hcalls c' (List.mem_cons_of_mem c hc')
      have haftercs := fun c' cs' (h : c' :: cs' <:+ cs) =>
        hafter c' cs' (h.trans (cs.suffix_cons c))
      rw [bucketAnswers, Call.onBucket, hcalls c List.mem_cons_self]
      by_cases hfull : limit.toNat ≤ count
      · rw [charge_full hover hfull, admittedWithin_cons_of_not _ (by simp)]
        exact ih hcount hcs haftercs
      · have hroom : count < limit.toNat := Nat.not_le.1 hfull
        rw [charge_counted hover hroom]
        have hadmitted := admittedWithin_cons_le first last
          (c, ⟨true, limit.toNat - (count + 1), resetAt⟩)
          (bucketAnswers (some ⟨count + 1, resetAt⟩) cs)
        have hrest := @ih (count + 1) hroom hcs haftercs
        dsimp only at hadmitted hrest ⊢
        omega

lemma admittedWithin_opened {c : Call} {cs : List Call} (hlimit : 1 ≤ limit.toNat)
    (hend : last.millis ≤ (c.now.after window).millis)
    (hcalls : ∀ c' ∈ c :: cs, c'.window = window ∧ c'.limit = limit)
    (hclock : (c :: cs).Pairwise fun a b => a.now.millis ≤ b.now.millis) :
    admittedWithin first last (bucketAnswers none (c :: cs)) ≤ limit.toNat := by
  obtain ⟨hwindow, hc⟩ := hcalls c List.mem_cons_self
  obtain ⟨-, hrest⟩ := List.pairwise_cons.1 hclock
  rw [bucketAnswers, Call.onBucket, hwindow, hc, charge_none, openedWindow]
  have hadmitted := admittedWithin_cons_le first last
    (c, ⟨true, limit.toNat - 1, c.now.after window⟩)
    (bucketAnswers (some ⟨1, c.now.after window⟩) cs)
  have hwindow : 1 + admittedWithin first last
      (bucketAnswers (some ⟨1, c.now.after window⟩) cs) ≤ limit.toNat + 0 := by
    apply admittedWithin_window hlimit
    · intro c' hc'
      exact (hcalls c' (List.mem_cons_of_mem c hc')).2
    · intro c' cs' hsuffix hover
      refine Nat.le_of_eq (admittedWithin_of_after none ?_)
      have hclock' := hrest.sublist hsuffix.sublist
      intro c'' hc''
      rcases List.mem_cons.1 hc'' with rfl | hmem
      · omega
      · have hle := (List.pairwise_cons.1 hclock').1 c'' hmem
        omega
  dsimp only at hadmitted ⊢
  omega

/-- A bucket that has counted a request, and none beyond the limit. -/
def Counts (limit : UInt32) (bucket : Option Bucket) : Prop :=
  ∀ b, bucket = some b → 1 ≤ b.count ∧ b.count ≤ limit.toNat

lemma counts_onBucket {c : Call} {bucket : Option Bucket} (hlimit : 1 ≤ limit.toNat)
    (hc : c.limit = limit) (h : Counts limit bucket) :
    Counts limit (some (c.onBucket bucket).1) := by
  intro b' hb'
  rw [← Option.some.inj hb', Call.onBucket, hc]
  rcases charge_cases bucket c.window limit.toNat c.now with
    hopen | ⟨b, hb, -, -, hdenied⟩ | ⟨b, -, -, hroom, hcounted⟩
  · rw [hopen]
    exact ⟨Nat.le_refl 1, hlimit⟩
  · rw [hdenied]
    exact h b hb
  · rw [hcounted]
    exact ⟨Nat.succ_le_succ (Nat.zero_le _), hroom⟩

/-- Requests from the begin of the span on. The window that is open then has counted one before. -/
lemma admittedWithin_from {bucket : Option Bucket}
    (hspan : last.millis ≤ (first.after window).millis) (hlimit : 1 ≤ limit.toNat)
    (hbucket : Counts limit bucket) (hcalls : ∀ c ∈ calls, c.window = window ∧ c.limit = limit)
    (hclock : calls.Pairwise fun a b => a.now.millis ≤ b.now.millis)
    (hfrom : ∀ c ∈ calls, first.millis ≤ c.now.millis) :
    admittedWithin first last (bucketAnswers bucket calls) < 2 * limit.toNat := by
  have hopened (c : Call) (cs : List Call) (h : c :: cs <:+ calls) :
      admittedWithin first last (bucketAnswers none (c :: cs)) ≤ limit.toNat := by
    have hend : last.millis ≤ (c.now.after window).millis := by
      have hc := hfrom c (h.subset List.mem_cons_self)
      simp only [Instant.after] at hspan ⊢
      omega
    apply admittedWithin_opened hlimit hend
    · intro c' hc'
      exact hcalls c' (h.subset hc')
    · exact hclock.sublist h.sublist
  cases bucket with
  | none =>
    cases calls with
    | nil =>
      have hnone : admittedWithin first last (bucketAnswers none []) = 0 := rfl
      omega
    | cons c cs =>
      have hwhole := hopened c cs List.suffix_rfl
      omega
  | some b =>
    obtain ⟨count, resetAt⟩ := b
    obtain ⟨hone, hcount⟩ : 1 ≤ count ∧ count ≤ limit.toNat := hbucket _ rfl
    have hrest := admittedWithin_window hcount (fun c hc => (hcalls c hc).2)
      fun c cs h (_ : resetAt.millis < c.now.millis) => hopened c cs h
    omega

/-- Requests before the span as well. -/
theorem admittedWithin_lt {bucket : Option Bucket}
    (hspan : last.millis ≤ (first.after window).millis) (hlimit : 1 ≤ limit.toNat)
    (hbucket : Counts limit bucket) (hcalls : ∀ c ∈ calls, c.window = window ∧ c.limit = limit)
    (hclock : calls.Pairwise fun a b => a.now.millis ≤ b.now.millis) :
    admittedWithin first last (bucketAnswers bucket calls) < 2 * limit.toNat := by
  induction calls generalizing bucket with
  | nil =>
    have hnone : admittedWithin first last (bucketAnswers bucket []) = 0 := rfl
    omega
  | cons c cs ih =>
    obtain ⟨hlater, hrest⟩ := List.pairwise_cons.1 hclock
    by_cases hbefore : c.now.millis < first.millis
    · rw [bucketAnswers, admittedWithin_cons_of_not]
      · apply ih
        · exact counts_onBucket hlimit (hcalls c List.mem_cons_self).2 hbucket
        · intro c' hc'
          exact hcalls c' (List.mem_cons_of_mem c hc')
        · exact hrest
      · intro hin
        have hle : first.millis ≤ c.now.millis := hin.1
        omega
    · apply admittedWithin_from hspan hlimit hbucket hcalls hclock
      intro c' hc'
      rcases List.mem_cons.1 hc' with rfl | hmem
      · omega
      · have hle := hlater c' hmem
        omega

end span

/-- While the clock does not step back, a key that always asks with one window and one limit is
admitted less than twice the limit in any span as long as the window. -/
theorem bursts_below_twice_the_limit (ops : List Operation) (key : String) (window : Int)
    (limit : UInt32) (hlimit : 1 ≤ limit.toNat)
    (hkey : ∀ c, .charge c ∈ ops → c.key = key → c.window = window ∧ c.limit = limit)
    (hclock : ops.Pairwise fun a b => a.now.millis ≤ b.now.millis) (t : Instant) :
    admittedWithin t (t.after window) ((answers .empty ops).filter fun a => a.1.key = key) <
      2 * limit.toNat := by
  rw [answers_without_prunings .empty hclock, filter_isCharge, filter_answers_of_key,
    Table.get?_empty]
  apply admittedWithin_lt (Int.le_refl _) hlimit
  · intro b hb
    cases hb
  · intro c hc
    obtain ⟨hmem, hc⟩ := List.mem_filter.1 hc
    obtain ⟨op, hop, hcall⟩ := List.mem_filterMap.1 hmem
    cases op with
    | charge c' =>
      cases hcall
      exact hkey c hop (by simpa using hc)
    | prune now => cases hcall
  · apply List.Pairwise.filter
    apply List.Pairwise.filterMap _ _ hclock
    intro op op' hle c hc c' hc'
    cases op <;> cases op' <;> cases hc <;> cases hc'
    exact hle

/-- With two requests a window, three are admitted from the first millisecond to the sixty-first. -/
theorem bursts_below_twice_the_limit_across_windows :
    let ops : List Operation := [.charge ⟨"k", 60, 2, ⟨0⟩⟩, .charge ⟨"k", 60, 2, ⟨60⟩⟩,
      .charge ⟨"k", 60, 2, ⟨60⟩⟩, .charge ⟨"l", 7, 0, ⟨60⟩⟩, .prune ⟨61⟩,
      .charge ⟨"k", 60, 2, ⟨61⟩⟩, .charge ⟨"k", 60, 2, ⟨61⟩⟩, .charge ⟨"k", 60, 2, ⟨61⟩⟩]
    let admitted := admittedWithin ⟨1⟩ ⟨61⟩ ((answers .empty ops).filter fun a => a.1.key = "k")
    (1 ≤ (2 : UInt32).toNat ∧
      (∀ c, .charge c ∈ ops → c.key = "k" → c.window = 60 ∧ c.limit = 2) ∧
      ops.Pairwise fun a b => a.now.millis ≤ b.now.millis) ∧
    admitted = 3 ∧ admitted < 2 * (2 : UInt32).toNat := by
  intro ops admitted
  have hkey : ∀ c, .charge c ∈ ops → c.key = "k" → c.window = 60 ∧ c.limit = 2 := by
    simp [ops]
  have hclock : ops.Pairwise fun a b => a.now.millis ≤ b.now.millis := by decide
  have hlimit : 1 ≤ (2 : UInt32).toNat := by decide
  exact ⟨⟨hlimit, hkey, hclock⟩, by decide +kernel,
    bursts_below_twice_the_limit ops "k" 60 2 hlimit hkey hclock ⟨1⟩⟩

end PromptStudio.Proofs
