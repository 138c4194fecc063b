import Mathlib.Tactic.Lemma
import PromptStudio.Admission.Ledger

/-!
# Runs of a ledger

A run is a list of operations on one ledger: requests of keys, and prunings. The answers of a
run to the requests of one key depend on the bucket of that key and on nothing else.
-/

namespace PromptStudio.Proofs
open Admission

/-- A request of a key with its window in milliseconds, its limit and its time. -/
structure Call where
  key : String
  window : Int
  limit : UInt32
  now : Instant
  deriving DecidableEq

inductive Operation where
  | charge (call : Call)
  | prune (now : Instant)
  deriving DecidableEq

namespace Operation

def now : Operation → Instant
  | charge call => call.now
  | prune now => now

def isCharge : Operation → Bool
  | charge _ => true
  | prune _ => false

def call? : Operation → Option Call
  | charge call => some call
  | prune _ => none

end Operation

/-- The bucket of the key after a request, and the verdict. -/
def Call.onBucket (c : Call) (bucket : Option Bucket) : Bucket × Verdict :=
  Bucket.charge bucket c.window c.limit.toNat c.now

def Call.onLedger (c : Call) (l : Ledger) : Ledger × Verdict :=
  l.charge c.key c.window c.limit.toNat c.now

/-- The requests of a run with their verdicts, in order. -/
def answers (l : Ledger) : List Operation → List (Call × Verdict)
  | [] => []
  | .charge c :: ops => (c, (c.onLedger l).2) :: answers (c.onLedger l).1 ops
  | .prune now :: ops => answers (l.prune now).1 ops

/-- The requests that all meet one bucket, with their verdicts. -/
def bucketAnswers (bucket : Option Bucket) : List Call → List (Call × Verdict)
  | [] => []
  | c :: cs => (c, (c.onBucket bucket).2) :: bucketAnswers (some (c.onBucket bucket).1) cs

/-- The verdicts of requests that all meet one bucket. -/
def bucketVerdicts (bucket : Option Bucket) : List Call → List Verdict
  | [] => []
  | c :: cs => (c.onBucket bucket).2 :: bucketVerdicts (some (c.onBucket bucket).1) cs

section charge

variable {b : Bucket} {window : Int} {limit : Nat} {now : Instant}

/-- The window that a request opens. -/
def openedWindow (window : Int) (limit : Nat) (now : Instant) : Bucket × Verdict :=
  (⟨1, now.after window⟩, ⟨true, limit - 1, now.after window⟩)

@[simp] lemma charge_none : Bucket.charge none window limit now = openedWindow window limit now :=
  rfl

lemma charge_elapsed (h : b.resetAt.millis < now.millis) :
    Bucket.charge (some b) window limit now = openedWindow window limit now := by
  unfold Bucket.charge
  simp only [Bucket.elapsed, decide_eq_true h, if_true]
  rfl

lemma charge_full (h : ¬ b.resetAt.millis < now.millis) (hfull : limit ≤ b.count) :
    Bucket.charge (some b) window limit now = (b, ⟨false, 0, b.resetAt⟩) := by
  simp [Bucket.charge, Bucket.elapsed, h, hfull]

lemma charge_counted (h : ¬ b.resetAt.millis < now.millis) (hroom : b.count < limit) :
    Bucket.charge (some b) window limit now =
      (⟨b.count + 1, b.resetAt⟩, ⟨true, limit - (b.count + 1), b.resetAt⟩) := by
  have hfull : ¬ limit ≤ b.count := Nat.not_le.2 hroom
  simp [Bucket.charge, Bucket.elapsed, h, hfull]

/-- What a request does, in three cases: it opens a window, is denied, or is counted. -/
lemma charge_cases (bucket : Option Bucket) (window : Int) (limit : Nat) (now : Instant) :
    Bucket.charge bucket window limit now = openedWindow window limit now ∨
    (∃ b, bucket = some b ∧ ¬ b.resetAt.millis < now.millis ∧ limit ≤ b.count ∧
      Bucket.charge bucket window limit now = (b, ⟨false, 0, b.resetAt⟩)) ∨
    (∃ b, bucket = some b ∧ ¬ b.resetAt.millis < now.millis ∧ b.count < limit ∧
      Bucket.charge bucket window limit now =
        (⟨b.count + 1, b.resetAt⟩, ⟨true, limit - (b.count + 1), b.resetAt⟩)) := by
  cases bucket with
  | none => exact Or.inl rfl
  | some b =>
    by_cases h : b.resetAt.millis < now.millis
    · exact Or.inl (charge_elapsed h)
    · by_cases hfull : limit ≤ b.count
      · exact Or.inr (Or.inl ⟨b, rfl, h, hfull, charge_full h hfull⟩)
      · have hroom : b.count < limit := Nat.not_le.1 hfull
        exact Or.inr (Or.inr ⟨b, rfl, h, hroom, charge_counted h hroom⟩)

end charge

@[simp] lemma onLedger_verdict (c : Call) (l : Ledger) :
    (c.onLedger l).2 = (c.onBucket (l.get? c.key)).2 := rfl

lemma get?_onLedger (c : Call) (l : Ledger) (key : String) :
    (c.onLedger l).1.get? key =
      if c.key = key then some (c.onBucket (l.get? c.key)).1 else l.get? key :=
  Table.get?_put l c.key key (c.onBucket (l.get? c.key)).1

lemma filter_isCharge (ops : List Operation) :
    ops.filter Operation.isCharge = (ops.filterMap Operation.call?).map .charge := by
  induction ops with
  | nil => rfl
  | cons op ops ih =>
    cases op with
    | charge c =>
      rw [List.filter_cons_of_pos rfl, ih]
      rfl
    | prune now =>
      rw [List.filter_cons_of_neg Bool.false_ne_true, ih]
      rfl

lemma bucketAnswers_of_elapsed {b : Bucket} {c : Call} (h : b.resetAt.millis < c.now.millis)
    (cs : List Call) : bucketAnswers (some b) (c :: cs) = bucketAnswers none (c :: cs) := by
  have heq : c.onBucket (some b) = c.onBucket none := charge_elapsed h
  rw [bucketAnswers, bucketAnswers, heq]

lemma map_snd_bucketAnswers (bucket : Option Bucket) (calls : List Call) :
    (bucketAnswers bucket calls).map Prod.snd = bucketVerdicts bucket calls := by
  induction calls generalizing bucket with
  | nil => rfl
  | cons c cs ih => rw [bucketAnswers, List.map_cons, ih, bucketVerdicts]

/-- A key is answered as its requests are on its bucket alone. -/
theorem filter_answers_of_key (l : Ledger) (key : String) (calls : List Call) :
    (answers l (calls.map .charge)).filter (fun a => a.1.key = key) =
      bucketAnswers (l.get? key) (calls.filter fun c => c.key = key) := by
  induction calls generalizing l with
  | nil => rfl
  | cons c cs ih =>
    rw [List.map_cons, answers]
    by_cases h : c.key = key
    · rw [List.filter_cons_of_pos (by simpa using h), List.filter_cons_of_pos (by simpa using h),
        ih, get?_onLedger, if_pos h, bucketAnswers, onLedger_verdict, h]
    · rw [List.filter_cons_of_neg (by simpa using h), List.filter_cons_of_neg (by simpa using h),
        ih, get?_onLedger, if_neg h]

lemma answers_of_one_key (l : Ledger) {key : String} {calls : List Call}
    (h : ∀ c ∈ calls, c.key = key) :
    answers l (calls.map .charge) = bucketAnswers (l.get? key) calls := by
  induction calls generalizing l with
  | nil => rfl
  | cons c cs ih =>
    have hc := h c List.mem_cons_self
    rw [List.map_cons, answers, ih _ fun c' hc' => h c' (List.mem_cons_of_mem c hc'), get?_onLedger,
      if_pos hc, bucketAnswers, onLedger_verdict, hc]

/-- The requests of one key, taken out of a run, are answered as they are in it. -/
theorem answers_filter_key (l : Ledger) (key : String) (calls : List Call) :
    answers l ((calls.filter fun c => c.key = key).map .charge) =
      (answers l (calls.map .charge)).filter fun a => a.1.key = key := by
  rw [filter_answers_of_key, answers_of_one_key]
  intro c hc
  simpa using (List.mem_filter.1 hc).2

/-- The verdicts of a run to one key are those of its requests on its bucket alone. -/
theorem answers_of_key (l : Ledger) (key : String) (calls : List Call) :
    ((answers l (calls.map .charge)).filter fun a => a.1.key = key).map Prod.snd =
      bucketVerdicts (l.get? key) (calls.filter fun c => c.key = key) := by
  rw [filter_answers_of_key, map_snd_bucketAnswers]

theorem onLedger_of_denied (c : Call) (l : Ledger) (h : (c.onLedger l).2.allowed = false) :
    (c.onLedger l).1 = l := by
  rw [onLedger_verdict] at h
  rcases charge_cases (l.get? c.key) c.window c.limit.toNat c.now with
    hopen | ⟨b, hb, -, -, hdenied⟩ | ⟨b, -, -, -, hcounted⟩
  · rw [Call.onBucket, hopen] at h
    cases h
  · unfold Call.onLedger Ledger.charge
    rw [hdenied]
    exact Table.put_of_get? l hb
  · rw [Call.onBucket, hcounted] at h
    cases h

lemma exists_bucket_of_denied {l : Ledger} {key : String} {window : Int} {limit : Nat}
    {now : Instant} (h : (l.charge key window limit now).2.allowed = false) :
    ∃ b, l.get? key = some b ∧ (l.charge key window limit now).2.resetAt = b.resetAt := by
  have hverdict :
      (l.charge key window limit now).2 = (Bucket.charge (l.get? key) window limit now).2 := rfl
  rw [hverdict] at h ⊢
  rcases charge_cases (l.get? key) window limit now with
    hopen | ⟨b, hb, -, -, hdenied⟩ | ⟨b, -, -, -, hcounted⟩
  · rw [hopen] at h
    cases h
  · exact ⟨b, hb, by rw [hdenied]⟩
  · rw [hcounted] at h
    cases h

/-- The admitted requests of a run alone are answered as they are among the denied ones. -/
theorem answers_of_admitted (l : Ledger) (calls : List Call) :
    answers l (((answers l (calls.map .charge)).filter fun a => a.2.allowed).map
        fun a => .charge a.1) =
      (answers l (calls.map .charge)).filter fun a => a.2.allowed := by
  induction calls generalizing l with
  | nil => rfl
  | cons c cs ih =>
    rw [List.map_cons, answers]
    by_cases h : (c.onLedger l).2.allowed = true
    · rw [List.filter_cons_of_pos (by simpa using h), List.map_cons, answers, ih]
    · rw [List.filter_cons_of_neg (by simpa using h), onLedger_of_denied c l (by simpa using h),
        ih]

end PromptStudio.Proofs
