import PromptStudio.Proofs.Admission.Run

/-!
# Counting in words of 32 bits

A ledger on a machine keeps its counts in words. A bucket is made with count 0 for the request
that needs it, and sums and differences of counts are checked. The checks never fail, and the
verdicts are those of the ledger.
-/

namespace PromptStudio.Proofs
open Admission

/-- A bucket on a machine. Count 0 marks a bucket made for the request at hand. -/
structure WordBucket where
  count : UInt32
  resetAt : Instant

structure WordVerdict where
  allowed : Bool
  remaining : UInt32
  resetAt : Instant

def add32? (a b : UInt32) : Option UInt32 :=
  if a.toNat + b.toNat < UInt32.size then some (a + b) else none

def sub32? (a b : UInt32) : Option UInt32 :=
  if b.toNat ≤ a.toNat then some (a - b) else none

def WordBucket.charge? (b : WordBucket) (c : Call) : Option (WordBucket × WordVerdict) :=
  if b.count = 0 ∨ b.resetAt.millis < c.now.millis then
    let remaining := if c.limit = 0 then 0 else c.limit - 1
    some (⟨1, c.now.after c.window⟩, ⟨true, remaining, c.now.after c.window⟩)
  else if c.limit ≤ b.count then some (b, ⟨false, 0, b.resetAt⟩)
  else
    match add32? b.count 1 with
    | none => none
    | some count =>
      match sub32? c.limit count with
      | none => none
      | some remaining => some (⟨count, b.resetAt⟩, ⟨true, remaining, b.resetAt⟩)

abbrev WordLedger : Type := Table String WordBucket

/-- The verdicts on a machine; none if a sum or a difference overflows on the way. -/
def wordVerdicts? (w : WordLedger) : List Call → Option (List WordVerdict)
  | [] => some []
  | c :: cs =>
    match ((w.get? c.key).getD ⟨0, c.now⟩).charge? c with
    | none => none
    | some (b, v) => (wordVerdicts? (w.put c.key b) cs).map (v :: ·)

def WordBucket.toBucket (b : WordBucket) : Bucket := ⟨b.count.toNat, b.resetAt⟩

def WordVerdict.toVerdict (v : WordVerdict) : Verdict := ⟨v.allowed, v.remaining.toNat, v.resetAt⟩

lemma charge?_opened {b : WordBucket} {c : Call}
    (h : b.count = 0 ∨ b.resetAt.millis < c.now.millis) :
    ∃ b' v, b.charge? c = some (b', v) ∧ b'.count ≠ 0 ∧
      (b'.toBucket, v.toVerdict) = openedWindow c.window c.limit.toNat c.now := by
  have hone : (1 : UInt32) ≠ 0 := by decide
  refine ⟨_, _, if_pos h, hone, ?_⟩
  by_cases hlimit : c.limit = 0
  · simp [WordBucket.toBucket, WordVerdict.toVerdict, openedWindow, hlimit]
  · have hpos : 1 ≤ c.limit.toNat := by
      have hne : c.limit.toNat ≠ 0 := fun h => hlimit (UInt32.toNat_inj.1 h)
      omega
    have hsub : (c.limit - 1).toNat = c.limit.toNat - 1 :=
      UInt32.toNat_sub_of_le _ _ (UInt32.le_iff_toNat_le.2 hpos)
    simp [WordBucket.toBucket, WordVerdict.toVerdict, openedWindow, hlimit, hsub]

lemma charge?_counted {b : WordBucket} {c : Call} (hcount : b.count ≠ 0)
    (h : ¬ b.resetAt.millis < c.now.millis) (hroom : ¬ c.limit ≤ b.count) :
    ∃ b' v, b.charge? c = some (b', v) ∧ b'.count ≠ 0 ∧
      (b'.toBucket, v.toVerdict) = (⟨b.count.toNat + 1, b.resetAt⟩,
        ⟨true, c.limit.toNat - (b.count.toNat + 1), b.resetAt⟩) := by
  have hlt : b.count.toNat + 1 ≤ c.limit.toNat := by
    rw [UInt32.le_iff_toNat_le] at hroom
    omega
  have hsize : b.count.toNat + 1 < UInt32.size :=
    Nat.lt_of_le_of_lt hlt c.limit.toNat_lt_size
  have hadd : (b.count + 1).toNat = b.count.toNat + 1 := by
    rw [UInt32.toNat_add]
    exact Nat.mod_eq_of_lt hsize
  have hsub : (c.limit - (b.count + 1)).toNat = c.limit.toNat - (b.count.toNat + 1) := by
    rw [UInt32.toNat_sub_of_le _ _ (UInt32.le_iff_toNat_le.2 (by rw [hadd]; exact hlt)), hadd]
  refine ⟨⟨b.count + 1, b.resetAt⟩, ⟨true, c.limit - (b.count + 1), b.resetAt⟩, ?_, ?_, ?_⟩
  · have hopen : ¬ (b.count = 0 ∨ b.resetAt.millis < c.now.millis) := not_or.2 ⟨hcount, h⟩
    have hsum : add32? b.count 1 = some (b.count + 1) := if_pos hsize
    have hdiff : sub32? c.limit (b.count + 1) = some (c.limit - (b.count + 1)) := by
      rw [sub32?, hadd, if_pos hlt]
    rw [WordBucket.charge?, if_neg hopen, if_neg hroom, hsum]
    dsimp only
    rw [hdiff]
  · intro hzero
    have hnat := congrArg UInt32.toNat hzero
    rw [hadd] at hnat
    simp at hnat
  · simp only [WordBucket.toBucket, WordVerdict.toVerdict, hadd, hsub]

/-- One request on a machine: nothing overflows, and it does what it does to the ledger. -/
lemma charge?_eq (slot : Option WordBucket) (c : Call)
    (hslot : ∀ b, slot = some b → b.count ≠ 0) :
    ∃ b v, (slot.getD ⟨0, c.now⟩).charge? c = some (b, v) ∧ b.count ≠ 0 ∧
      (b.toBucket, v.toVerdict) = c.onBucket (slot.map WordBucket.toBucket) := by
  cases slot with
  | none => exact charge?_opened (Or.inl rfl)
  | some b =>
    have hcount := hslot b rfl
    by_cases h : b.resetAt.millis < c.now.millis
    · rw [Option.map_some, Call.onBucket, charge_elapsed (b := b.toBucket) h]
      exact charge?_opened (Or.inr h)
    · by_cases hfull : c.limit ≤ b.count
      · refine ⟨b, ⟨false, 0, b.resetAt⟩, ?_, hcount, ?_⟩
        · have hopen : ¬ (b.count = 0 ∨ b.resetAt.millis < c.now.millis) := not_or.2 ⟨hcount, h⟩
          rw [Option.getD_some, WordBucket.charge?, if_neg hopen, if_pos hfull]
        · rw [Option.map_some, Call.onBucket,
            charge_full (b := b.toBucket) h (UInt32.le_iff_toNat_le.1 hfull)]
          rfl
      · have hroom : b.toBucket.count < c.limit.toNat := by
          rw [UInt32.le_iff_toNat_le] at hfull
          exact Nat.not_le.1 hfull
        rw [Option.map_some, Call.onBucket, charge_counted (b := b.toBucket) h hroom]
        exact charge?_counted hcount h hfull

/-- The ledger that a machine's ledger stands for. No bucket in it has count 0. -/
def WordLedger.StandsFor (w : WordLedger) (l : Ledger) : Prop :=
  ∀ key, l.get? key = (w.get? key).map WordBucket.toBucket ∧
    ∀ b, w.get? key = some b → b.count ≠ 0

lemma standsFor_put {w : WordLedger} {l : Ledger} (h : w.StandsFor l) (key : String)
    {b : WordBucket} (hb : b.count ≠ 0) :
    WordLedger.StandsFor (w.put key b) (l.put key b.toBucket) := by
  intro key'
  rw [Table.get?_put, Table.get?_put]
  by_cases hkey : key = key'
  · rw [if_pos hkey, if_pos hkey]
    refine ⟨rfl, ?_⟩
    intro b' hb'
    cases hb'
    exact hb
  · rw [if_neg hkey, if_neg hkey]
    exact h key'

/-- A run on a machine never overflows, and its verdicts are those of the ledger. -/
theorem wordVerdicts?_eq {w : WordLedger} {l : Ledger} (h : w.StandsFor l) (calls : List Call) :
    (wordVerdicts? w calls).map (·.map WordVerdict.toVerdict) =
      some ((answers l (calls.map .charge)).map Prod.snd) := by
  induction calls generalizing w l with
  | nil => rfl
  | cons c cs ih =>
    obtain ⟨hget, hcount⟩ := h c.key
    obtain ⟨b, v, hcharge, hb, heq⟩ := charge?_eq (w.get? c.key) c hcount
    rw [← hget] at heq
    have hbucket : (c.onLedger l).1 = l.put c.key b.toBucket :=
      congrArg (fun r : Bucket × Verdict => l.put c.key r.1) heq.symm
    have hverdict : (c.onLedger l).2 = v.toVerdict := congrArg Prod.snd heq.symm
    have hrest := ih (standsFor_put h c.key hb)
    rw [List.map_cons, answers, List.map_cons, hbucket, hverdict, wordVerdicts?, hcharge]
    obtain ⟨vs, hvs, hmap⟩ := Option.map_eq_some_iff.1 hrest
    simp only [hvs, Option.map_some, List.map_cons, hmap]

lemma standsFor_empty : WordLedger.StandsFor .empty .empty := by
  intro key
  exact ⟨rfl, fun b hb => by cases hb⟩

end PromptStudio.Proofs
