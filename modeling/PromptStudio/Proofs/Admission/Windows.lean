import PromptStudio.Proofs.Admission.Words

/-!
# The law of fixed windows

The times at which one key asks are cut greedily into windows: a time after the end of a window
opens the next one. Whatever other keys do in between, the `j`th request of a window is admitted
just if `j` is within the limit, and a denied request uses up nothing.
-/

namespace PromptStudio.Proofs
open Admission

/-- Whether a time belongs to the window opened at an instant. The end itself does. -/
def inWindow (window : Int) (opened now : Instant) : Bool :=
  now.millis ≤ (opened.after window).millis

def Call.isIn (window : Int) (opened : Instant) (c : Call) : Bool :=
  inWindow window opened c.now

/-- The greedy cut: the opening time of each window with the later times in it. -/
def cut (window : Int) : List Instant → List (Instant × List Instant)
  | [] => []
  | t :: ts =>
    (t, ts.takeWhile (inWindow window t)) :: cut window (ts.dropWhile (inWindow window t))
termination_by ts => ts.length
decreasing_by
  exact Nat.lt_succ_of_le (List.dropWhile_sublist _).length_le

/-- What the `j`th request of a window is answered. -/
def lawfulVerdict (window : Int) (limit : Nat) (opened : Instant) (j : Nat) : Verdict where
  allowed := j ≤ limit
  remaining := if j ≤ limit then limit - j else 0
  resetAt := opened.after window

/-- The answers in one window, to its opening request and to the later ones. -/
def windowVerdicts (window : Int) (limit : Nat) (w : Instant × List Instant) : List Verdict :=
  (List.range' 1 (w.2.length + 1)).map (lawfulVerdict window limit w.1)

section law

variable {window : Int} {limit : UInt32} {opened : Instant}

/-- The invariant inside a window: after `j` requests the bucket holds the end of the window and
counts the requests admitted, of which there are `min j limit`. -/
def bucketAfter (window : Int) (limit : Nat) (opened : Instant) (j : Nat) : Bucket :=
  ⟨min j limit, opened.after window⟩

lemma charge_first (hlimit : 1 ≤ limit.toNat) :
    openedWindow window limit.toNat opened =
      (bucketAfter window limit.toNat opened 1, lawfulVerdict window limit.toNat opened 1) := by
  simp [openedWindow, bucketAfter, lawfulVerdict, hlimit]

lemma charge_next {j : Nat} {now : Instant} (hin : inWindow window opened now = true) :
    Bucket.charge (some (bucketAfter window limit.toNat opened j)) window limit.toNat now =
      (bucketAfter window limit.toNat opened (j + 1),
        lawfulVerdict window limit.toNat opened (j + 1)) := by
  have hend : ¬ (bucketAfter window limit.toNat opened j).resetAt.millis < now.millis := by
    simp only [inWindow, decide_eq_true_eq] at hin
    simp only [bucketAfter]
    omega
  by_cases hfull : limit.toNat ≤ j
  · have hnot : ¬ j + 1 ≤ limit.toNat := by omega
    have hmin : min j limit.toNat = limit.toNat := Nat.min_eq_right hfull
    have hmin' : min (j + 1) limit.toNat = limit.toNat := Nat.min_eq_right (by omega)
    rw [charge_full hend (by simp only [bucketAfter, hmin]; exact Nat.le_refl _)]
    simp [bucketAfter, lawfulVerdict, hnot, hmin, hmin']
  · have hroom : j + 1 ≤ limit.toNat := by omega
    have hmin : min j limit.toNat = j := Nat.min_eq_left (by omega)
    rw [charge_counted hend (by simp only [bucketAfter, hmin]; omega)]
    simp [bucketAfter, lawfulVerdict, hroom, hmin]

lemma bucketVerdicts_of_elapsed {b : Bucket} {c : Call} {cs : List Call}
    (h : b.resetAt.millis < c.now.millis) :
    bucketVerdicts (some b) (c :: cs) = bucketVerdicts none (c :: cs) := by
  rw [← map_snd_bucketAnswers, ← map_snd_bucketAnswers, bucketAnswers_of_elapsed h]

variable {calls : List Call}

lemma bucketVerdicts_in_window (j : Nat)
    (hcalls : ∀ c ∈ calls, c.window = window ∧ c.limit = limit) :
    bucketVerdicts (some (bucketAfter window limit.toNat opened j)) calls =
      (List.range' (j + 1) (calls.takeWhile (Call.isIn window opened)).length).map
        (lawfulVerdict window limit.toNat opened) ++
      bucketVerdicts none (calls.dropWhile (Call.isIn window opened)) := by
  induction calls generalizing j with
  | nil => rfl
  | cons c cs ih =>
    obtain ⟨hwindow, hlimit⟩ := hcalls c List.mem_cons_self
    have hrest := fun c' hc' => hcalls c' (List.mem_cons_of_mem c hc')
    by_cases hin : c.isIn window opened = true
    · have hstep : c.onBucket (some (bucketAfter window limit.toNat opened j)) =
          (bucketAfter window limit.toNat opened (j + 1),
            lawfulVerdict window limit.toNat opened (j + 1)) := by
        rw [Call.onBucket, hwindow, hlimit]
        exact charge_next hin
      rw [bucketVerdicts, hstep, ih (j + 1) hrest, List.takeWhile_cons_of_pos hin,
        List.dropWhile_cons_of_pos hin, List.length_cons, List.range'_succ, List.map_cons,
        List.cons_append]
    · have hend : (bucketAfter window limit.toNat opened j).resetAt.millis < c.now.millis := by
        simp only [Call.isIn, inWindow, decide_eq_true_eq] at hin
        simp only [bucketAfter]
        omega
      rw [bucketVerdicts_of_elapsed hend, List.takeWhile_cons_of_neg hin,
        List.dropWhile_cons_of_neg hin]
      rfl

/-- Requests on a bucket of their own are answered window by window. -/
theorem bucketVerdicts_eq_cut (hpos : 1 ≤ limit.toNat)
    (hcalls : ∀ c ∈ calls, c.window = window ∧ c.limit = limit) :
    bucketVerdicts none calls =
      (cut window (calls.map Call.now)).flatMap (windowVerdicts window limit.toNat) := by
  induction h : calls.length using Nat.strongRecOn generalizing calls with
  | _ n ih =>
    cases calls with
    | nil => simp [bucketVerdicts, cut]
    | cons c cs =>
      obtain ⟨hwindow, hlimit⟩ := hcalls c List.mem_cons_self
      have hrest := fun c' hc' => hcalls c' (List.mem_cons_of_mem c hc')
      have hstep : c.onBucket none =
          (bucketAfter window limit.toNat c.now 1, lawfulVerdict window limit.toNat c.now 1) := by
        rw [Call.onBucket, hwindow, hlimit]
        exact charge_first hpos
      have hsub := List.dropWhile_sublist (l := cs) (Call.isIn window c.now)
      have hlater := ih _ (by rw [← h]; exact Nat.lt_succ_of_le hsub.length_le)
        (fun c' hc' => hrest c' (hsub.subset hc')) rfl
      have htake : (cs.map Call.now).takeWhile (inWindow window c.now) =
          (cs.takeWhile (Call.isIn window c.now)).map Call.now := List.takeWhile_map
      have hdrop : (cs.map Call.now).dropWhile (inWindow window c.now) =
          (cs.dropWhile (Call.isIn window c.now)).map Call.now := List.dropWhile_map
      rw [bucketVerdicts, hstep, bucketVerdicts_in_window 1 hrest, hlater, List.map_cons, cut,
        List.flatMap_cons, windowVerdicts, htake, hdrop, List.length_map, List.range'_succ,
        List.map_cons, List.cons_append]

end law

/-- The law of fixed windows. In a run of any keys, the verdicts to a key that always asks with
one window and one limit are those of the greedy cut of its times. The denied requests of the
run use up nothing: without them the others are answered the same. On a machine no sum and no
difference of counts overflows on the way. -/
theorem verdicts_follow_windows (calls : List Call) (key : String) (window : Int) (limit : UInt32)
    (hlimit : 1 ≤ limit.toNat)
    (hkey : ∀ c ∈ calls, c.key = key → c.window = window ∧ c.limit = limit) :
    ((answers .empty (calls.map .charge)).filter fun a => a.1.key = key).map Prod.snd =
      (cut window ((calls.filter fun c => c.key = key).map Call.now)).flatMap
        (windowVerdicts window limit.toNat) ∧
    answers .empty (((answers .empty (calls.map .charge)).filter fun a => a.2.allowed).map
        fun a => .charge a.1) =
      (answers .empty (calls.map .charge)).filter (fun a => a.2.allowed) ∧
    (wordVerdicts? .empty calls).map (·.map WordVerdict.toVerdict) =
      some ((answers .empty (calls.map .charge)).map Prod.snd) := by
  refine ⟨?_, answers_of_admitted .empty calls, wordVerdicts?_eq standsFor_empty calls⟩
  rw [answers_of_key, Table.get?_empty]
  apply bucketVerdicts_eq_cut hlimit
  intro c hc
  rw [List.mem_filter] at hc
  exact hkey c hc.1 (by simpa using hc.2)

/-- Two requests a window, at a clock that steps back and between requests of another key. -/
theorem verdicts_follow_windows_at_two :
    let calls : List Call := [⟨"k", 60, 2, ⟨0⟩⟩, ⟨"l", 5, 1, ⟨3⟩⟩, ⟨"k", 60, 2, ⟨60⟩⟩,
      ⟨"l", 7, 0, ⟨4⟩⟩, ⟨"k", 60, 2, ⟨-5⟩⟩, ⟨"k", 60, 2, ⟨61⟩⟩]
    (1 ≤ (2 : UInt32).toNat ∧ ∀ c ∈ calls, c.key = "k" → c.window = 60 ∧ c.limit = 2) ∧
    ((answers .empty (calls.map .charge)).filter fun a => a.1.key = "k").map Prod.snd =
      [⟨true, 1, ⟨60⟩⟩, ⟨true, 0, ⟨60⟩⟩, ⟨false, 0, ⟨60⟩⟩, ⟨true, 1, ⟨121⟩⟩] := by
  intro calls
  have hkey : ∀ c ∈ calls, c.key = "k" → c.window = 60 ∧ c.limit = 2 := by
    simp [calls]
  refine ⟨⟨by decide, hkey⟩, ?_⟩
  have hlaw := (verdicts_follow_windows calls "k" 60 2 (by decide) hkey).1
  rw [hlaw]
  simp [calls, cut, inWindow, Instant.after, windowVerdicts, lawfulVerdict, List.range'_succ]

end PromptStudio.Proofs
