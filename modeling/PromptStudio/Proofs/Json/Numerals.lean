import PromptStudio.Json.Printer
import PromptStudio.Json.Token
import PromptStudio.Proofs.Binary64.ReadBack

/-!
# Numbers and their numerals

The numeral of a number, scanned from between two words, is complete and stands for that number.
-/

namespace PromptStudio.Proofs
open Json

/-! ## Digits one after another -/

lemma digit?_eq {c : Char} (h : c.isDigit = true) : digit? c = some (c.toNat - '0'.toNat) := by
  unfold digit?
  rw [Char.isDigit, Bool.and_eq_true, decide_eq_true_eq, decide_eq_true_eq] at h
  exact if_pos ⟨h.1, h.2⟩

section Digits

variable {cs : List Char} (hd : ∀ c ∈ cs, c.isDigit = true) (done : List Token) (negative : Bool)
include hd

lemma foldl_whole (coefficient : Nat) :
    cs.foldl Scan.step ⟨done, .numeral ⟨.whole, negative, coefficient, 0, false, 0⟩⟩ =
      ⟨done, .numeral ⟨.whole, negative, Nat.ofDigitChars 10 cs coefficient, 0, false, 0⟩⟩ := by
  induction cs generalizing coefficient with
  | nil => rfl
  | cons c cs ih =>
    have hc := digit?_eq (hd c List.mem_cons_self)
    rw [List.foldl_cons, Nat.ofDigitChars_cons, Nat.mul_comm 10,
      ← ih (fun d hmem => hd d (List.mem_cons_of_mem c hmem))]
    simp only [Scan.step, Spelling.next, hc]

lemma foldl_fraction (coefficient places : Nat) :
    cs.foldl Scan.step ⟨done, .numeral ⟨.fraction, negative, coefficient, places, false, 0⟩⟩ =
      ⟨done, .numeral ⟨.fraction, negative, Nat.ofDigitChars 10 cs coefficient,
        places + cs.length, false, 0⟩⟩ := by
  induction cs generalizing coefficient places with
  | nil => rfl
  | cons c cs ih =>
    have hc := digit?_eq (hd c List.mem_cons_self)
    rw [List.foldl_cons, Nat.ofDigitChars_cons, Nat.mul_comm 10, List.length_cons,
      Nat.add_comm cs.length 1, ← Nat.add_assoc,
      ← ih (fun d hmem => hd d (List.mem_cons_of_mem c hmem))]
    simp only [Scan.step, Spelling.next, hc]

lemma foldl_power (coefficient places : Nat) (powerNegative : Bool) (power : Nat) :
    cs.foldl Scan.step
        ⟨done, .numeral ⟨.power, negative, coefficient, places, powerNegative, power⟩⟩ =
      ⟨done, .numeral ⟨.power, negative, coefficient, places, powerNegative,
        Nat.ofDigitChars 10 cs power⟩⟩ := by
  induction cs generalizing power with
  | nil => rfl
  | cons c cs ih =>
    have hc := digit?_eq (hd c List.mem_cons_self)
    rw [List.foldl_cons, Nat.ofDigitChars_cons, Nat.mul_comm 10,
      ← ih (fun d hmem => hd d (List.mem_cons_of_mem c hmem))]
    simp only [Scan.step, Spelling.next, hc]

end Digits

/-! ## The parts of a numeral -/

/-- The digits before the point: no zero leads them, unless it is alone. -/
structure WholePart (cs : List Char) : Prop where
  digits : ∀ c ∈ cs, c.isDigit = true
  ne_nil : cs ≠ []
  head : cs.head? = some '0' → cs = ['0']

lemma wholePart_digit {c : Char} (h : c.isDigit = true) : WholePart [c] := by
  constructor
  · intro d hd
    rw [List.mem_singleton.1 hd]
    exact h
  · simp
  · intro hhead
    exact congrArg (fun d => [d]) (Option.some.inj hhead)

lemma wholePart_toDigits (n : Nat) : WholePart (Nat.toDigits 10 n) := by
  refine ⟨fun c hc => isDigit_of_mem_digits hc, Nat.toDigits_ne_nil, ?_⟩
  intro hhead
  by_cases hn : 0 < n
  · exact absurd hhead (head_toDigits hn)
  · rw [Nat.eq_zero_of_not_pos hn, Nat.toDigits_zero]

/-- The minus sign of a negative number. -/
def signChars (negative : Bool) : List Char :=
  if negative then ['-'] else []

lemma begin_digit {c : Char} (h : c.isDigit = true) (s : Scan) :
    s.begin c = ⟨s.done, .numeral
      ⟨if c.toNat - '0'.toNat = 0 then .zero else .whole, false, c.toNat - '0'.toNat, 0, false, 0⟩⟩ := by
  have hc := digit?_eq h
  have hminus : c ≠ '-' := by
    rintro rfl
    exact absurd h (by decide)
  have hstart : Spelling.start? c = some
      ⟨if c.toNat - '0'.toNat = 0 then .zero else .whole, false, c.toNat - '0'.toNat, 0, false, 0⟩ := by
    unfold Spelling.start?
    rw [if_neg hminus, hc]
  unfold Scan.begin
  split
  all_goals first
    | exact absurd h (by decide)
    | rw [hstart]

lemma foldl_first {c : Char} (h : c.isDigit = true) (done : List Token) (negative : Bool) :
    (signChars negative ++ [c]).foldl Scan.step ⟨done, .idle⟩ =
      ⟨done, .numeral ⟨if c.toNat - '0'.toNat = 0 then .zero else .whole, negative,
        c.toNat - '0'.toNat, 0, false, 0⟩⟩ := by
  cases negative with
  | false => exact begin_digit h ⟨done, .idle⟩
  | true =>
    have hdigit := digit?_eq h
    have hsign : Scan.begin ⟨done, .idle⟩ '-' =
      ⟨done, .numeral ⟨.sign, true, 0, 0, false, 0⟩⟩ := rfl
    simp only [signChars, if_true, List.cons_append, List.nil_append, List.foldl_cons,
      List.foldl_nil, Scan.step, hsign, Spelling.next, hdigit]

lemma digit_value_ne_zero {c : Char} (h : c.isDigit = true) (hne : c ≠ '0') :
    c.toNat - '0'.toNat ≠ 0 := by
  intro hzero
  have hlow := (Char.isDigit_iff_toNat.1 h).1
  exact hne (Char.toNat_inj.1 (Nat.le_antisymm (Nat.sub_eq_zero_iff_le.1 hzero) hlow))

lemma foldl_wholePart {cs : List Char} (h : WholePart cs) (done : List Token) (negative : Bool) :
    (signChars negative ++ cs).foldl Scan.step ⟨done, .idle⟩ =
      ⟨done, .numeral ⟨if cs = ['0'] then .zero else .whole, negative,
        Nat.ofDigitChars 10 cs 0, 0, false, 0⟩⟩ := by
  obtain ⟨hd, hne, hhead⟩ := h
  obtain ⟨c, cs, rfl⟩ := List.exists_cons_of_ne_nil hne
  have hc := hd c List.mem_cons_self
  rw [← List.singleton_append, ← List.append_assoc, List.foldl_append, foldl_first hc,
    Nat.ofDigitChars_append, Nat.ofDigitChars_cons, Nat.ofDigitChars_nil, Nat.mul_zero,
    Nat.zero_add, List.singleton_append]
  by_cases hzero : c = '0'
  · subst hzero
    have hnil : cs = [] := (List.cons.inj (hhead rfl)).2
    subst hnil
    rfl
  · have hlist : ¬ c :: cs = ['0'] := by
      intro heq
      exact hzero (List.cons.inj heq).1
    rw [if_neg (digit_value_ne_zero hc hzero), if_neg hlist]
    exact foldl_whole (fun d hmem => hd d (List.mem_cons_of_mem c hmem)) done negative _

lemma foldl_point {w f : List Char} (hw : WholePart w) (hf : ∀ c ∈ f, c.isDigit = true)
    (hne : f ≠ []) (done : List Token) (negative : Bool) :
    (signChars negative ++ w ++ '.' :: f).foldl Scan.step ⟨done, .idle⟩ =
      ⟨done, .numeral ⟨.fraction, negative, Nat.ofDigitChars 10 (w ++ f) 0, f.length, false, 0⟩⟩ := by
  have hpoint (stage : Stage) (hstage : stage = .zero ∨ stage = .whole) (coefficient : Nat) :
      Scan.step ⟨done, .numeral ⟨stage, negative, coefficient, 0, false, 0⟩⟩ '.' =
        ⟨done, .numeral ⟨.point, negative, coefficient, 0, false, 0⟩⟩ := by
    rcases hstage with rfl | rfl
    · rfl
    · rfl
  have hstage : (if w = ['0'] then Stage.zero else .whole) = .zero ∨
      (if w = ['0'] then Stage.zero else .whole) = .whole := by
    split
    · exact Or.inl rfl
    · exact Or.inr rfl
  rw [List.foldl_append, foldl_wholePart hw, List.foldl_cons, hpoint _ hstage,
    Nat.ofDigitChars_append]
  cases f with
  | nil => exact absurd rfl hne
  | cons c cs =>
    have hc := digit?_eq (hf c List.mem_cons_self)
    rw [List.foldl_cons, Nat.ofDigitChars_cons, Nat.mul_comm 10, List.length_cons,
      Nat.add_comm cs.length 1,
      ← foldl_fraction (fun d hmem => hf d (List.mem_cons_of_mem c hmem))]
    simp only [Scan.step, Spelling.next, hc, Nat.zero_add]

lemma foldl_exponent {stage : Stage} (hstage : stage = .whole ∨ stage = .fraction)
    (done : List Token) (negative : Bool) (coefficient places : Nat) (power : Int) :
    ('e' :: (if power < 0 then '-' else '+') :: Nat.toDigits 10 power.natAbs).foldl Scan.step
        ⟨done, .numeral ⟨stage, negative, coefficient, places, false, 0⟩⟩ =
      ⟨done, .numeral ⟨.power, negative, coefficient, places, decide (power < 0),
        power.natAbs⟩⟩ := by
  have hmark : Scan.step ⟨done, .numeral ⟨stage, negative, coefficient, places, false, 0⟩⟩ 'e' =
      ⟨done, .numeral ⟨.mark, negative, coefficient, places, false, 0⟩⟩ := by
    rcases hstage with rfl | rfl
    · rfl
    · rfl
  have hsign : Scan.step ⟨done, .numeral ⟨.mark, negative, coefficient, places, false, 0⟩⟩
        (if power < 0 then '-' else '+') =
      ⟨done, .numeral ⟨.markSign, negative, coefficient, places, decide (power < 0), 0⟩⟩ := by
    by_cases hneg : power < 0
    · rw [if_pos hneg, decide_eq_true hneg]
      rfl
    · rw [if_neg hneg, decide_eq_false hneg]
      rfl
  rw [List.foldl_cons, hmark, List.foldl_cons, hsign]
  have hdigits (c : Char) (hc : c ∈ Nat.toDigits 10 power.natAbs) : c.isDigit = true :=
    isDigit_of_mem_digits hc
  have hvalue : Nat.ofDigitChars 10 (Nat.toDigits 10 power.natAbs) 0 = power.natAbs :=
    Nat.ofDigitChars_ten_toDigits
  cases hcs : Nat.toDigits 10 power.natAbs with
  | nil => exact absurd hcs Nat.toDigits_ne_nil
  | cons c cs =>
    rw [hcs] at hdigits hvalue
    have hc := digit?_eq (hdigits c List.mem_cons_self)
    rw [Nat.ofDigitChars_cons, Nat.mul_comm 10] at hvalue
    have hrest := foldl_power (fun d hmem => hdigits d (List.mem_cons_of_mem c hmem)) done negative
      coefficient places (decide (power < 0)) (0 * 10 + (c.toNat - '0'.toNat))
    rw [hvalue] at hrest
    rw [List.foldl_cons, ← hrest]
    simp only [Scan.step, Spelling.next, hc]

/-! ## Numerals of doubles -/

/-- Scanned between two words, the characters are a complete numeral of the number. -/
def ScannedAs (cs : List Char) (n : Number) : Prop :=
  ∀ done, ∃ s : Spelling, cs.foldl Scan.step ⟨done, .idle⟩ = ⟨done, .numeral s⟩ ∧
    s.stage.isComplete = true ∧ s.number? = some n

lemma number?_fraction {negative : Bool} {coefficient places : Nat} {x : Binary64}
    (h : Binary64.ofDecimal? negative coefficient (0 - (places : Int)) = some x) :
    Spelling.number? ⟨.fraction, negative, coefficient, places, false, 0⟩ = some (.real x) := by
  unfold Spelling.number?
  exact congrArg (Option.map Number.real) h

lemma number?_power {negative : Bool} {coefficient places : Nat} {power : Int} {x : Binary64}
    (h : Binary64.ofDecimal? negative coefficient (power - places) = some x) :
    Spelling.number? ⟨.power, negative, coefficient, places, decide (power < 0), power.natAbs⟩ =
      some (.real x) := by
  have hpower : (if decide (power < 0) then -(power.natAbs : Int) else power.natAbs) = power := by
    by_cases hneg : power < 0
    · rw [decide_eq_true hneg, if_pos rfl]
      omega
    · rw [decide_eq_false hneg, if_neg (by decide)]
      omega
  unfold Spelling.number?
  dsimp only
  rw [hpower, h]
  rfl

lemma scannedAs_point {negative : Bool} {w f : List Char} {x : Binary64} (hw : WholePart w)
    (hf : ∀ c ∈ f, c.isDigit = true) (hne : f ≠ [])
    (h : Binary64.ofDecimal? negative (Nat.ofDigitChars 10 (w ++ f) 0) (0 - (f.length : Int)) =
      some x) :
    ScannedAs (signChars negative ++ w ++ '.' :: f) (.real x) := by
  intro done
  exact ⟨_, foldl_point hw hf hne done negative, rfl, number?_fraction h⟩

lemma isDigit_of_mem_zeros {n : Nat} {c : Char} (h : c ∈ List.replicate n '0') :
    c.isDigit = true := by
  rw [List.eq_of_mem_replicate h]
  decide

lemma scannedAs_zeros_before {negative : Bool} {d : Binary64.Decimal} {x : Binary64}
    (hread : Binary64.ofDecimal? negative d.coefficient d.exponent = some x) {n : Nat}
    (hn : (n + (Nat.toDigits 10 d.coefficient).length : Nat) = -d.exponent) :
    ScannedAs (signChars negative ++ ['0'] ++
      '.' :: (List.replicate n '0' ++ Nat.toDigits 10 d.coefficient)) (.real x) := by
  apply scannedAs_point (wholePart_digit (by decide))
  · intro c hmem
    rcases List.mem_append.1 hmem with hmem | hmem
    · exact isDigit_of_mem_zeros hmem
    · exact isDigit_of_mem_digits hmem
  · exact List.append_ne_nil_of_right_ne_nil _ Nat.toDigits_ne_nil
  · have hplace : 0 - ((n + (Nat.toDigits 10 d.coefficient).length : Nat) : Int) = d.exponent := by
      omega
    have hzero : Nat.ofDigitChars 10 ['0'] 0 = 0 := rfl
    rw [List.length_append, List.length_replicate, hplace, Nat.ofDigitChars_append,
      Nat.ofDigitChars_append, hzero, Nat.ofDigitChars_replicate_zero, Nat.mul_zero,
      Nat.ofDigitChars_ten_toDigits]
    exact hread

section Decimal

variable {negative : Bool} {d : Binary64.Decimal} {x : Binary64} (hc : d.coefficient ≠ 0)
  (hread : Binary64.ofDecimal? negative d.coefficient d.exponent = some x)
include hc hread

lemma scannedAs_zeros_after (he : 0 ≤ d.exponent) :
    ScannedAs (signChars negative ++
      (Nat.toDigits 10 d.coefficient ++ List.replicate d.exponent.toNat '0') ++ '.' :: ['0'])
      (.real x) := by
  apply scannedAs_point
  · refine ⟨?_, List.append_ne_nil_of_left_ne_nil Nat.toDigits_ne_nil _, ?_⟩
    · intro c hmem
      rcases List.mem_append.1 hmem with hmem | hmem
      · exact isDigit_of_mem_digits hmem
      · exact isDigit_of_mem_zeros hmem
    · intro hzero
      rw [List.head?_append, Option.or_of_isSome (List.isSome_head?.2 Nat.toDigits_ne_nil)] at hzero
      exact absurd hzero (head_toDigits (Nat.pos_of_ne_zero hc))
  · exact fun c hmem => isDigit_of_mem_zeros (n := 1) hmem
  · simp
  · have hcoefficient : Nat.ofDigitChars 10 (Nat.toDigits 10 d.coefficient ++
        List.replicate d.exponent.toNat '0' ++ ['0']) 0 =
        d.coefficient * 10 ^ (d.exponent.toNat + 1) := by
      rw [List.append_assoc, ← List.replicate_succ', Nat.ofDigitChars_append,
        Nat.ofDigitChars_ten_toDigits, Nat.ofDigitChars_replicate_zero, Nat.mul_comm]
    have hplace : 0 - ((['0'].length : Nat) : Int) =
        d.exponent - ((d.exponent.toNat + 1 : Nat) : Int) := by
      rw [List.length_singleton]
      omega
    rw [hcoefficient, hplace, ofDecimal?_mul_pow]
    exact hread

lemma scannedAs_point_among (he : d.exponent < 0) {k : Nat} (hpos : 0 < k)
    (hk : k + (-d.exponent).toNat = (Nat.toDigits 10 d.coefficient).length) :
    (Nat.toDigits 10 d.coefficient).drop k ≠ [] ∧
    ScannedAs (signChars negative ++ (Nat.toDigits 10 d.coefficient).take k ++
      '.' :: (Nat.toDigits 10 d.coefficient).drop k) (.real x) := by
  have hlength : ((Nat.toDigits 10 d.coefficient).drop k).length = (-d.exponent).toNat := by
    rw [List.length_drop]
    omega
  have hne : (Nat.toDigits 10 d.coefficient).drop k ≠ [] := by
    intro hnil
    rw [hnil, List.length_nil] at hlength
    omega
  refine ⟨hne, scannedAs_point ?_ ?_ hne ?_⟩
  · refine ⟨fun c hmem => isDigit_of_mem_digits (List.mem_of_mem_take hmem), ?_, ?_⟩
    · intro hnil
      rcases List.take_eq_nil_iff.1 hnil with hzero | hzero
      · omega
      · exact Nat.toDigits_ne_nil hzero
    · intro hzero
      rw [List.head?_take, if_neg (by omega)] at hzero
      exact absurd hzero (head_toDigits (Nat.pos_of_ne_zero hc))
  · exact fun c hmem => isDigit_of_mem_digits (List.mem_of_mem_drop hmem)
  · have hplace : 0 - (((-d.exponent).toNat : Nat) : Int) = d.exponent := by omega
    rw [List.take_append_drop, Nat.ofDigitChars_ten_toDigits, hlength, hplace]
    exact hread

/-- A decimal written with a point, wherever that stands. -/
lemma scannedAs_parts {whole fraction : List Char} (hparts : d.parts = (whole, fraction)) :
    ScannedAs (signChars negative ++ whole ++
      '.' :: (if fraction = [] then ['0'] else fraction)) (.real x) := by
  unfold Binary64.Decimal.parts at hparts
  dsimp only at hparts
  by_cases he : 0 ≤ d.exponent
  · rw [if_pos he] at hparts
    cases hparts
    rw [if_pos rfl]
    exact scannedAs_zeros_after hc hread he
  · rw [if_neg he] at hparts
    by_cases hplaces : (-d.exponent).toNat < (Nat.toDigits 10 d.coefficient).length
    · rw [if_pos hplaces, List.splitAt_eq] at hparts
      cases hparts
      obtain ⟨hne, hscanned⟩ := scannedAs_point_among hc hread (Int.not_le.1 he)
        (Nat.sub_pos_of_lt hplaces) (Nat.sub_add_cancel hplaces.le)
      rw [if_neg hne]
      exact hscanned
    · rw [if_neg hplaces] at hparts
      cases hparts
      rw [if_neg (List.append_ne_nil_of_right_ne_nil _ Nat.toDigits_ne_nil)]
      exact scannedAs_zeros_before hread (by omega)

lemma scannedAs_exponent {power : Int}
    (hpower : power = d.exponent + (Nat.toDigits 10 d.coefficient).length - 1) :
    ScannedAs (signChars negative ++ (Nat.toDigits 10 d.coefficient).take 1 ++
      (if (Nat.toDigits 10 d.coefficient).drop 1 = [] then []
        else '.' :: (Nat.toDigits 10 d.coefficient).drop 1) ++
      'e' :: (if power < 0 then '-' else '+') :: Nat.toDigits 10 power.natAbs) (.real x) := by
  have hhead := head_toDigits (Nat.pos_of_ne_zero hc)
  have hdigits (c : Char) (hmem : c ∈ Nat.toDigits 10 d.coefficient) : c.isDigit = true :=
    isDigit_of_mem_digits hmem
  have hvalue : Nat.ofDigitChars 10 (Nat.toDigits 10 d.coefficient) 0 = d.coefficient :=
    Nat.ofDigitChars_ten_toDigits
  intro done
  cases hcs : Nat.toDigits 10 d.coefficient with
  | nil => exact absurd hcs Nat.toDigits_ne_nil
  | cons c rest =>
    rw [hcs] at hhead hdigits hvalue hpower
    have htake : (c :: rest).take 1 = [c] := rfl
    have hdrop : (c :: rest).drop 1 = rest := rfl
    rw [htake, hdrop]
    have hfirst : ['0'] ≠ [c] := by
      intro heq
      exact hhead (congrArg List.head? heq).symm
    have hwhole : WholePart [c] := wholePart_digit (hdigits c List.mem_cons_self)
    by_cases hrest : rest = []
    · subst hrest
      rw [if_pos rfl, List.append_nil, List.foldl_append, foldl_wholePart hwhole,
        if_neg hfirst.symm, foldl_exponent (Or.inl rfl)]
      have hplace : power - ((0 : Nat) : Int) = d.exponent := by
        rw [hpower, List.length_singleton]
        omega
      refine ⟨_, rfl, rfl, number?_power ?_⟩
      rw [hvalue, hplace]
      exact hread
    · rw [if_neg hrest, List.foldl_append, foldl_point hwhole _ hrest, foldl_exponent (Or.inr rfl)]
      · have hplace : power - (rest.length : Int) = d.exponent := by
          rw [hpower, List.length_cons]
          omega
        refine ⟨_, rfl, rfl, number?_power ?_⟩
        rw [List.singleton_append, hvalue, hplace]
        exact hread
      · exact fun e hmem => hdigits e (List.mem_cons_of_mem c hmem)

end Decimal

lemma scannedAs_jsonChars (x : Binary64) : ScannedAs x.jsonChars (.real x) := by
  by_cases hzero : x.rank = 0
  · have hchars : x.jsonChars = signChars x.negative ++ ['0'] ++ '.' :: ['0'] := by
      unfold Binary64.jsonChars
      generalize Binary64.shortest .even x.rank = d
      dsimp -iota only
      rw [if_pos hzero, List.append_assoc]
      rfl
    have hx : x = ⟨x.negative, 0, by decide⟩ := by
      cases x
      cases hzero
      rfl
    rw [hchars]
    apply scannedAs_point (wholePart_digit (by decide)) (fun c => isDigit_of_mem_zeros (n := 1))
      (by simp)
    rw [hx]
    exact ofDecimal?_zero x.negative _
  · have hread := ofDecimal?_shortest x.negative .even (Nat.pos_of_ne_zero hzero) x.rank_lt
    have hne := shortest_ne_zero .even (Nat.pos_of_ne_zero hzero) x.rank_lt
    unfold Binary64.jsonChars
    generalize Binary64.shortest .even x.rank = d at hread hne ⊢
    dsimp -iota only
    rw [if_neg hzero]
    generalize hparts : d.parts = parts
    obtain ⟨whole, fraction⟩ := parts
    split
    · exact scannedAs_parts hne hread hparts
    · exact scannedAs_exponent hne hread rfl

/-! ## Numerals of numbers -/

lemma number?_natural {m : Nat} (h : m < 0x10000000000000000) {stage : Stage}
    (hstage : stage = .zero ∨ stage = .whole) :
    Spelling.number? ⟨stage, false, m, 0, false, 0⟩ = some (.int m (by omega)) := by
  unfold Spelling.number?
  dsimp only
  rcases hstage with rfl | rfl
  · exact dif_pos h
  · exact dif_pos h

lemma number?_negative {m : Nat} (hpos : m ≠ 0) (h : m ≤ 0x8000000000000000) :
    Spelling.number? ⟨.whole, true, m, 0, false, 0⟩ = some (.int (-m) (by omega)) := by
  unfold Spelling.number?
  dsimp only
  rw [if_pos rfl, if_neg hpos, dif_pos h]

lemma scannedAs_intDigits (i : Int)
    (h : -0x8000000000000000 ≤ i ∧ i < 0x10000000000000000) :
    ScannedAs (Text.Numeral.intDigits i) (.int i h) := by
  intro done
  have hscan := foldl_wholePart (wholePart_toDigits i.natAbs) done (decide (i < 0))
  rw [Nat.ofDigitChars_ten_toDigits] at hscan
  unfold Text.Numeral.intDigits Text.Numeral.digits
  by_cases hneg : i < 0
  · rw [if_pos hneg]
    rw [decide_eq_true hneg] at hscan
    have hzero : Nat.toDigits 10 i.natAbs ≠ ['0'] := by
      intro hdigits
      exact head_toDigits (n := i.natAbs) (by omega) (congrArg List.head? hdigits)
    rw [if_neg hzero] at hscan
    refine ⟨_, hscan, rfl, ?_⟩
    rw [number?_negative (by omega) (by omega)]
    have hi : -(i.natAbs : Int) = i := by omega
    simp only [hi]
  · rw [if_neg hneg]
    rw [decide_eq_false hneg] at hscan
    refine ⟨_, hscan, ?_, ?_⟩
    · dsimp only
      split
      · rfl
      · rfl
    · rw [number?_natural (by omega)]
      · have hi : (i.natAbs : Int) = i := by omega
        simp only [hi]
      · split
        · exact Or.inl rfl
        · exact Or.inr rfl

/-- The numeral of a number is read as that number. -/
theorem scannedAs_number (n : Number) : ScannedAs n.chars n := by
  cases n with
  | int i h => exact scannedAs_intDigits i h
  | real x => exact scannedAs_jsonChars x

end PromptStudio.Proofs
