import Mathlib.Tactic.Lemma
import PromptStudio.Text.Blank
import PromptStudio.Text.Lowercase

/-!
# Lower-casing in context

Only the capital sigma looks at what stands around it, and it does not look beyond a character that
is neither cased nor ignored: texts with such a character between them are lower-cased on their
own. White space and commas are left alone, and no other character becomes one.
-/

namespace PromptStudio.Proofs
open Text

/-! ## Ends of words -/

/-- A character that ends a word: it has no case, and is not ignored where case is looked for. -/
def EndsWord (c : Char) : Prop :=
  inRanges casedRanges c.toNat = false ∧ inRanges caseIgnorableRanges c.toNat = false

instance : DecidablePred EndsWord := fun _ => inferInstanceAs (Decidable (_ ∧ _))

lemma casedAhead_append {c : Char} (hc : EndsWord c) (cs rest : List Char) :
    casedAhead (cs ++ c :: rest) = casedAhead cs := by
  unfold casedAhead
  induction cs with
  | nil => simp [hc.1, hc.2]
  | cons d cs ih =>
    rw [List.cons_append, List.dropWhile_cons, List.dropWhile_cons]
    by_cases hd : inRanges caseIgnorableRanges d.toNat = true
    · rw [if_pos hd, if_pos hd]
      exact ih
    · rw [if_neg hd, if_neg hd]

/-- What a character becomes between those before it, last first, and those after it. -/
def smallForm (before : List Char) (c : Char) (after : List Char) : List Char :=
  if c = 'Σ' then if casedAhead before && !casedAhead after then ['ς'] else ['σ'] else lowerChar c

lemma lowerAfter_cons (before : List Char) (c : Char) (cs : List Char) :
    lowerAfter before (c :: cs) = smallForm before c cs ++ lowerAfter (c :: before) cs :=
  rfl

lemma smallForm_of_endsWord {c : Char} (hc : EndsWord c) (before after : List Char) :
    smallForm before c after = lowerChar c := by
  apply if_neg
  rintro rfl
  exact absurd hc.1 (by decide +kernel)

lemma lowerAfter_before {c : Char} (hc : EndsWord c) (before older cs : List Char) :
    lowerAfter (before ++ c :: older) cs = lowerAfter before cs := by
  induction cs generalizing before with
  | nil => rfl
  | cons d cs ih =>
    have hform : smallForm (before ++ c :: older) d cs = smallForm before d cs := by
      simp only [smallForm, casedAhead_append hc]
    rw [lowerAfter_cons, lowerAfter_cons, hform, ← List.cons_append, ih]

lemma lowerAfter_append {c : Char} (hc : EndsWord c) (before cs rest : List Char) :
    lowerAfter before (cs ++ c :: rest) =
      lowerAfter before cs ++ lowerChar c ++ lowerAfter [] rest := by
  induction cs generalizing before with
  | nil =>
    have hrest := lowerAfter_before hc [] before rest
    rw [List.nil_append, lowerAfter_cons, smallForm_of_endsWord hc]
    exact congrArg (lowerChar c ++ ·) hrest
  | cons d cs ih =>
    have hform : smallForm before d (cs ++ c :: rest) = smallForm before d cs := by
      simp only [smallForm, casedAhead_append hc]
    rw [List.cons_append, lowerAfter_cons, lowerAfter_cons, hform, ih]
    simp only [List.append_assoc]

def smallChars (cs : List Char) : List Char := lowerAfter [] cs

lemma toList_lowercase (s : String) : (lowercase s).toList = smallChars s.toList := by
  simp [lowercase, smallChars]

/-- A character that ends a word and is its own small form. -/
def IsBorder (c : Char) : Prop := EndsWord c ∧ lowerChar c = [c]

instance : DecidablePred IsBorder := fun _ => inferInstanceAs (Decidable (_ ∧ _))

lemma isBorder_comma : IsBorder ',' := by decide +kernel

lemma isBorder_space : IsBorder ' ' := by decide +kernel

lemma isBorder_hyphen : IsBorder '-' := by decide +kernel

lemma isBorder_lineFeed : IsBorder '\n' := by decide +kernel

lemma smallChars_append {c : Char} (hc : IsBorder c) (cs rest : List Char) :
    smallChars (cs ++ c :: rest) = smallChars cs ++ c :: smallChars rest := by
  rw [smallChars, lowerAfter_append hc.1, hc.2, List.append_assoc]
  rfl

lemma smallChars_cons {c : Char} (hc : IsBorder c) (cs : List Char) :
    smallChars (c :: cs) = c :: smallChars cs :=
  smallChars_append hc [] cs

/-! ## White space and commas -/

/-- The code points of white space and of the comma. -/
def markRanges : List (Nat × Nat) :=
  [(9, 13), (0x20, 0x20), (0x2C, 0x2C), (0x85, 0x85), (0xA0, 0xA0), (0x1680, 0x1680),
    (0x2000, 0x200A), (0x2028, 0x2029), (0x202F, 0x202F), (0x205F, 0x205F), (0x3000, 0x3000)]

/-- White space or a comma. -/
def IsMark (c : Char) : Prop := isBlank c = true ∨ c = ','

lemma inRanges_eq_true_iff (ranges : List (Nat × Nat)) (n : Nat) :
    inRanges ranges n = true ↔ ∃ r ∈ ranges, r.1 ≤ n ∧ n ≤ r.2 := by
  simp [inRanges]

lemma inRanges_of_isMark {c : Char} (h : IsMark c) : inRanges markRanges c.toNat = true := by
  rcases h with h | rfl
  · simp only [isBlank, Bool.or_eq_true, Bool.and_eq_true, decide_eq_true_eq, beq_iff_eq] at h
    simp only [inRanges, markRanges, List.any_cons, List.any_nil, Bool.or_eq_true,
      Bool.and_eq_true, decide_eq_true_eq]
    omega
  · decide

lemma lowerCaseRanges_avoid_marks : ∀ r ∈ lowerCaseRanges, ∀ m ∈ markRanges,
    (m.2 : Int) < r.first + r.shift ∨ (r.last : Int) + r.shift < m.1 := by
  decide +kernel

lemma lowerCode_of_mark {n : Nat} (h : inRanges markRanges (lowerCode n) = true) :
    lowerCode n = n := by
  unfold lowerCode at h ⊢
  cases hfind : lowerCaseRanges.find? (·.contains n) with
  | none => rfl
  | some r =>
    rw [hfind] at h
    obtain ⟨m, hm, hlow, hhigh⟩ := (inRanges_eq_true_iff _ _).1 h
    have havoid := lowerCaseRanges_avoid_marks r (List.mem_of_find?_eq_some hfind) m hm
    have hmark : 1 ≤ m.1 := (by decide : ∀ m ∈ markRanges, 1 ≤ m.1) m hm
    have hcontains := List.find?_some hfind
    simp only [CaseRange.contains, Bool.and_eq_true, decide_eq_true_eq] at hcontains
    dsimp only at hlow hhigh
    omega

lemma eq_of_mem_smallForm {before after : List Char} {c d : Char}
    (h : d ∈ smallForm before c after) (hd : IsMark d) : d = c := by
  have hmark := inRanges_of_isMark hd
  unfold smallForm lowerChar at h
  by_cases hsigma : c = 'Σ'
  · rw [if_pos hsigma] at h
    split at h
    · rw [List.mem_singleton.1 h] at hmark
      exact absurd hmark (by decide)
    · rw [List.mem_singleton.1 h] at hmark
      exact absurd hmark (by decide)
  rw [if_neg hsigma] at h
  by_cases hdot : c.toNat = 0x130
  · rw [if_pos hdot] at h
    have hnone : (['i', '\u0307'].any fun d => inRanges markRanges d.toNat) = false := by decide
    exact absurd hmark (List.any_eq_false.1 hnone d h)
  · rw [if_neg hdot] at h
    rw [List.mem_singleton.1 h] at hmark ⊢
    by_cases hvalid : (lowerCode c.toNat).isValidChar
    · have hcode : (Char.ofNat (lowerCode c.toNat)).toNat = lowerCode c.toNat := by
        rw [Char.ofNat, dif_pos hvalid]
        rfl
      rw [hcode] at hmark
      rw [lowerCode_of_mark hmark, Char.ofNat_toNat]
    · rw [Char.ofNat, dif_neg hvalid] at hmark
      exact absurd hmark (by decide)

lemma smallForm_ne_nil (before : List Char) (c : Char) (after : List Char) :
    smallForm before c after ≠ [] := by
  unfold smallForm lowerChar
  split
  · split <;> exact List.cons_ne_nil _ _
  · split <;> exact List.cons_ne_nil _ _

lemma mem_of_mem_lowerAfter {before cs : List Char} {d : Char} (h : d ∈ lowerAfter before cs)
    (hd : IsMark d) : d ∈ cs := by
  induction cs generalizing before with
  | nil => exact h
  | cons c cs ih =>
    rw [lowerAfter_cons, List.mem_append] at h
    rcases h with h | h
    · exact eq_of_mem_smallForm h hd ▸ List.mem_cons_self
    · exact List.mem_cons_of_mem c (ih h)

lemma smallChars_eq_nil_iff (cs : List Char) : smallChars cs = [] ↔ cs = [] := by
  cases cs with
  | nil => exact iff_of_true rfl rfl
  | cons c cs =>
    refine iff_of_false (fun h => ?_) (List.cons_ne_nil c cs)
    exact smallForm_ne_nil [] c cs (List.append_eq_nil_iff.1 h).1

/-! ## Trimmed texts -/

lemma getLast?_lowerAfter_concat (before cs : List Char) (c : Char) :
    ∃ older, (lowerAfter before (cs ++ [c])).getLast? = (smallForm older c []).getLast? := by
  induction cs generalizing before with
  | nil => exact ⟨before, by rw [List.nil_append, lowerAfter_cons, lowerAfter, List.append_nil]⟩
  | cons d cs ih =>
    obtain ⟨older, hlast⟩ := ih (d :: before)
    have hne := smallForm_ne_nil older c []
    refine ⟨older, ?_⟩
    rw [List.cons_append, lowerAfter_cons, List.getLast?_append, hlast,
      List.getLast?_eq_some_getLast hne]
    rfl

lemma trimChars_smallChars {cs : List Char} (h : trimChars cs = cs) :
    trimChars (smallChars cs) = smallChars cs := by
  apply trimChars_eq_self
  · intro d hd
    rw [← Bool.not_eq_true]
    intro hblank
    cases cs with
    | nil => cases hd
    | cons c cs =>
      have hmem : d ∈ smallForm [] c cs := by
        rw [smallChars, lowerAfter_cons, List.head?_append,
          List.head?_eq_some_head (smallForm_ne_nil [] c cs)] at hd
        exact Option.some.inj hd ▸ List.head_mem _
      have hdc := eq_of_mem_smallForm hmem (Or.inl hblank)
      have hfirst : isBlank d = false := isBlank_of_head?_trimChars (by rw [h, hdc]; rfl)
      exact Bool.false_ne_true (hfirst.symm.trans hblank)
  -- The small form of the last character depends on what is before it, but its blanks do not.
  · intro d hd
    rw [← Bool.not_eq_true]
    intro hblank
    rcases List.eq_nil_or_concat cs with rfl | ⟨cs, c, rfl⟩
    · cases hd
    · rw [List.concat_eq_append] at h hd
      obtain ⟨older, hlast⟩ := getLast?_lowerAfter_concat [] cs c
      rw [smallChars, hlast] at hd
      have hdc := eq_of_mem_smallForm (List.mem_of_getLast? hd) (Or.inl hblank)
      have hfinal : isBlank d = false :=
        isBlank_of_getLast?_trimChars (by rw [h, hdc, List.getLast?_concat])
      exact Bool.false_ne_true (hfinal.symm.trans hblank)

end PromptStudio.Proofs
