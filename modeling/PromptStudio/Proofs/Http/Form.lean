import PromptStudio.Http.Form
import PromptStudio.Proofs.Text.Percent
import PromptStudio.Proofs.Text.Separators
import PromptStudio.Proofs.Text.Utf8

/-!
# Form-encoded pairs read back

Encoding leaves none of the characters in a name or a value by which the pairs of a text and the
two parts of a pair are told apart. So decoding gives the pairs back, and of two encoded texts
joined by an ampersand those of the first and then those of the second.
-/

namespace PromptStudio.Proofs
open Http Http.Form

/-! ## Names and values -/

/-- The characters that have a meaning of their own in a query string, and the one that ends it. -/
def formMarks : List Char := ['&', '=', '#']

lemma forall_byte {P : UInt8 → Prop} (h : ∀ n < 256, P (UInt8.ofNat n)) (b : UInt8) : P b := by
  have hb := h b.toNat b.toNat_lt
  rwa [UInt8.ofNat_toNat] at hb

lemma mark_not_mem_encodeByte (b : UInt8) {c : Char} (hc : c ∈ formMarks) : c ∉ encodeByte b := by
  have hnone : ∀ b : UInt8, (formMarks.all fun c => !(encodeByte b).elem c) = true :=
    forall_byte (by decide +kernel)
  have hcb := List.all_eq_true.1 (hnone b) c hc
  rwa [Bool.not_eq_true', ← Bool.not_eq_true, List.elem_iff] at hcb

lemma mark_not_mem_encodeText (s : String) {c : Char} (hc : c ∈ formMarks) : c ∉ encodeText s := by
  intro hmem
  obtain ⟨b, -, hb⟩ := List.mem_flatMap.1 hmem
  exact mark_not_mem_encodeByte b hc hb

/-- What reading makes of a character before it is decoded. -/
def spaced (c : Char) : Char :=
  if c == '+' then ' ' else c

/-- A byte that is written as a character and not as three. -/
def standsOrSpace (b : UInt8) : Bool :=
  b == 0x20 || standsRaw b

lemma spaced_encodeByte : ∀ b : UInt8, (encodeByte b).map spaced =
    if standsOrSpace b then [Char.ofNat b.toNat] else Text.Percent.triplet b :=
  forall_byte (by decide +kernel)

lemma ascii_of_standsOrSpace : ∀ b : UInt8, standsOrSpace b = true → b < 0x80 ∧ b ≠ 37 :=
  forall_byte (by decide +kernel)

lemma spaced_encodeText (s : String) :
    (encodeText s).map spaced = Text.Percent.encode standsOrSpace (Text.Utf8.encode s.toList) := by
  unfold encodeText
  rw [List.map_flatMap]
  simp only [spaced_encodeByte]
  rfl

theorem decodeText_encodeText (s : String) : decodeText (encodeText s) = s := by
  have hspaced := spaced_encodeText s
  unfold spaced at hspaced
  unfold decodeText
  dsimp only
  rw [hspaced, decode_encode ascii_of_standsOrSpace, utf8_decode_encode, String.ofList_toList]

/-! ## Pairs -/

theorem decodePair_encodePair (pair : String × String) : decodePair (encodePair pair) = pair := by
  have hequals : '=' ∉ encodeText pair.1 := mark_not_mem_encodeText pair.1 (by decide)
  unfold decodePair encodePair
  rw [takeWhile_append_cons_of_not_mem hequals]
  dsimp only
  rw [drop_append_cons, decodeText_encodeText, decodeText_encodeText]

lemma mark_not_mem_encodePair (pair : String × String) {c : Char} (hc : c ∈ formMarks)
    (hne : c ≠ '=') : c ∉ encodePair pair := by
  unfold encodePair
  rw [List.mem_append, List.mem_cons, not_or, not_or]
  exact ⟨mark_not_mem_encodeText _ hc, hne, mark_not_mem_encodeText _ hc⟩

lemma encodePair_ne_nil (pair : String × String) : encodePair pair ≠ [] :=
  List.append_ne_nil_of_right_ne_nil _ (List.cons_ne_nil _ _)

lemma encode_singleton (pair : String × String) : encode [pair] = encodePair pair :=
  List.intercalate_singleton

lemma encode_cons_cons (pair next : String × String) (pairs : List (String × String)) :
    encode (pair :: next :: pairs) = encodePair pair ++ '&' :: encode (next :: pairs) := by
  unfold encode
  rw [List.map_cons, List.map_cons, List.intercalate_cons_cons, List.append_assoc,
    List.singleton_append]

/-- What is encoded is decoded to the same pairs in the same order. -/
theorem form_decode_encode (pairs : List (String × String)) : decode (encode pairs) = pairs := by
  cases pairs with
  | nil => rfl
  | cons pair pairs =>
    have hsplit : (encode (pair :: pairs)).splitOn '&' = (pair :: pairs).map encodePair := by
      refine List.splitOn_intercalate '&' ?_ (List.cons_ne_nil _ _)
      intro cs hcs
      obtain ⟨p, -, rfl⟩ := List.mem_map.1 hcs
      exact mark_not_mem_encodePair p (by decide) (by decide)
    have hfull : ((pair :: pairs).map encodePair).filter (!·.isEmpty) =
        (pair :: pairs).map encodePair := by
      refine List.filter_eq_self.2 fun cs hcs => ?_
      obtain ⟨p, -, rfl⟩ := List.mem_map.1 hcs
      rw [Bool.not_eq_true', List.isEmpty_eq_false_iff]
      exact encodePair_ne_nil p
    unfold decode
    rw [hsplit, hfull, List.map_map]
    exact List.map_id'' decodePair_encodePair _

/-- Pairs on both sides of an ampersand are decoded one side after the other. -/
theorem form_decode_append (cs ds : List Char) :
    decode (cs ++ '&' :: ds) = decode cs ++ decode ds := by
  have hsplit : (cs ++ '&' :: ds).splitOn '&' = cs.splitOn '&' ++ ds.splitOn '&' :=
    List.splitOnP_append_cons cs ds (beq_self_eq_true '&')
  unfold decode
  rw [hsplit, List.filter_append, List.map_append]

lemma form_encode_ne_nil {pairs : List (String × String)} (h : pairs ≠ []) :
    encode pairs ≠ [] := by
  intro hnil
  have hdecode := form_decode_encode pairs
  rw [hnil] at hdecode
  exact h hdecode.symm

lemma number_sign_not_mem_encode (pairs : List (String × String)) : '#' ∉ encode pairs := by
  have hpair (pair : String × String) : '#' ∉ encodePair pair :=
    mark_not_mem_encodePair pair (by decide) (by decide)
  induction pairs with
  | nil => exact List.not_mem_nil
  | cons pair pairs ih =>
    cases pairs with
    | nil =>
      rw [encode_singleton]
      exact hpair pair
    | cons next pairs =>
      rw [encode_cons_cons, List.mem_append, List.mem_cons, not_or, not_or]
      exact ⟨hpair pair, by decide, ih⟩

end PromptStudio.Proofs
