import PromptStudio.Http.Client
import PromptStudio.Proofs.Text.Separators
import PromptStudio.Proofs.Text.Trimmed

/-!
# The identity of a client

The first header with the name tells whom a request was forwarded for, by the part of its value in
front of the first comma. If nothing is told there, the real address is the identity, and if there
is none, all such clients are one.
-/

namespace PromptStudio.Proofs
open Http

section first

variable {headers : Headers} {name value part : String}

/-- The first header with a name has this value. The name may be written in letters of either
case. -/
def FirstValue (headers : Headers) (name value : String) : Prop :=
  ∃ front spelled back, headers = front ++ (spelled, value) :: back ∧ spelled.toLower = name ∧
    ∀ header ∈ front, header.1.toLower ≠ name

lemma first?_eq_some_iff : headers.first? name = some value ↔ FirstValue headers name value := by
  unfold Headers.first?
  rw [Option.map_eq_some_iff]
  constructor
  · rintro ⟨⟨spelled, _⟩, hfind, rfl⟩
    obtain ⟨hname, front, back, hheaders, hfront⟩ := List.find?_eq_some_iff_append.1 hfind
    refine ⟨front, spelled, back, hheaders, beq_iff_eq.1 hname, fun header hmem => ?_⟩
    simpa using hfront header hmem
  · rintro ⟨front, spelled, back, rfl, rfl, hfront⟩
    refine ⟨(spelled, value), List.find?_eq_some_iff_append.2 ⟨?_, front, back, rfl, ?_⟩, rfl⟩
    · exact beq_self_eq_true _
    · intro header hmem
      simpa using hfront header hmem

lemma plain?_eq_some_iff :
    headers.plain? name = some value ↔ FirstValue headers name value ∧ isPlain value = true := by
  rw [Headers.plain?, Option.filter_eq_some_iff, first?_eq_some_iff]

/-- The part of a value in front of its first comma, or the value if it has no comma. -/
def IsFirstPart (value part : String) : Prop :=
  ',' ∉ part.toList ∧ (value = part ∨ ∃ rest, value = part ++ "," ++ rest)

lemma toList_part_comma (part rest : String) :
    (part ++ "," ++ rest).toList = part.toList ++ ',' :: rest.toList := by
  rw [String.toList_append, String.toList_append, List.append_assoc]
  rfl

lemma exists_isFirstPart (value : String) : ∃ part, IsFirstPart value part := by
  by_cases hcomma : ',' ∈ value.toList
  · obtain ⟨part, rest, hvalue, hpart⟩ := List.eq_append_cons_of_mem hcomma
    refine ⟨String.ofList part, ?_, Or.inr ⟨String.ofList rest, String.toList_inj.1 ?_⟩⟩
    · rwa [String.toList_ofList]
    · rw [toList_part_comma, String.toList_ofList, String.toList_ofList, hvalue]
  · exact ⟨value, hcomma, Or.inl rfl⟩

lemma IsFirstPart.firstHop_eq (h : IsFirstPart value part) : firstHop value = part := by
  obtain ⟨hcomma, rfl | ⟨rest, rfl⟩⟩ := h
  · rw [firstHop, takeWhile_of_not_mem hcomma, String.ofList_toList]
  · rw [firstHop, toList_part_comma, takeWhile_append_cons_of_not_mem hcomma, String.ofList_toList]

lemma isFirstPart_firstHop (value : String) : IsFirstPart value (firstHop value) := by
  obtain ⟨part, hpart⟩ := exists_isFirstPart value
  rwa [hpart.firstHop_eq]

lemma IsFirstPart.append_comma (h : IsFirstPart value part) (more : String) :
    IsFirstPart (value ++ "," ++ more) part := by
  obtain ⟨hcomma, rfl | ⟨rest, rfl⟩⟩ := h
  · exact ⟨hcomma, Or.inr ⟨more, rfl⟩⟩
  · refine ⟨hcomma, Or.inr ⟨rest ++ "," ++ more, ?_⟩⟩
    simp only [String.append_assoc]

lemma isPlain_append_comma {more : String} (hvalue : isPlain value = true)
    (hmore : isPlain more = true) : isPlain (value ++ "," ++ more) = true := by
  unfold isPlain at *
  rw [toList_part_comma, List.all_append, List.all_cons, hvalue, hmore]
  rfl

end first

section identity

variable {headers other : Headers} {value hop address who : String}

/-- The first header that tells whom the request was forwarded for has this value, it is plain, and
its first part is this text and white space around it. -/
structure ForwardedFor (headers : Headers) (value hop : String) : Prop where
  first : FirstValue headers "x-forwarded-for" value
  plain : isPlain value = true
  part : ∃ part, IsFirstPart value part ∧ Text.trim part = hop
  ne_empty : hop ≠ ""

/-- The first header that tells a real address has a plain value, which is this text and white space
around it. -/
def RealAddress (headers : Headers) (address : String) : Prop :=
  ∃ value, FirstValue headers "x-real-ip" value ∧ isPlain value = true ∧
    Text.trim value = address ∧ address ≠ ""

/-- Whom the headers name. -/
inductive Names (headers : Headers) : String → Prop
  | forwarded {value hop : String} (h : ForwardedFor headers value hop) : Names headers hop
  | real {address : String} (hforwarded : ∀ value hop, ¬ ForwardedFor headers value hop)
      (h : RealAddress headers address) : Names headers address
  | unknown (hforwarded : ∀ value hop, ¬ ForwardedFor headers value hop)
      (hreal : ∀ address, ¬ RealAddress headers address) : Names headers "unknown"

lemma forwardedFor_iff : (∃ value, ForwardedFor headers value hop) ↔
    ((headers.plain? "x-forwarded-for").bind fun s => Text.nonBlank? (firstHop s)) = some hop := by
  rw [Option.bind_eq_some_iff]
  constructor
  · rintro ⟨value, hfirst, hplain, ⟨part, hpart, htrim⟩, hne⟩
    refine ⟨value, plain?_eq_some_iff.2 ⟨hfirst, hplain⟩, nonBlank?_eq_some_iff.2 ⟨?_, hne⟩⟩
    rw [hpart.firstHop_eq, htrim]
  · rintro ⟨value, hvalue, hhop⟩
    obtain ⟨hfirst, hplain⟩ := plain?_eq_some_iff.1 hvalue
    obtain ⟨htrim, hne⟩ := nonBlank?_eq_some_iff.1 hhop
    exact ⟨value, hfirst, hplain, ⟨_, isFirstPart_firstHop value, htrim.symm⟩, hne⟩

lemma realAddress_iff : RealAddress headers address ↔
    (headers.plain? "x-real-ip").bind Text.nonBlank? = some address := by
  rw [Option.bind_eq_some_iff]
  constructor
  · rintro ⟨value, hfirst, hplain, htrim, hne⟩
    exact ⟨value, plain?_eq_some_iff.2 ⟨hfirst, hplain⟩, nonBlank?_eq_some_iff.2 ⟨htrim.symm, hne⟩⟩
  · rintro ⟨value, hvalue, haddress⟩
    obtain ⟨hfirst, hplain⟩ := plain?_eq_some_iff.1 hvalue
    obtain ⟨htrim, hne⟩ := nonBlank?_eq_some_iff.1 haddress
    exact ⟨value, hfirst, hplain, htrim.symm, hne⟩

lemma eq_none_of_not_forwardedFor (h : ∀ value hop, ¬ ForwardedFor headers value hop) :
    ((headers.plain? "x-forwarded-for").bind fun s => Text.nonBlank? (firstHop s)) = none := by
  rw [Option.eq_none_iff_forall_ne_some]
  intro hop hsome
  obtain ⟨value, hvalue⟩ := forwardedFor_iff.2 hsome
  exact h value hop hvalue

lemma eq_none_of_not_realAddress (h : ∀ address, ¬ RealAddress headers address) :
    (headers.plain? "x-real-ip").bind Text.nonBlank? = none := by
  rw [Option.eq_none_iff_forall_ne_some]
  exact fun address hsome => h address (realAddress_iff.2 hsome)

lemma ForwardedFor.client_eq (h : ForwardedFor headers value hop) : headers.client = hop := by
  unfold Headers.client
  dsimp only
  rw [forwardedFor_iff.1 ⟨value, h⟩, Option.some_or, Option.getD_some]

lemma client_of_not_forwardedFor (h : ∀ value hop, ¬ ForwardedFor headers value hop) :
    headers.client = ((headers.plain? "x-real-ip").bind Text.nonBlank?).getD "unknown" := by
  unfold Headers.client
  dsimp only
  rw [eq_none_of_not_forwardedFor h, Option.none_or]

lemma Names.client_eq (h : Names headers who) : headers.client = who := by
  cases h with
  | forwarded h => exact h.client_eq
  | real hforwarded h =>
    rw [client_of_not_forwardedFor hforwarded, realAddress_iff.1 h, Option.getD_some]
  | unknown hforwarded hreal =>
    rw [client_of_not_forwardedFor hforwarded, eq_none_of_not_realAddress hreal, Option.getD_none]

lemma exists_names (headers : Headers) : ∃ who, Names headers who := by
  by_cases hforwarded : ∃ value hop, ForwardedFor headers value hop
  · obtain ⟨value, hop, h⟩ := hforwarded
    exact ⟨hop, .forwarded h⟩
  · simp only [not_exists] at hforwarded
    by_cases hreal : ∃ address, RealAddress headers address
    · obtain ⟨address, h⟩ := hreal
      exact ⟨address, .real hforwarded h⟩
    · exact ⟨"unknown", .unknown hforwarded (not_exists.1 hreal)⟩

/-- The identity of a client is what its headers name. -/
theorem client_eq_iff_names : headers.client = who ↔ Names headers who := by
  refine ⟨?_, Names.client_eq⟩
  rintro rfl
  obtain ⟨who, h⟩ := exists_names headers
  rwa [h.client_eq]

lemma Names.trimmed (h : Names headers who) : who ≠ "" ∧ Text.trim who = who := by
  cases h with
  | forwarded h =>
    obtain ⟨part, -, rfl⟩ := h.part
    exact ⟨h.ne_empty, Text.trim_trim part⟩
  | real _ h =>
    obtain ⟨value, -, -, rfl, hne⟩ := h
    exact ⟨hne, Text.trim_trim value⟩
  | unknown => exact ⟨by decide, by decide +kernel⟩

end identity

/-! ## Headers that name the same -/

/-- Headers of the same client. If they tell whom the request was forwarded for, others may have
added to that value after a comma, and may have added headers; if not, the first real address is the
same. -/
inductive SameClient (headers other : Headers) : Prop
  | forwarded {value hop : String} (h : ForwardedFor headers value hop)
      (hother : FirstValue other "x-forwarded-for" value)
  | lengthened {value hop more : String} (h : ForwardedFor headers value hop)
      (hmore : isPlain more = true)
      (hother : FirstValue other "x-forwarded-for" (value ++ "," ++ more))
  | real (h : ∀ value hop, ¬ ForwardedFor headers value hop)
      (hother : ∀ value hop, ¬ ForwardedFor other value hop)
      (haddress : ∀ value, FirstValue headers "x-real-ip" value ↔ FirstValue other "x-real-ip" value)

section same

variable {headers other : Headers} {value hop more : String}

lemma ForwardedFor.of_firstValue (h : ForwardedFor headers value hop)
    (hother : FirstValue other "x-forwarded-for" value) : ForwardedFor other value hop :=
  ⟨hother, h.plain, h.part, h.ne_empty⟩

lemma ForwardedFor.of_lengthened (h : ForwardedFor headers value hop) (hmore : isPlain more = true)
    (hother : FirstValue other "x-forwarded-for" (value ++ "," ++ more)) :
    ForwardedFor other (value ++ "," ++ more) hop := by
  obtain ⟨part, hpart, htrim⟩ := h.part
  exact ⟨hother, isPlain_append_comma h.plain hmore, ⟨part, hpart.append_comma more, htrim⟩,
    h.ne_empty⟩

theorem SameClient.client_eq (h : SameClient headers other) : other.client = headers.client := by
  cases h with
  | forwarded h hother => rw [h.client_eq, (h.of_firstValue hother).client_eq]
  | lengthened h hmore hother => rw [h.client_eq, (h.of_lengthened hmore hother).client_eq]
  | real h hother haddress =>
    have hfirst : headers.first? "x-real-ip" = other.first? "x-real-ip" := by
      refine Option.ext fun value => ?_
      rw [first?_eq_some_iff, first?_eq_some_iff, haddress]
    rw [client_of_not_forwardedFor h, client_of_not_forwardedFor hother, Headers.plain?,
      Headers.plain?, hfirst]

end same

end PromptStudio.Proofs
