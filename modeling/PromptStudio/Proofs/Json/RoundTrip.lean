import Mathlib.Data.List.Induction
import PromptStudio.Proofs.Json.Printed

/-!
# Writing and reading are inverse

A value that was read is normal and nests no deeper than reading allows, and a value of that kind
is read back from its text.
-/

namespace PromptStudio.Proofs
open Json

/-! ## Members in the order of their names -/

lemma insertMember_of_forall_lt {n : String} {v : Json} {members : List (String × Json)}
    (h : ∀ m ∈ members, m.1 < n) : insertMember n v members = members ++ [(n, v)] := by
  induction members with
  | nil => rfl
  | cons m rest ih =>
    have hlt : m.1 < n := h m List.mem_cons_self
    have hrest := ih fun m' hmem => h m' (List.mem_cons_of_mem m hmem)
    rw [insertMember, if_neg (String.lt_asymm hlt), if_neg (String.ne_of_lt hlt).symm, hrest]
    rfl

lemma record_of_sorted {members : List (String × Json)}
    (h : members.Pairwise fun a b => a.1 < b.1) : record members = .obj members := by
  refine congrArg Json.obj ?_
  induction members using List.reverseRecOn with
  | nil => rfl
  | append_singleton members m ih =>
    obtain ⟨hmembers, -, hlast⟩ := List.pairwise_append.1 h
    rw [List.foldl_append, ih hmembers]
    exact insertMember_of_forall_lt fun m' hm' => hlast m' hm' m (List.mem_singleton_self m)

lemma eq_or_mem_of_mem_insertMember {n : String} {v : Json} {members : List (String × Json)}
    {m : String × Json} (h : m ∈ insertMember n v members) : m = (n, v) ∨ m ∈ members := by
  induction members with
  | nil => exact Or.inl (List.mem_singleton.1 h)
  | cons first rest ih =>
    rw [insertMember] at h
    split at h
    · exact List.mem_cons.1 h
    split at h
    · rcases List.mem_cons.1 h with heq | hmem
      · exact Or.inl heq
      · exact Or.inr (List.mem_cons_of_mem first hmem)
    · rcases List.mem_cons.1 h with heq | hmem
      · exact Or.inr (List.mem_cons.2 (Or.inl heq))
      · rcases ih hmem with heq | hmem
        · exact Or.inl heq
        · exact Or.inr (List.mem_cons_of_mem first hmem)

lemma pairwise_insertMember (n : String) (v : Json) {members : List (String × Json)}
    (h : members.Pairwise fun a b => a.1 < b.1) :
    (insertMember n v members).Pairwise fun a b => a.1 < b.1 := by
  induction members with
  | nil => exact List.pairwise_singleton _ _
  | cons first rest ih =>
    obtain ⟨hfirst, hrest⟩ := List.pairwise_cons.1 h
    rw [insertMember]
    split
    · rename_i hlt
      refine List.pairwise_cons.2 ⟨?_, h⟩
      intro m hmem
      rcases List.mem_cons.1 hmem with rfl | hmem
      · exact hlt
      · exact String.lt_trans hlt (hfirst m hmem)
    split
    · rename_i heq
      subst heq
      exact List.pairwise_cons.2 ⟨hfirst, hrest⟩
    · rename_i hnlt hne
      have hlt : first.1 < n := by
        by_contra hge
        exact hne (String.le_antisymm (String.not_lt.1 hge) (String.not_lt.1 hnlt))
      refine List.pairwise_cons.2 ⟨?_, ih hrest⟩
      intro m hmem
      rcases eq_or_mem_of_mem_insertMember hmem with rfl | hmem
      · exact hlt
      · exact hfirst m hmem

lemma normalMembers_iff {members : List (String × Json)} :
    NormalMembers members ↔ ∀ m ∈ members, m.2.Normal := by
  induction members with
  | nil => simp [NormalMembers]
  | cons m rest ih => rw [NormalMembers, ih, List.forall_mem_cons]

lemma depthOfMembers_le_iff {members : List (String × Json)} {d : Nat} :
    depthOfMembers members ≤ d ↔ ∀ m ∈ members, depth m.2 ≤ d := by
  induction members with
  | nil => simp [depthOfMembers]
  | cons m rest ih => rw [depthOfMembers, Nat.max_le, ih, List.forall_mem_cons]

/-! ## A value from its own reading -/

mutual

lemma toJson?_toReading : (v : Json) → (d : Nat) → v.Normal → depth v ≤ d →
    (toReading v).toJson? d = some v
  | .null, _, _, _ => rfl
  | .bool _, _, _, _ => rfl
  | .num _, _, _, _ => rfl
  | .str _, _, _, _ => rfl
  | .arr items, d, hnormal, hdepth => by
    rw [Json.Normal] at hnormal
    rw [depth] at hdepth
    have hne : (d != 0) = true := by
      rw [bne_iff_ne]
      omega
    have hitems := itemsToJson?_itemReadings items (d - 1) hnormal (by omega)
    rw [toReading, Reading.toJson?, hne, hitems]
    rfl
  | .obj members, d, hnormal, hdepth => by
    rw [Json.Normal] at hnormal
    rw [depth] at hdepth
    have hne : (d != 0) = true := by
      rw [bne_iff_ne]
      omega
    have hmembers := membersToJson?_memberReadings members (d - 1) [] hnormal.1 hnormal.2 (by omega)
    rw [toReading, Reading.toJson?, hne, hmembers]
    rfl

lemma itemsToJson?_itemReadings : (items : List Json) → (d : Nat) → NormalItems items →
    depthOfItems items ≤ d → itemsToJson? d (itemReadings items) = some items
  | [], _, _, _ => rfl
  | v :: vs, d, hnormal, hdepth => by
    rw [NormalItems] at hnormal
    rw [depthOfItems] at hdepth
    rw [itemReadings, itemsToJson?, toJson?_toReading v d hnormal.1 (by omega)]
    dsimp only
    rw [itemsToJson?_itemReadings vs d hnormal.2 (by omega)]
    rfl

lemma membersToJson?_memberReadings : (members : List (String × Json)) → (d : Nat) →
    (done : List (String × Json)) → (done ++ members).Pairwise (fun a b => a.1 < b.1) →
    NormalMembers members → depthOfMembers members ≤ d →
    membersToJson? d (memberReadings members) done = some (done ++ members)
  | [], d, done, _, _, _ => by rw [memberReadings, membersToJson?, List.append_nil]
  | (n, v) :: rest, d, done, hsorted, hnormal, hdepth => by
    rw [NormalMembers] at hnormal
    rw [depthOfMembers] at hdepth
    have hlast : ∀ m ∈ done, m.1 < n := fun m hmem =>
      (List.pairwise_append.1 hsorted).2.2 m hmem (n, v) List.mem_cons_self
    have hsorted' : (done ++ [(n, v)] ++ rest).Pairwise (fun a b => a.1 < b.1) := by
      rw [List.append_assoc]
      exact hsorted
    rw [memberReadings, membersToJson?, toJson?_toReading v d hnormal.1 (by omega)]
    dsimp only
    rw [insertMember_of_forall_lt hlast,
      membersToJson?_memberReadings rest d _ hsorted' hnormal.2 (by omega), List.append_assoc]
    rfl

end

/-- A normal value that does not nest too deep is read back from its text. -/
theorem parse?_print {v : Json} (hnormal : v.Normal) (hdepth : depth v ≤ depthLimit) :
    parse? v.print = some v := by
  unfold parse? parseTo?
  rw [reading_print]
  exact toJson?_toReading v depthLimit hnormal hdepth

/-! ## What a reading yields -/

/-- Members that an object of a value read whole can have: in order, and themselves normal and
nested at most so deep. -/
structure Kept (d : Nat) (members : List (String × Json)) : Prop where
  sorted : members.Pairwise fun a b => a.1 < b.1
  normal : NormalMembers members
  depth_le : depthOfMembers members ≤ d

lemma Kept.insertMember {d : Nat} {members : List (String × Json)} (h : Kept d members)
    (n : String) {v : Json} (hnormal : v.Normal) (hdepth : depth v ≤ d) :
    Kept d (insertMember n v members) where
  sorted := pairwise_insertMember n v h.sorted
  normal := by
    rw [normalMembers_iff]
    intro m hmem
    rcases eq_or_mem_of_mem_insertMember hmem with rfl | hmem
    · exact hnormal
    · exact normalMembers_iff.1 h.normal m hmem
  depth_le := by
    rw [depthOfMembers_le_iff]
    intro m hmem
    rcases eq_or_mem_of_mem_insertMember hmem with rfl | hmem
    · exact hdepth
    · exact depthOfMembers_le_iff.1 h.depth_le m hmem

mutual

lemma normal_of_toJson? : (r : Reading) → (d : Nat) → (v : Json) → r.toJson? d = some v →
    v.Normal ∧ depth v ≤ d
  | .null, d, v, h => by
    rw [← Option.some.inj h]
    exact ⟨trivial, Nat.zero_le d⟩
  | .bool b, d, v, h => by
    rw [← Option.some.inj h]
    exact ⟨trivial, Nat.zero_le d⟩
  | .number n, d, v, h => by
    obtain ⟨n', -, rfl⟩ := Option.map_eq_some_iff.1 h
    exact ⟨trivial, Nat.zero_le d⟩
  | .text s, d, v, h => by
    obtain ⟨s', -, rfl⟩ := Option.map_eq_some_iff.1 h
    exact ⟨trivial, Nat.zero_le d⟩
  | .list items closed, d, v, h => by
    rw [Reading.toJson?] at h
    split at h
    · rename_i hopen
      obtain ⟨vs, hvs, rfl⟩ := Option.map_eq_some_iff.1 h
      have hpos : d ≠ 0 := bne_iff_ne.1 (Bool.and_eq_true_iff.1 hopen).2
      obtain ⟨hnormal, hdepth⟩ := normal_of_itemsToJson? items (d - 1) vs hvs
      rw [Json.Normal, depth]
      exact ⟨hnormal, by omega⟩
    · exact absurd h (by simp)
  | .record members closed, d, v, h => by
    rw [Reading.toJson?] at h
    split at h
    · rename_i hopen
      obtain ⟨ms, hms, rfl⟩ := Option.map_eq_some_iff.1 h
      have hpos : d ≠ 0 := bne_iff_ne.1 (Bool.and_eq_true_iff.1 hopen).2
      have hkept := kept_of_membersToJson? members (d - 1) [] ms
        ⟨List.Pairwise.nil, trivial, Nat.zero_le _⟩ hms
      have hdepth := hkept.depth_le
      rw [Json.Normal, depth]
      exact ⟨⟨hkept.sorted, hkept.normal⟩, by omega⟩
    · exact absurd h (by simp)
  | .cut, _, _, h => absurd h (by simp [Reading.toJson?])

lemma normal_of_itemsToJson? : (items : List Reading) → (d : Nat) → (vs : List Json) →
    itemsToJson? d items = some vs → NormalItems vs ∧ depthOfItems vs ≤ d
  | [], d, vs, h => by
    rw [← Option.some.inj h]
    exact ⟨trivial, Nat.zero_le d⟩
  | r :: rs, d, vs, h => by
    rw [itemsToJson?] at h
    cases hfirst : r.toJson? d with
    | none => rw [hfirst] at h; exact absurd h (by simp)
    | some v =>
      rw [hfirst] at h
      obtain ⟨rest, hrest, rfl⟩ := Option.map_eq_some_iff.1 h
      obtain ⟨hnormal, hdepth⟩ := normal_of_toJson? r d v hfirst
      obtain ⟨hnormals, hdepths⟩ := normal_of_itemsToJson? rs d rest hrest
      rw [NormalItems, depthOfItems]
      exact ⟨⟨hnormal, hnormals⟩, Nat.max_le.2 ⟨hdepth, hdepths⟩⟩

lemma kept_of_membersToJson? : (members : List (Name × Reading)) → (d : Nat) →
    (done ms : List (String × Json)) → Kept d done → membersToJson? d members done = some ms →
    Kept d ms
  | [], _, _, _, hdone, h => by
    rw [← Option.some.inj h]
    exact hdone
  | (.known n, r) :: rest, d, done, ms, hdone, h => by
    rw [membersToJson?] at h
    cases hfirst : r.toJson? d with
    | none => rw [hfirst] at h; exact absurd h (by simp)
    | some v =>
      rw [hfirst] at h
      obtain ⟨hnormal, hdepth⟩ := normal_of_toJson? r d v hfirst
      exact kept_of_membersToJson? rest d _ ms (hdone.insertMember n hnormal hdepth) h
  | (.unreadable, _) :: _, _, _, _, _, h => absurd h (by simp [membersToJson?])

end

/-- A value read whole is normal and nests no deeper than reading allows. -/
theorem normal_of_parse? {s : String} {v : Json} (h : parse? s = some v) :
    v.Normal ∧ depth v ≤ depthLimit := by
  unfold parse? parseTo? at h
  cases hreading : reading s with
  | mk r whole =>
    rw [hreading] at h
    cases whole with
    | true => exact normal_of_toJson? r depthLimit v h
    | false => exact absurd h (by simp)

/-- A value that was read is read back from its own text. -/
theorem parse?_print_of_parse? {s : String} {v : Json} (h : parse? s = some v) :
    parse? v.print = some v := by
  obtain ⟨hnormal, hdepth⟩ := normal_of_parse? h
  exact parse?_print hnormal hdepth

end PromptStudio.Proofs
