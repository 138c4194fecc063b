import Mathlib.Data.List.Sigma
import PromptStudio.Json.Record

/-!
# What an object is read by

An object is read as a record if each of its members passes and no field has two of them. The
record is then built from the value of each field or, without a member, its default. So nothing
hangs on the order of the members, on those of other names or on which of its names a field has.
-/

namespace PromptStudio.Proofs
open Json

lemma toOption_eq_some_iff {ε α : Type} {e : Except ε α} {a : α} :
    e.toOption = some a ↔ e = .ok a := by
  cases e with
  | error e => exact ⟨nofun, nofun⟩
  | ok b => exact ⟨fun h => congrArg Except.ok (Option.some.inj h), fun h => h ▸ rfl⟩

lemma toOption_map {ε α β : Type} (g : α → β) (e : Except ε α) :
    (e.map g).toOption = e.toOption.map g := by
  cases e <;> rfl

lemma readList_of_item {α : Type} {read : Reading → Except Fault α} {r r' : Reading}
    (h : (read r).toOption = (read r').toOption) (closed : Bool) (front back : List Reading) :
    (readList read closed (front ++ r :: back)).toOption =
      (readList read closed (front ++ r' :: back)).toOption := by
  induction front with
  | nil =>
    simp only [List.nil_append, readList]
    cases hr : read r with
    | error e =>
      cases hr' : read r' with
      | error e' => rfl
      | ok a =>
        rw [hr, hr'] at h
        cases h
    | ok a =>
      rw [hr] at h
      rw [toOption_eq_some_iff.1 h.symm]
  | cons x front ih =>
    simp only [List.cons_append, readList]
    cases read x with
    | error e => rfl
    | ok a =>
      dsimp only
      rw [toOption_map, ih, ← toOption_map]

/-! ## Members that pass -/

mutual

lemma sound_toReading : (v : Json) → v.toReading.sound = true
  | .null => rfl
  | .bool _ => rfl
  | .num _ => rfl
  | .str _ => rfl
  | .arr items => soundItems_itemReadings items
  | .obj members => soundMembers_memberReadings members

lemma soundItems_itemReadings : (items : List Json) → soundItems (itemReadings items) = true
  | [] => rfl
  | v :: items => by
    rw [itemReadings, soundItems, sound_toReading v, soundItems_itemReadings items]
    rfl

lemma soundMembers_memberReadings :
    (members : List (String × Json)) → soundMembers (memberReadings members) = true
  | [] => rfl
  | (_, v) :: members => by
    rw [memberReadings, soundMembers, sound_toReading v, soundMembers_memberReadings members]
    rfl

end

/-- The field that a name is one of. -/
def fieldOf? (F : Format) : Name → Option F.Field
  | .known n => F.named n
  | .unreadable => none

/-- Members that pass: each gives a field its value, or its name is no field's and is skipped. -/
inductive Passes (F : Format) : List (Name × Reading) → F.Items → Prop
  | nil : Passes F [] []
  | field {n : String} {r : Reading} {ms : List (Name × Reading)} {f : F.Field} {v : F.Value f}
      {items : F.Items} (hname : F.named n = some f) (hread : F.read f r = .ok v)
      (hrest : Passes F ms items) : Passes F ((.known n, r) :: ms) (⟨f, v⟩ :: items)
  | skipped {n : String} {r : Reading} {ms : List (Name × Reading)} {items : F.Items}
      (hname : F.named n = none) (hsound : r.sound = true) (hrest : Passes F ms items) :
      Passes F ((.known n, r) :: ms) items

section fields

variable {F : Format}

lemma get?_eq_dlookup (items : F.Items) (f : F.Field) :
    F.get? items f = @List.dlookup F.Field F.Value F.decEq f items := by
  induction items with
  | nil => rfl
  | cons i rest ih =>
    obtain ⟨g, v⟩ := i
    unfold Format.get?
    cases hdec : F.decEq g f with
    | isTrue h =>
      subst h
      exact (@List.dlookup_cons_eq _ _ F.decEq rest g v).symm
    | isFalse h =>
      exact ih.trans (@List.dlookup_cons_ne _ _ F.decEq rest f ⟨g, v⟩ (Ne.symm h)).symm

lemma get?_eq_none_iff_not_mem_keys {items : F.Items} {f : F.Field} :
    F.get? items f = none ↔ f ∉ items.keys := by
  rw [get?_eq_dlookup]
  exact @List.dlookup_eq_none _ _ F.decEq f items

lemma get?_perm {items items' : F.Items} (hkeys : items.NodupKeys) (h : items.Perm items')
    (f : F.Field) : F.get? items f = F.get? items' f := by
  rw [get?_eq_dlookup, get?_eq_dlookup]
  exact @List.perm_dlookup _ _ F.decEq f items items' hkeys h

lemma get?_cons_self (f : F.Field) (v : F.Value f) (items : F.Items) :
    F.get? (⟨f, v⟩ :: items) f = some v := by
  rw [get?_eq_dlookup]
  exact @List.dlookup_cons_eq _ _ F.decEq items f v

lemma get?_cons_ne {f g : F.Field} (hne : g ≠ f) (v : F.Value f) (items : F.Items) :
    F.get? (⟨f, v⟩ :: items) g = F.get? items g := by
  rw [get?_eq_dlookup, get?_eq_dlookup]
  exact @List.dlookup_cons_ne _ _ F.decEq items g ⟨f, v⟩ hne

lemma passes_of_readMembers {closed : Bool} {ms : List (Name × Reading)} {done out : F.Items}
    (hdone : done.NodupKeys) (h : F.readMembers closed done ms = .ok out) :
    closed = true ∧ ∃ items, Passes F ms items ∧ (items.reverse ++ done).NodupKeys ∧
      out = items.reverse ++ done := by
  induction ms generalizing done with
  | nil =>
    rw [Format.readMembers] at h
    split at h
    · next hclosed => exact ⟨hclosed, [], .nil, hdone, (Except.ok.inj h).symm⟩
    · cases h
  | cons m ms ih =>
    obtain ⟨name, r⟩ := m
    cases name with
    | unreadable => cases h
    | known n =>
      rw [Format.readMembers] at h
      cases hname : F.named n with
      | none =>
        simp only [hname] at h
        split at h
        · next hsound =>
          obtain ⟨hclosed, items, hpasses, hkeys, hout⟩ := ih hdone h
          exact ⟨hclosed, items, .skipped hname hsound hpasses, hkeys, hout⟩
        · cases h
      | some f =>
        simp only [hname] at h
        split at h
        · cases h
        · next hnew =>
          rw [Bool.not_eq_true, Option.isSome_eq_false_iff, Option.isNone_iff_eq_none,
            get?_eq_none_iff_not_mem_keys] at hnew
          cases hread : F.read f r with
          | error e =>
            simp only [hread] at h
            cases h
          | ok v =>
            simp only [hread] at h
            obtain ⟨hclosed, items, hpasses, hkeys, hout⟩ :=
              ih (List.nodupKeys_cons.2 ⟨hnew, hdone⟩) h
            refine ⟨hclosed, ⟨f, v⟩ :: items, .field hname hread hpasses, ?_⟩
            rw [List.reverse_cons, List.append_assoc, List.singleton_append]
            exact ⟨hkeys, hout⟩

/-- Members that pass are read onto those done if no field has two in all. -/
lemma readMembers_of_passes {ms : List (Name × Reading)} {items done : F.Items}
    (hpasses : Passes F ms items) (hkeys : (items.reverse ++ done).NodupKeys) :
    F.readMembers true done ms = .ok (items.reverse ++ done) := by
  induction hpasses generalizing done with
  | nil => rfl
  | @field n r ms f v items hname hread _ ih =>
    rw [List.reverse_cons, List.append_assoc, List.singleton_append] at hkeys ⊢
    have hboth : (⟨f, v⟩ :: done : F.Items).NodupKeys :=
      hkeys.sublist (List.sublist_append_right _ _)
    have hnew : F.get? done f = none :=
      get?_eq_none_iff_not_mem_keys.2 (List.nodupKeys_cons.1 hboth).1
    simp only [Format.readMembers, hname, hnew, hread, Option.isSome_none, Bool.false_eq_true,
      if_false]
    exact ih hkeys
  | skipped hname hsound _ ih =>
    simp only [Format.readMembers, hname, hsound, if_true]
    exact ih hkeys

/-- An object is read if it is closed, its members pass and no field has two. -/
theorem readRecord_eq_ok_iff {closed : Bool} {ms : List (Name × Reading)} {out : F.Items} :
    F.readRecord (.record ms closed) = .ok out ↔
      closed = true ∧ ∃ items, Passes F ms items ∧ items.NodupKeys ∧ out = items.reverse := by
  have hreverse (items : F.Items) : (items.reverse ++ []).NodupKeys ↔ items.NodupKeys := by
    rw [List.append_nil]
    exact List.perm_nodupKeys (List.reverse_perm items)
  constructor
  · intro h
    obtain ⟨hclosed, items, hpasses, hkeys, hout⟩ := passes_of_readMembers List.nodupKeys_nil h
    rw [List.append_nil] at hout
    exact ⟨hclosed, items, hpasses, (hreverse items).1 hkeys, hout⟩
  · rintro ⟨rfl, items, hpasses, hkeys, rfl⟩
    have hread := readMembers_of_passes hpasses ((hreverse items).2 hkeys)
    rwa [List.append_nil] at hread

lemma Passes.perm {ms ms' : List (Name × Reading)} (h : ms.Perm ms') {items : F.Items}
    (hpasses : Passes F ms items) : ∃ items', Passes F ms' items' ∧ items.Perm items' := by
  induction h generalizing items with
  | nil => exact ⟨items, hpasses, .refl _⟩
  | cons m _ ih =>
    cases hpasses with
    | field hname hread hrest =>
      obtain ⟨items', hrest', hperm⟩ := ih hrest
      exact ⟨_, .field hname hread hrest', hperm.cons _⟩
    | skipped hname hsound hrest =>
      obtain ⟨items', hrest', hperm⟩ := ih hrest
      exact ⟨items', .skipped hname hsound hrest', hperm⟩
  | swap m m' ms =>
    cases hpasses with
    | field hname hread hrest =>
      cases hrest with
      | field hname' hread' hrest =>
        exact ⟨_, .field hname' hread' (.field hname hread hrest), .swap _ _ _⟩
      | skipped hname' hsound' hrest =>
        exact ⟨_, .skipped hname' hsound' (.field hname hread hrest), .refl _⟩
    | skipped hname hsound hrest =>
      cases hrest with
      | field hname' hread' hrest =>
        exact ⟨_, .field hname' hread' (.skipped hname hsound hrest), .refl _⟩
      | skipped hname' hsound' hrest =>
        exact ⟨_, .skipped hname' hsound' (.skipped hname hsound hrest), .refl _⟩
  | trans _ _ ih ih' =>
    obtain ⟨items', hpasses', hperm⟩ := ih hpasses
    obtain ⟨items'', hpasses'', hperm'⟩ := ih' hpasses'
    exact ⟨items'', hpasses'', hperm.trans hperm'⟩

lemma Passes.exists_member {ms : List (Name × Reading)} {items : F.Items}
    (hpasses : Passes F ms items) {f : F.Field} (hf : f ∈ items.keys) :
    ∃ m ∈ ms, fieldOf? F m.1 = some f := by
  induction hpasses with
  | nil => cases hf
  | field hname _ _ ih =>
    rcases List.mem_cons.1 hf with rfl | hf
    · exact ⟨_, List.mem_cons_self, hname⟩
    · obtain ⟨m, hmem, hfield⟩ := ih hf
      exact ⟨m, List.mem_cons_of_mem _ hmem, hfield⟩
  | skipped _ _ _ ih =>
    obtain ⟨m, hmem, hfield⟩ := ih hf
    exact ⟨m, List.mem_cons_of_mem _ hmem, hfield⟩

end fields

/-! ## Records built from the values of their fields -/

/-- A format with the defaults of its fields, and a record that is built from no more of the items
than the value of each field or else its default. -/
structure Shape (α : Type) where
  format : Format
  default? : (f : format.Field) → Option (format.Value f)
  ofItems : format.Items → Except Fault α
  ofItems_congr : ∀ items items', (∀ f, (format.get? items f).or (default? f) =
    (format.get? items' f).or (default? f)) → ofItems items = ofItems items'

namespace Shape

variable {α : Type} (S : Shape α)

/-- The value of a field, or else its default. -/
def settled (items : S.format.Items) (f : S.format.Field) : Option (S.format.Value f) :=
  (S.format.get? items f).or (S.default? f)

def read (r : Reading) : Except Fault α :=
  match S.format.readRecord r with
  | .ok items => S.ofItems items
  | .error e => .error e

/-- One change of an object by which nothing else is read. All but the order is stated of the first
member, since the order may be changed too. A field may have the same value `within` another
reading, and a member with the default is left out if its field has no other. -/
inductive Reshaped (within : S.format.Field → Reading → Reading → Prop) : Reading → Reading → Prop
  | reordered {ms ms' : List (Name × Reading)} {closed : Bool} (h : ms.Perm ms') :
      Reshaped within (.record ms closed) (.record ms' closed)
  | added {n : String} {r : Reading} {ms : List (Name × Reading)} {closed : Bool}
      (hname : S.format.named n = none) (hsound : r.sound = true) :
      Reshaped within (.record ms closed) (.record ((.known n, r) :: ms) closed)
  | leftOut {n : String} {r : Reading} {ms : List (Name × Reading)} {closed : Bool}
      {f : S.format.Field} {v : S.format.Value f} (hname : S.format.named n = some f)
      (hread : S.format.read f r = .ok v) (hdefault : S.default? f = some v)
      (hother : ∀ m ∈ ms, fieldOf? S.format m.1 ≠ some f) :
      Reshaped within (.record ((.known n, r) :: ms) closed) (.record ms closed)
  | renamed {n n' : String} {r : Reading} {ms : List (Name × Reading)} {closed : Bool}
      {f : S.format.Field} (hname : S.format.named n = some f)
      (hname' : S.format.named n' = some f) :
      Reshaped within (.record ((.known n, r) :: ms) closed)
        (.record ((.known n', r) :: ms) closed)
  | inside {n : String} {r r' : Reading} {ms : List (Name × Reading)} {closed : Bool}
      {f : S.format.Field} (hname : S.format.named n = some f) (h : within f r r') :
      Reshaped within (.record ((.known n, r) :: ms) closed)
        (.record ((.known n, r') :: ms) closed)

variable {S}

/-- Members that say no more than others: where they pass, those do, with the same values. -/
def Covered (S : Shape α) (ms ms' : List (Name × Reading)) : Prop :=
  ∀ items, Passes S.format ms items → items.NodupKeys →
    ∃ items', Passes S.format ms' items' ∧ items'.NodupKeys ∧ S.settled items = S.settled items'

lemma ofItems_eq_of_settled {items items' : S.format.Items}
    (h : S.settled items = S.settled items') : S.ofItems items = S.ofItems items' :=
  S.ofItems_congr items items' (congrFun h)

lemma settled_reverse {items : S.format.Items} (hkeys : items.NodupKeys) :
    S.settled items.reverse = S.settled items := by
  funext f
  rw [settled, settled, get?_perm hkeys (List.reverse_perm items).symm]

lemma read_record_eq_ok_iff {ms : List (Name × Reading)} {closed : Bool} {a : α} :
    S.read (.record ms closed) = .ok a ↔
      closed = true ∧ ∃ items, Passes S.format ms items ∧ items.NodupKeys ∧
        S.ofItems items = .ok a := by
  rw [read]
  constructor
  · intro h
    split at h
    · next out hread =>
      obtain ⟨hclosed, items, hpasses, hkeys, rfl⟩ := readRecord_eq_ok_iff.1 hread
      rw [ofItems_eq_of_settled (settled_reverse hkeys)] at h
      exact ⟨hclosed, items, hpasses, hkeys, h⟩
    · cases h
  · rintro ⟨hclosed, items, hpasses, hkeys, hbuilt⟩
    rw [readRecord_eq_ok_iff.2 ⟨hclosed, items, hpasses, hkeys, rfl⟩]
    exact (ofItems_eq_of_settled (settled_reverse hkeys)).trans hbuilt

lemma read_eq_of_covered {ms ms' : List (Name × Reading)} (closed : Bool)
    (h : Covered S ms ms') (h' : Covered S ms' ms) :
    (S.read (.record ms closed)).toOption = (S.read (.record ms' closed)).toOption := by
  refine Option.ext fun a => ?_
  rw [toOption_eq_some_iff, toOption_eq_some_iff, read_record_eq_ok_iff, read_record_eq_ok_iff]
  refine and_congr_right fun _ => ⟨?_, ?_⟩
  · rintro ⟨items, hpasses, hkeys, hbuilt⟩
    obtain ⟨items', hpasses', hkeys', hsettled⟩ := h items hpasses hkeys
    exact ⟨items', hpasses', hkeys', (ofItems_eq_of_settled hsettled).symm.trans hbuilt⟩
  · rintro ⟨items, hpasses, hkeys, hbuilt⟩
    obtain ⟨items', hpasses', hkeys', hsettled⟩ := h' items hpasses hkeys
    exact ⟨items', hpasses', hkeys', (ofItems_eq_of_settled hsettled).symm.trans hbuilt⟩

lemma covered_of_passes {ms ms' : List (Name × Reading)}
    (h : ∀ items, Passes S.format ms items → Passes S.format ms' items) : Covered S ms ms' :=
  fun items hpasses hkeys => ⟨items, h items hpasses, hkeys, rfl⟩

lemma covered_of_perm {ms ms' : List (Name × Reading)} (h : ms.Perm ms') : Covered S ms ms' := by
  intro items hpasses hkeys
  obtain ⟨items', hpasses', hperm⟩ := hpasses.perm h
  refine ⟨items', hpasses', (List.perm_nodupKeys hperm).1 hkeys, funext fun f => ?_⟩
  rw [settled, settled, get?_perm hkeys hperm]

/-- A name of the same field can stand for another. -/
lemma covered_of_renamed {n n' : String} {f : S.format.Field} (hname : S.format.named n = some f)
    (hname' : S.format.named n' = some f) (r : Reading) (ms : List (Name × Reading)) :
    Covered S ((.known n, r) :: ms) ((.known n', r) :: ms) := by
  refine covered_of_passes fun items hpasses => ?_
  cases hpasses with
  | field hfield hread hrest =>
    obtain rfl := Option.some.inj (hfield.symm.trans hname)
    exact .field hname' hread hrest
  | skipped hfield _ _ => cases hfield.symm.trans hname

lemma covered_of_reread {n : String} {f : S.format.Field} (hname : S.format.named n = some f)
    {r r' : Reading}
    (hsame : (S.format.read f r).toOption = (S.format.read f r').toOption)
    (ms : List (Name × Reading)) : Covered S ((.known n, r) :: ms) ((.known n, r') :: ms) := by
  refine covered_of_passes fun items hpasses => ?_
  cases hpasses with
  | field hfield hread hrest =>
    obtain rfl := Option.some.inj (hfield.symm.trans hname)
    refine .field hname ?_ hrest
    rw [hread] at hsame
    exact toOption_eq_some_iff.1 hsame.symm
  | skipped hfield _ _ => cases hfield.symm.trans hname

lemma settled_cons_default {items : S.format.Items} {f : S.format.Field} {v : S.format.Value f}
    (hnew : f ∉ items.keys) (hdefault : S.default? f = some v) :
    S.settled (⟨f, v⟩ :: items) = S.settled items := by
  funext g
  unfold settled
  by_cases hg : g = f
  · subst hg
    rw [get?_cons_self, get?_eq_none_iff_not_mem_keys.2 hnew, hdefault]
    rfl
  · rw [get?_cons_ne hg]

section default

variable {n : String} {r : Reading} {ms : List (Name × Reading)} {f : S.format.Field}
  {v : S.format.Value f}

lemma covered_without_default (hname : S.format.named n = some f)
    (hread : S.format.read f r = .ok v) (hdefault : S.default? f = some v) :
    Covered S ((.known n, r) :: ms) ms := by
  intro items hpasses hkeys
  cases hpasses with
  | @field _ _ _ g w rest hfield hread' hrest =>
    obtain rfl := Option.some.inj (hfield.symm.trans hname)
    obtain rfl := Except.ok.inj (hread'.symm.trans hread)
    obtain ⟨hnew, hkeys'⟩ := List.nodupKeys_cons.1 hkeys
    exact ⟨rest, hrest, hkeys', settled_cons_default hnew hdefault⟩
  | skipped hfield _ _ => cases hfield.symm.trans hname

lemma covered_with_default (hname : S.format.named n = some f)
    (hread : S.format.read f r = .ok v) (hdefault : S.default? f = some v)
    (hother : ∀ m ∈ ms, fieldOf? S.format m.1 ≠ some f) :
    Covered S ms ((.known n, r) :: ms) := by
  intro items hpasses hkeys
  have hnew : f ∉ items.keys := by
    intro hmem
    obtain ⟨m, hmember, hfield⟩ := hpasses.exists_member hmem
    exact hother m hmember hfield
  exact ⟨⟨f, v⟩ :: items, .field hname hread hpasses, List.nodupKeys_cons.2 ⟨hnew, hkeys⟩,
    (settled_cons_default hnew hdefault).symm⟩

end default

/-- What is read is the same after each change, and so is whether anything is. -/
theorem read_of_reshaped {within : S.format.Field → Reading → Reading → Prop}
    (hwithin : ∀ f r r', within f r r' →
      (S.format.read f r).toOption = (S.format.read f r').toOption)
    {r r' : Reading} (h : S.Reshaped within r r') :
    (S.read r).toOption = (S.read r').toOption := by
  cases h with
  | reordered hperm =>
    exact read_eq_of_covered _ (covered_of_perm hperm) (covered_of_perm hperm.symm)
  | added hname hsound =>
    refine read_eq_of_covered _ (covered_of_passes fun items hpasses => ?_)
      (covered_of_passes fun items hpasses => ?_)
    · exact .skipped hname hsound hpasses
    · cases hpasses with
      | field hfield _ _ => cases hname.symm.trans hfield
      | skipped _ _ hrest => exact hrest
  | leftOut hname hread hdefault hother =>
    exact read_eq_of_covered _ (covered_without_default hname hread hdefault)
      (covered_with_default hname hread hdefault hother)
  | renamed hname hname' =>
    exact read_eq_of_covered _ (covered_of_renamed hname hname' _ _)
      (covered_of_renamed hname' hname _ _)
  | inside hname hinside =>
    have hsame := hwithin _ _ _ hinside
    exact read_eq_of_covered _ (covered_of_reread hname hsame _)
      (covered_of_reread hname hsame.symm _)

end Shape

end PromptStudio.Proofs
