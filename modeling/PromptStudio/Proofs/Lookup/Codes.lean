import Mathlib.Data.List.Induction
import Mathlib.Data.List.Nodup
import PromptStudio.Proofs.Lookup.Keys
import PromptStudio.Proofs.Text.Trimmed

/-!
# Texts of codes

A text of codes is read piece by piece between its commas. A piece that is a code, once it is
trimmed, adds its flavor at the end of the list, unless it is there already. So the list names each
flavor once, in the order of the first pieces, and its codes joined by commas are read as the list.
-/

namespace PromptStudio.Proofs
open Lookup

/-- The pieces between the commas of a text, trimmed. -/
def codePieces (s : String) : List String :=
  (s.toList.splitOn ',').map fun piece => Text.trim (String.ofList piece)

lemma ofList_eq_firsts (s : String) :
    Flavor.ofList s = Flavor.firsts ((codePieces s).filterMap Flavor.ofCode?) := by
  rw [codePieces, List.filterMap_map]
  rfl

lemma ofCode?_eq_some_iff {piece : String} {f : Flavor} :
    Flavor.ofCode? piece = some f ↔ f.code = piece := by
  constructor
  · intro h
    have hcode : (f.code == piece) = true :=
      List.find?_some (p := fun g : Flavor => g.code == piece) h
    exact beq_iff_eq.1 hcode
  · rintro rfl
    cases f <;> decide

/-! ## Piece by piece -/

lemma firsts_append_singleton (fs : List Flavor) (f : Flavor) :
    Flavor.firsts (fs ++ [f]) =
      if f ∈ Flavor.firsts fs then Flavor.firsts fs else Flavor.firsts fs ++ [f] := by
  induction fs with
  | nil => rfl
  | cons g fs ih =>
    rw [List.cons_append, Flavor.firsts, ih, Flavor.firsts]
    by_cases hg : f = g
    · subst hg
      by_cases hf : f ∈ Flavor.firsts fs <;> simp [hf]
    · by_cases hf : f ∈ Flavor.firsts fs <;> simp [hf, hg]

/-- The flavors whose codes are among the pieces: each once, in the order of the first pieces that
are their codes. -/
structure ListsNamed (pieces : List String) (fs : List Flavor) : Prop where
  once : fs.Nodup
  members : ∀ f, f ∈ fs ↔ f.code ∈ pieces
  order : fs.Pairwise fun f g => pieces.idxOf f.code < pieces.idxOf g.code

section pieces

variable {pieces : List String} {fs : List Flavor}

lemma ListsNamed.order_append (h : ListsNamed pieces fs) (later : List String) :
    fs.Pairwise fun f g => (pieces ++ later).idxOf f.code < (pieces ++ later).idxOf g.code := by
  refine h.order.imp_of_mem fun {f g} hf hg hlt => ?_
  rwa [List.idxOf_append_of_mem ((h.members f).1 hf), List.idxOf_append_of_mem ((h.members g).1 hg)]

lemma ListsNamed.concat_unknown (h : ListsNamed pieces fs) {piece : String}
    (hpiece : ∀ f : Flavor, f.code ≠ piece) : ListsNamed (pieces ++ [piece]) fs where
  once := h.once
  members f := by
    rw [h.members, List.mem_append, List.mem_singleton]
    exact (or_iff_left (hpiece f)).symm
  order := h.order_append [piece]

lemma ListsNamed.concat_known (h : ListsNamed pieces fs) {f : Flavor} (hf : f ∈ fs) :
    ListsNamed (pieces ++ [f.code]) fs where
  once := h.once
  members g := by
    rw [h.members, List.mem_append, List.mem_singleton, code_injective.eq_iff]
    refine (or_iff_left_of_imp ?_).symm
    rintro rfl
    exact (h.members g).1 hf
  order := h.order_append [f.code]

lemma ListsNamed.concat_new (h : ListsNamed pieces fs) {f : Flavor} (hf : f ∉ fs) :
    ListsNamed (pieces ++ [f.code]) (fs ++ [f]) where
  once := List.nodup_append.2 ⟨h.once, List.nodup_singleton f, fun g hg f' hf' => by
    rintro rfl
    exact hf (List.mem_singleton.1 hf' ▸ hg)⟩
  members g := by
    rw [List.mem_append, List.mem_append, h.members, List.mem_singleton, List.mem_singleton,
      code_injective.eq_iff]
  order := by
    refine List.pairwise_append.2 ⟨h.order_append [f.code], List.pairwise_singleton _ f, ?_⟩
    intro g hg f' hf'
    obtain rfl := List.mem_singleton.1 hf'
    have hcode : f'.code ∉ pieces := fun hmem => hf ((h.members f').2 hmem)
    have hg' := (h.members g).1 hg
    rw [List.idxOf_append_of_mem hg', List.idxOf_append_of_notMem hcode]
    exact Nat.lt_of_lt_of_le (List.idxOf_lt_length_of_mem hg') (Nat.le_add_right _ _)

/-- Whatever the pieces, what is read from them lists the flavors that they name. -/
theorem listsNamed_firsts (pieces : List String) :
    ListsNamed pieces (Flavor.firsts (pieces.filterMap Flavor.ofCode?)) := by
  -- By the last piece: it stands behind all others, so it moves no first place.
  induction pieces using List.reverseRecOn with
  | nil => exact ⟨List.nodup_nil, fun f => by simp [Flavor.firsts], List.Pairwise.nil⟩
  | append_singleton pieces piece ih =>
    rw [List.filterMap_append]
    cases hpiece : Flavor.ofCode? piece with
    | none =>
      rw [List.filterMap_cons_none hpiece, List.filterMap_nil, List.append_nil]
      apply ih.concat_unknown
      intro f hf
      cases (ofCode?_eq_some_iff.2 hf).symm.trans hpiece
    | some f =>
      rw [List.filterMap_cons_some hpiece, List.filterMap_nil, firsts_append_singleton]
      obtain rfl := ofCode?_eq_some_iff.1 hpiece
      split
      · rename_i hf
        exact ih.concat_known hf
      · rename_i hf
        exact ih.concat_new hf

end pieces

/-! ## Codes joined -/

/-- A code with white space around it. -/
structure PaddedCode where
  before : String
  flavor : Flavor
  after : String
  blank_before : ∀ c ∈ before.toList, Text.isBlank c = true
  blank_after : ∀ c ∈ after.toList, Text.isBlank c = true

namespace PaddedCode

def text (p : PaddedCode) : String := p.before ++ p.flavor.code ++ p.after

def bare (f : Flavor) : PaddedCode := ⟨"", f, "", by simp, by simp⟩

lemma text_bare (f : Flavor) : (bare f).text = f.code := by
  simp [text, bare]

lemma trim_text (p : PaddedCode) : Text.trim p.text = p.flavor.code := by
  have hcode : Text.trimChars p.flavor.code.toList = p.flavor.code.toList := by
    cases p.flavor <;> decide
  rw [← String.toList_inj, Text.toList_trim, text, String.toList_append, String.toList_append,
    trimChars_padded p.blank_before p.blank_after, hcode]

lemma comma_not_mem_text (p : PaddedCode) : ',' ∉ p.text.toList := by
  have hcomma : Text.isBlank ',' = false := by decide
  have hcode : ',' ∉ p.flavor.code.toList := by cases p.flavor <;> decide
  rw [text, String.toList_append, String.toList_append, List.mem_append, List.mem_append]
  rintro ((hbefore | hmem) | hafter)
  · exact Bool.false_ne_true (hcomma.symm.trans (p.blank_before _ hbefore))
  · exact hcode hmem
  · exact Bool.false_ne_true (hcomma.symm.trans (p.blank_after _ hafter))

end PaddedCode

lemma codePieces_joined {codes : List PaddedCode} (hne : codes ≠ []) :
    codePieces (",".intercalate (codes.map PaddedCode.text)) =
      codes.map fun p => p.flavor.code := by
  have hsplit : (",".intercalate (codes.map PaddedCode.text)).toList.splitOn ',' =
      codes.map fun p => p.text.toList := by
    rw [String.toList_intercalate, List.map_map]
    refine List.splitOn_intercalate ',' (fun piece hpiece => ?_) (by simpa using hne)
    obtain ⟨p, -, rfl⟩ := List.mem_map.1 hpiece
    exact p.comma_not_mem_text
  rw [codePieces, hsplit, List.map_map]
  refine List.map_congr_left fun p _ => ?_
  rw [Function.comp_apply, String.ofList_toList, p.trim_text]

lemma firsts_of_nodup {fs : List Flavor} (h : fs.Nodup) : Flavor.firsts fs = fs := by
  induction fs with
  | nil => rfl
  | cons f fs ih =>
    obtain ⟨hf, hfs⟩ := List.nodup_cons.1 h
    rw [Flavor.firsts, ih hfs, List.filter_eq_self.2]
    intro g hg
    rw [decide_eq_true_iff]
    rintro rfl
    exact hf hg

/-- Codes of different flavors, whatever white space is around them, are read as these flavors. -/
theorem ofList_joined (codes : List PaddedCode) (h : (codes.map PaddedCode.flavor).Nodup) :
    Flavor.ofList (",".intercalate (codes.map PaddedCode.text)) =
      codes.map PaddedCode.flavor := by
  by_cases hnil : codes = []
  · subst hnil
    decide
  · have hread : (codes.map fun p => p.flavor.code).filterMap Flavor.ofCode? =
        codes.map PaddedCode.flavor := by
      rw [List.filterMap_map, ← List.filterMap_eq_map]
      exact List.filterMap_congr fun p _ => ofCode?_eq_some_iff.2 rfl
    rw [ofList_eq_firsts, codePieces_joined hnil, hread, firsts_of_nodup h]

/-- A text of codes lists the flavors that its pieces name, each once and in the order of the first
pieces. Joined by commas, the codes of different flavors are read as these flavors, with white space
around them or without; so what is read from a text and written again is read as before. -/
theorem codes_listed_as_named (s : String) :
    ListsNamed (codePieces s) (Flavor.ofList s) ∧
    (∀ codes : List PaddedCode, (codes.map PaddedCode.flavor).Nodup →
      Flavor.ofList (",".intercalate (codes.map PaddedCode.text)) =
        codes.map PaddedCode.flavor) ∧
    Flavor.ofList (",".intercalate ((Flavor.ofList s).map Flavor.code)) = Flavor.ofList s := by
  have hlisted : ListsNamed (codePieces s) (Flavor.ofList s) := by
    rw [ofList_eq_firsts]
    exact listsNamed_firsts (codePieces s)
  refine ⟨hlisted, ofList_joined, ?_⟩
  have hbare : ((Flavor.ofList s).map PaddedCode.bare).map PaddedCode.flavor = Flavor.ofList s := by
    rw [List.map_map]
    exact List.map_id _
  have hagain := ofList_joined ((Flavor.ofList s).map PaddedCode.bare) (by
    rw [hbare]
    exact hlisted.once)
  rw [hbare, List.map_map] at hagain
  simpa only [Function.comp_def, PaddedCode.text_bare] using hagain

/-- Codes with white space around them; and a text with an unknown, a repeated and an empty piece. -/
theorem codes_listed_as_named_with_blanks :
    let noun : PaddedCode := ⟨"\t", .noun, " \u3000", List.all_eq_true.1 (by decide +kernel),
      List.all_eq_true.1 (by decide +kernel)⟩
    let meaning : PaddedCode := ⟨"", .meansLike, "\n", List.all_eq_true.1 (by decide +kernel),
      List.all_eq_true.1 (by decide +kernel)⟩
    let codes := [noun, meaning]
    ((codes.map PaddedCode.flavor).Nodup ∧
      ",".intercalate (codes.map PaddedCode.text) = "\tnoun \u3000,ml\n") ∧
    Flavor.ofList "\tnoun \u3000,ml\n" = [.noun, .meansLike] ∧
    ListsNamed ["ml", "none", "trg", "ml", "", "noun"] (Flavor.ofList "ml, none,trg , ml,,noun") ∧
    Flavor.ofList (",".intercalate ((Flavor.ofList "ml, none,trg , ml,,noun").map Flavor.code)) =
      [.meansLike, .trigger, .noun] := by
  intro noun meaning codes
  have hnodup : (codes.map PaddedCode.flavor).Nodup := by decide +kernel
  have htext : ",".intercalate (codes.map PaddedCode.text) = "\tnoun \u3000,ml\n" := by
    decide +kernel
  have hpieces : codePieces "ml, none,trg , ml,,noun" = ["ml", "none", "trg", "ml", "", "noun"] := by
    decide +kernel
  have hread : Flavor.ofList "ml, none,trg , ml,,noun" = [.meansLike, .trigger, .noun] := by
    decide +kernel
  obtain ⟨hlisted, hjoined, hagain⟩ := codes_listed_as_named "ml, none,trg , ml,,noun"
  refine ⟨⟨hnodup, htext⟩, ?_, hpieces ▸ hlisted, hagain.trans hread⟩
  rw [← htext]
  exact hjoined codes hnodup

end PromptStudio.Proofs
