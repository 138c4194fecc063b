import Mathlib.Logic.Relation
import PromptStudio.Proofs.Json.Objects
import PromptStudio.Proofs.Prompt.RoundTrip

/-!
# One document in many shapes

A document, a fragment and the parameters are each built from the values of their fields, of which
all but the category have a default. So a document reads the same, and is refused the same, when in
any of these objects the members change their order, others of no field join them, a field goes by
its other name or its default is left out.
-/

namespace PromptStudio.Proofs
open Json Prompt

/-! ## What each object is built from -/

lemma getD_eq_of_or_eq {α : Type} {o o' : Option α} {a : α}
    (h : o.or (some a) = o'.or (some a)) : o.getD a = o'.getD a := by
  rw [Option.or_some, Option.or_some] at h
  exact Option.some.inj h

def fragmentShape : Shape Fragment where
  format := Fragment.format
  default?
    | .id | .label | .text => some ""
    | .category => none
    | .weight => some neutralWeight
  ofItems := Fragment.ofItems
  ofItems_congr items items' h := by
    have hid := getD_eq_of_or_eq (h .id)
    have hlabel := getD_eq_of_or_eq (h .label)
    have htext := getD_eq_of_or_eq (h .text)
    have hweight := getD_eq_of_or_eq (h .weight)
    have hcategory : Fragment.format.get? items FragmentField.category =
        Fragment.format.get? items' FragmentField.category := by
      have hor := h .category
      rwa [Option.or_none, Option.or_none] at hor
    simp only [Fragment.ofItems, hid, hlabel, htext, hcategory, hweight]

def paramsShape : Shape Params where
  format := Params.format
  default?
    | .aspect | .seed => some none
    | .stylize | .quality => some none
  ofItems items := .ok (Params.ofItems items)
  ofItems_congr items items' h := by
    have haspect := getD_eq_of_or_eq (h .aspect)
    have hstylize := getD_eq_of_or_eq (h .stylize)
    have hquality := getD_eq_of_or_eq (h .quality)
    have hseed := getD_eq_of_or_eq (h .seed)
    simp only [Params.ofItems, haspect, hstylize, hquality, hseed]

def documentShape : Shape Document where
  format := Document.format
  default?
    | .subject | .negative => some ""
    | .fragments => some []
    | .model => some .midjourney
    | .params => some .empty
  ofItems items := .ok (Document.ofItems items)
  ofItems_congr items items' h := by
    have hsubject := getD_eq_of_or_eq (h .subject)
    have hfragments := getD_eq_of_or_eq (h .fragments)
    have hnegative := getD_eq_of_or_eq (h .negative)
    have hmodel := getD_eq_of_or_eq (h .model)
    have hparams := getD_eq_of_or_eq (h .params)
    simp only [Document.ofItems, hsubject, hfragments, hnegative, hmodel, hparams]

lemma read_fragmentShape (r : Reading) : fragmentShape.read r = Fragment.read r := by
  have hread : fragmentShape.format.readRecord r = Fragment.format.readRecord r := rfl
  rw [Shape.read, hread, Fragment.read]
  cases Fragment.format.readRecord r <;> rfl

lemma read_paramsShape (r : Reading) : paramsShape.read r = Params.read r := by
  have hread : paramsShape.format.readRecord r = Params.format.readRecord r := rfl
  rw [Shape.read, hread, Params.read]
  cases Params.format.readRecord r <;> rfl

lemma read_documentShape (r : Reading) : documentShape.read r = Document.read r := by
  have hread : documentShape.format.readRecord r = Document.format.readRecord r := rfl
  rw [Shape.read, hread, Document.read]
  cases Document.format.readRecord r <;> rfl

/-! ## Changes on three levels -/

def FragmentReshaped : Reading → Reading → Prop :=
  fragmentShape.Reshaped fun _ _ _ => False

def ParamsReshaped : Reading → Reading → Prop :=
  paramsShape.Reshaped fun _ _ _ => False

/-- One change in an object inside a document: a fragment of the list, or the parameters. -/
inductive DocumentWithin : DocumentField → Reading → Reading → Prop
  | fragment (front back : List Reading) {r r' : Reading} {closed : Bool}
      (h : FragmentReshaped r r') :
      DocumentWithin .fragments (.list (front ++ r :: back) closed)
        (.list (front ++ r' :: back) closed)
  | params {r r' : Reading} (h : ParamsReshaped r r') : DocumentWithin .params r r'

/-- One change of a document, or of an object inside it. -/
def DocumentReshaped : Reading → Reading → Prop :=
  documentShape.Reshaped DocumentWithin

lemma read_of_fragmentReshaped {r r' : Reading} (h : FragmentReshaped r r') :
    (Fragment.read r).toOption = (Fragment.read r').toOption := by
  rw [← read_fragmentShape, ← read_fragmentShape]
  exact Shape.read_of_reshaped (fun _ _ _ hfalse => hfalse.elim) h

lemma read_of_paramsReshaped {r r' : Reading} (h : ParamsReshaped r r') :
    (Params.read r).toOption = (Params.read r').toOption := by
  rw [← read_paramsShape, ← read_paramsShape]
  exact Shape.read_of_reshaped (fun _ _ _ hfalse => hfalse.elim) h

lemma read_of_documentWithin (f : DocumentField) (r r' : Reading) (h : DocumentWithin f r r') :
    (f.read r).toOption = (f.read r').toOption := by
  cases h with
  | fragment _ _ h => exact readList_of_item (read_of_fragmentReshaped h) _ _ _
  | params h => exact read_of_paramsReshaped h

lemma read_of_documentReshaped {r r' : Reading} (h : DocumentReshaped r r') :
    (Document.read r).toOption = (Document.read r').toOption := by
  rw [← read_documentShape, ← read_documentShape]
  exact Shape.read_of_reshaped read_of_documentWithin h

/-! ## Written documents -/

/-- What is read of a document, if it is JSON from end to end. -/
def WrittenDocument.reading? : WrittenDocument → Option Reading
  | value v => some v.toReading
  | text s =>
    match Json.reading s with
    | (r, true) => some r
    | (_, false) => none

lemma document?_of_reading? {w : WrittenDocument} {r : Reading} (h : w.reading? = some r) :
    w.document? = (Document.read r).toOption := by
  cases w with
  | value v =>
    obtain rfl := Option.some.inj h
    rfl
  | text s =>
    rw [WrittenDocument.reading?] at h
    rw [WrittenDocument.document?, Document.ofText?]
    generalize Json.reading s = read at h ⊢
    obtain ⟨r', clean⟩ := read
    cases clean with
    | false => cases h
    | true =>
      obtain rfl := Option.some.inj h
      rfl

lemma read_of_changes {r r' : Reading} (h : Relation.EqvGen DocumentReshaped r r') :
    (Document.read r).toOption = (Document.read r').toOption := by
  induction h with
  | rel _ _ h => exact read_of_documentReshaped h
  | refl _ => rfl
  | symm _ _ _ ih => exact ih.symm
  | trans _ _ _ _ _ ih ih' => exact ih.trans ih'

/-- Two written documents that come of each other by changes of their objects, any number of them
on any level, are both refused or read as one document. -/
theorem reshaped_document_reads_the_same {w w' : WrittenDocument} {r r' : Reading}
    (hr : w.reading? = some r) (hr' : w'.reading? = some r')
    (h : Relation.EqvGen DocumentReshaped r r') : w.document? = w'.document? := by
  rw [document?_of_reading? hr, document?_of_reading? hr', read_of_changes h]

/-- Parameters and a weight with their defaults are left out, the text of the fragment and the list
go by their other names, and a note of no field joins the members in another order. -/
theorem reshaped_document_reads_the_same_on_three_levels :
    let v : Json := .obj [("params", .obj [("seed", .null)]),
      ("blocks", .arr [.obj [("weight", .num (.int 1 (by decide))), ("value", .str "ash"),
        ("category", .str "scene")]]),
      ("subject", .str "Etna")]
    let v' : Json := .obj [("subject", .str "Etna"), ("note", .arr [.bool true]),
      ("fragments", .arr [.obj [("text", .str "ash"), ("category", .str "scene")]])]
    let w : WrittenDocument := .text v.print
    let w' : WrittenDocument := .text v'.print
    (w.reading? = some v.toReading ∧ w'.reading? = some v'.toReading ∧
      Relation.EqvGen DocumentReshaped v.toReading v'.toReading) ∧
    w.document? = w'.document? ∧
    w'.document? = some ⟨"Etna", [⟨"", "", "ash", .scene, neutralWeight⟩], "", .midjourney,
      .empty⟩ := by
  intro v v' w w'
  have hr : w.reading? = some v.toReading := by
    rw [WrittenDocument.reading?, reading_print]
  have hr' : w'.reading? = some v'.toReading := by
    rw [WrittenDocument.reading?, reading_print]
  let subject : Name × Reading := (.known "subject", .text (some "Etna"))
  let note : Name × Reading := (.known "note", (Json.arr [.bool true]).toReading)
  let weight : Name × Reading := (.known "weight", .number (some (.int 1 (by decide))))
  let text (name : String) : Name × Reading := (.known name, .text (some "ash"))
  let category : Name × Reading := (.known "category", .text (some "scene"))
  let listed (name : String) (members : List (Name × Reading)) : Name × Reading :=
    (.known name, .list [.record members true] true)
  let shape (name : String) (members : List (Name × Reading)) : Reading :=
    .record [listed name members, subject] true
  have hparams : DocumentReshaped v.toReading (shape "blocks" [weight, text "value", category]) :=
    .leftOut rfl rfl rfl (List.forall_mem_cons.2 ⟨nofun, List.forall_mem_cons.2 ⟨nofun, nofun⟩⟩)
  have hweight : DocumentReshaped (shape "blocks" [weight, text "value", category])
      (shape "blocks" [text "value", category]) :=
    .inside rfl (.fragment [] [] (.leftOut rfl rfl rfl
      (List.forall_mem_cons.2 ⟨nofun, List.forall_mem_cons.2 ⟨nofun, nofun⟩⟩)))
  have htext : DocumentReshaped (shape "blocks" [text "value", category])
      (shape "blocks" [text "text", category]) :=
    .inside rfl (.fragment [] [] (.renamed rfl rfl))
  have hblocks : DocumentReshaped (shape "blocks" [text "text", category])
      (shape "fragments" [text "text", category]) :=
    .renamed rfl rfl
  have hnote : DocumentReshaped (shape "fragments" [text "text", category])
      (.record [note, listed "fragments" [text "text", category], subject] true) :=
    .added rfl (sound_toReading _)
  have horder : DocumentReshaped
      (.record [note, listed "fragments" [text "text", category], subject] true) v'.toReading :=
    .reordered (List.perm_append_comm : ([_, _] ++ [subject]).Perm _)
  have hchanges : Relation.EqvGen DocumentReshaped v.toReading v'.toReading :=
    .trans _ _ _ (.rel _ _ hparams) <| .trans _ _ _ (.rel _ _ hweight) <|
    .trans _ _ _ (.rel _ _ htext) <| .trans _ _ _ (.rel _ _ hblocks) <|
    .trans _ _ _ (.rel _ _ hnote) (.rel _ _ horder)
  refine ⟨⟨hr, hr', hchanges⟩, reshaped_document_reads_the_same hr hr' hchanges, ?_⟩
  rw [document?_of_reading? hr']
  rfl

/-- A default may not be left out where its field has a second member under its other name: the two
lists are refused, and either alone is read. -/
theorem default_beside_alias_decides :
    let members : List (String × Json) := [("blocks", .arr []), ("fragments", .arr [])]
    (members.map Prod.fst).Nodup ∧
    documentShape.default? DocumentField.fragments = some [] ∧
    DocumentField.fragments.read (Json.arr []).toReading = .ok [] ∧
    Document.ofJson? (.obj members) = none ∧
    Document.ofJson? (.obj members.tail) = some .empty := by
  intro members
  have hnames : (members.map Prod.fst).Nodup := by decide
  exact ⟨hnames, rfl, rfl, rfl, rfl⟩

end PromptStudio.Proofs
