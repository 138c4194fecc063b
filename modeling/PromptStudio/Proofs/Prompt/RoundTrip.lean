import PromptStudio.Prompt.Codec
import PromptStudio.Prompt.Lint
import PromptStudio.Proofs.Json.Printed
import PromptStudio.Proofs.Json.Records

/-!
# Documents read back

A document that is written, as a value or as a text, is read as the same document, whatever it was
read from. So its prompt and the findings about it survive every round of writing and reading.
-/

namespace PromptStudio.Proofs
open Json Prompt

lemma category_ofCode?_code (c : Category) : Category.ofCode? c.code = some c := by
  cases c <;> decide

lemma model_ofCode?_code (m : Model) : Model.ofCode? m.code = some m := by
  cases m <;> decide

lemma asVariant_code {α : Type} {named : String → Option α} {code : α → String}
    (h : ∀ a, named (code a) = some a) (a : α) :
    Reading.asVariant named (Json.str (code a)).toReading = .ok a := by
  rw [toReading, Reading.asVariant, h a]

/-! ## Fragments -/

def fragmentWriter : Writer Fragment.format where
  name
    | .id => "id"
    | .label => "label"
    | .text => "text"
    | .category => "category"
    | .weight => "weight"
  write
    | .id, s | .label, s | .text, s => .str s
    | .category, c => .str c.code
    | .weight, x => .ofReal x
  named_name f := by cases f <;> rfl
  read_write f v := by
    cases f with
    | id => rfl
    | label => rfl
    | text => rfl
    | category => exact asVariant_code category_ofCode?_code v
    | weight => rfl

/-- The fields of a fragment in order. -/
def fragmentItems (f : Fragment) : Fragment.format.Items :=
  [⟨.id, f.id⟩, ⟨.label, f.label⟩, ⟨.text, f.text⟩, ⟨.category, f.category⟩, ⟨.weight, f.weight⟩]

/-- The fields of a fragment by name. -/
def fragmentItemsByName (f : Fragment) : Fragment.format.Items :=
  [⟨.category, f.category⟩, ⟨.id, f.id⟩, ⟨.label, f.label⟩, ⟨.text, f.text⟩, ⟨.weight, f.weight⟩]

lemma read_fragment_toJson (f : Fragment) : Fragment.read f.toJson.toReading = .ok f := by
  have hdistinct : [FragmentField.category, .id, .label, .text, .weight].Nodup := by decide
  have hitems := fragmentWriter.readRecord_members (fragmentItemsByName f) hdistinct
  have hwritten : f.toJson = .obj (fragmentWriter.members (fragmentItemsByName f)) := rfl
  rw [hwritten, Fragment.read, hitems]
  rfl

lemma read_fragment_inOrder (f : Fragment) : Fragment.read f.inOrder.toReading = .ok f := by
  have hdistinct : [FragmentField.id, .label, .text, .category, .weight].Nodup := by decide
  have hitems := fragmentWriter.readRecord_members (fragmentItems f) hdistinct
  have hwritten : f.inOrder = .obj (fragmentWriter.members (fragmentItems f)) := rfl
  rw [hwritten, Fragment.read, hitems]
  rfl

/-! ## Parameters -/

lemma read_params_toJson (p : Params) : Params.read p.toJson.toReading = .ok p := by
  obtain ⟨aspect, stylize, quality, seed⟩ := p
  cases aspect <;> cases stylize <;> cases quality <;> cases seed <;> rfl

lemma read_params_inOrder (p : Params) : Params.read p.inOrder.toReading = .ok p := by
  obtain ⟨aspect, stylize, quality, seed⟩ := p
  cases aspect <;> cases stylize <;> cases quality <;> cases seed <;> rfl

/-! ## Documents -/

/-- The writer of documents whose fragments and parameters are written so as to be read back. -/
def documentWriter {fragment : Fragment → Json} {params : Params → Json}
    (hfragment : ∀ f, Fragment.read (fragment f).toReading = .ok f)
    (hparams : ∀ p, Params.read (params p).toReading = .ok p) : Writer Document.format where
  name
    | .subject => "subject"
    | .fragments => "fragments"
    | .negative => "negative"
    | .model => "model"
    | .params => "params"
  write
    | .subject, s | .negative, s => .str s
    | .fragments, fs => .arr (fs.map fragment)
    | .model, m => .str m.code
    | .params, p => params p
  named_name f := by cases f <;> rfl
  read_write f v := by
    cases f with
    | subject => rfl
    | fragments => exact asList_map hfragment v
    | negative => rfl
    | model => exact asVariant_code model_ofCode?_code v
    | params => exact hparams v

/-- The fields of a document in order. -/
def documentItems (d : Document) : Document.format.Items :=
  [⟨.subject, d.subject⟩, ⟨.fragments, d.fragments⟩, ⟨.negative, d.negative⟩, ⟨.model, d.model⟩,
    ⟨.params, d.params⟩]

/-- The fields of a document by name. -/
def documentItemsByName (d : Document) : Document.format.Items :=
  [⟨.fragments, d.fragments⟩, ⟨.model, d.model⟩, ⟨.negative, d.negative⟩, ⟨.params, d.params⟩,
    ⟨.subject, d.subject⟩]

lemma read_document_toJson (d : Document) : Document.read d.toJson.toReading = .ok d := by
  let W := documentWriter read_fragment_toJson read_params_toJson
  have hdistinct : [DocumentField.fragments, .model, .negative, .params, .subject].Nodup := by
    decide
  have hitems := W.readRecord_members (documentItemsByName d) hdistinct
  have hwritten : d.toJson = .obj (W.members (documentItemsByName d)) := rfl
  rw [hwritten, Document.read, hitems]
  rfl

lemma read_document_inOrder (d : Document) : Document.read d.inOrder.toReading = .ok d := by
  let W := documentWriter read_fragment_inOrder read_params_inOrder
  have hdistinct : [DocumentField.subject, .fragments, .negative, .model, .params].Nodup := by
    decide
  have hitems := W.readRecord_members (documentItems d) hdistinct
  have hwritten : d.inOrder = .obj (W.members (documentItems d)) := rfl
  rw [hwritten, Document.read, hitems]
  rfl

/-- A document as it comes: as a value or as a text. -/
inductive WrittenDocument where
  | value (v : Json)
  | text (s : String)

def WrittenDocument.document? : WrittenDocument → Option Document
  | value v => Document.ofJson? v
  | text s => Document.ofText? s

lemma document?_value {v : Json} {d : Document} (h : Document.read v.toReading = .ok d) :
    (WrittenDocument.value v).document? = some d := by
  rw [WrittenDocument.document?, Document.ofJson?, h]
  rfl

lemma document?_text {v : Json} {d : Document} (h : Document.read v.toReading = .ok d) :
    (WrittenDocument.text v.print).document? = some d := by
  rw [WrittenDocument.document?, Document.ofText?, reading_print]
  dsimp only
  rw [h]
  rfl

/-- Whatever a document was read from, each way of writing it reads as that did: the document read
again is the same, and so are what is written of it, its prompt and the findings about it. -/
theorem written_again_reads_the_same (written : WrittenDocument) (d : Document)
    (h : written.document? = some d) :
    ∀ again ∈ [WrittenDocument.value d.toJson, .text d.toJson.print, .text d.text],
      again.document? = written.document? ∧
      ∀ d', again.document? = some d' →
        d' = d ∧ d'.toJson = d.toJson ∧ d'.text = d.text ∧ d'.prompt = d.prompt ∧
          d'.lint = d.lint := by
  intro again hagain
  have hread : again.document? = some d := by
    simp only [List.mem_cons, List.not_mem_nil, or_false] at hagain
    rcases hagain with rfl | rfl | rfl
    · exact document?_value (read_document_toJson d)
    · exact document?_text (read_document_toJson d)
    · exact document?_text (read_document_inOrder d)
  refine ⟨hread.trans h.symm, fun d' hd' => ?_⟩
  obtain rfl : d = d' := Option.some.inj (hread.symm.trans hd')
  exact ⟨rfl, rfl, rfl, rfl, rfl⟩

/-- A document with two names that are not its own, a fragment in a list, a variant in an object, a
null and a negative zero. -/
theorem written_again_reads_the_same_from_aliases :
    let written : WrittenDocument := .text (
      "\x7b\"blocks\":[[\"\",\"\",\"fog\",\x7b\"scene\":null\x7d]," ++
      "\x7b\"value\":\"ash\",\"category\":\"mood\",\"weight\":2\x7d]," ++
      "\"params\":\x7b\"seed\":null,\"stylize\":-0\x7d\x7d")
    let d : Document := ⟨"", [⟨"", "", "fog", .scene, neutralWeight⟩,
      ⟨"", "", "ash", .mood, Binary64.ofInt 2⟩], "", .midjourney,
      ⟨none, some ⟨true, 0, by decide⟩, none, none⟩⟩
    written.document? = some d ∧
    (WrittenDocument.text d.text).document? = written.document? ∧
    d.prompt = "fog, ash, ash --s -0" := by
  intro written d
  have h : written.document? = some d := by decide +kernel
  have hagain := written_again_reads_the_same written d h (.text d.text) (by simp)
  exact ⟨h, hagain.1, by decide +kernel⟩

end PromptStudio.Proofs
