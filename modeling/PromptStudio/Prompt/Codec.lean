import PromptStudio.Prompt.Document
import PromptStudio.Json.Printer
import PromptStudio.Json.Record

/-!
# Documents as JSON

Every field of a document has a default, and of a fragment every field but the category.
`blocks` is another name of the fragments and `value` of a fragment's text. Writing leaves out
the parameters that are absent. A value has its members by name, and a text in the order of the
fields.
-/

namespace PromptStudio.Prompt

open Json (Reading Fault Format)

inductive FragmentField where
  | id
  | label
  | text
  | category
  | weight
  deriving DecidableEq

@[reducible] def FragmentField.Value : FragmentField → Type
  | id | label | text => String
  | category => Category
  | weight => Binary64

def FragmentField.named : String → Option FragmentField
  | "id" => some id
  | "label" => some label
  | "text" | "value" => some text
  | "category" => some category
  | "weight" => some weight
  | _ => none

def FragmentField.read : (f : FragmentField) → Reading → Except Fault f.Value
  | id | label | text => Reading.asText
  | category => Reading.asVariant Category.ofCode?
  | weight => Reading.asReal

def Fragment.format : Format where
  Field := FragmentField
  decEq := inferInstance
  Value := FragmentField.Value
  order := [.id, .label, .text, .category, .weight]
  named := FragmentField.named
  read := FragmentField.read

/-- A fragment needs its category; texts default to empty and the weight to one. -/
def Fragment.ofItems (items : Fragment.format.Items) : Except Fault Fragment :=
  let get := Fragment.format.get? items
  match get FragmentField.category with
  | none => .error .unfit
  | some category =>
    .ok { id := (get FragmentField.id).getD ""
          label := (get FragmentField.label).getD ""
          text := (get FragmentField.text).getD ""
          category := category
          weight := (get FragmentField.weight).getD neutralWeight }

def Fragment.read (r : Reading) : Except Fault Fragment :=
  match Fragment.format.readRecord r with
  | .ok items => Fragment.ofItems items
  | .error e => .error e

inductive ParamsField where
  | aspect
  | stylize
  | quality
  | seed
  deriving DecidableEq

@[reducible] def ParamsField.Value : ParamsField → Type
  | aspect | seed => Option String
  | stylize | quality => Option Binary64

def ParamsField.named : String → Option ParamsField
  | "aspect" => some aspect
  | "stylize" => some stylize
  | "quality" => some quality
  | "seed" => some seed
  | _ => none

def ParamsField.read : (f : ParamsField) → Reading → Except Fault f.Value
  | aspect | seed => Reading.asOption Reading.asText
  | stylize | quality => Reading.asOption Reading.asReal

def Params.format : Format where
  Field := ParamsField
  decEq := inferInstance
  Value := ParamsField.Value
  order := [.aspect, .stylize, .quality, .seed]
  named := ParamsField.named
  read := ParamsField.read

def Params.ofItems (items : Params.format.Items) : Params :=
  let get := Params.format.get? items
  { aspect := (get ParamsField.aspect).getD none
    stylize := (get ParamsField.stylize).getD none
    quality := (get ParamsField.quality).getD none
    seed := (get ParamsField.seed).getD none }

def Params.read (r : Reading) : Except Fault Params :=
  (Params.format.readRecord r).map Params.ofItems

inductive DocumentField where
  | subject
  | fragments
  | negative
  | model
  | params
  deriving DecidableEq

@[reducible] def DocumentField.Value : DocumentField → Type
  | subject | negative => String
  | fragments => List Fragment
  | model => Model
  | params => Params

def DocumentField.named : String → Option DocumentField
  | "subject" => some subject
  | "fragments" | "blocks" => some fragments
  | "negative" => some negative
  | "model" => some model
  | "params" => some params
  | _ => none

def DocumentField.read : (f : DocumentField) → Reading → Except Fault f.Value
  | subject | negative => Reading.asText
  | fragments => Reading.asList Fragment.read
  | model => Reading.asVariant Model.ofCode?
  | params => Params.read

def Document.format : Format where
  Field := DocumentField
  decEq := inferInstance
  Value := DocumentField.Value
  order := [.subject, .fragments, .negative, .model, .params]
  named := DocumentField.named
  read := DocumentField.read

def Document.ofItems (items : Document.format.Items) : Document :=
  let get := Document.format.get? items
  { subject := (get DocumentField.subject).getD ""
    fragments := (get DocumentField.fragments).getD []
    negative := (get DocumentField.negative).getD ""
    model := (get DocumentField.model).getD .midjourney
    params := (get DocumentField.params).getD .empty }

def Document.read (r : Reading) : Except Fault Document :=
  (Document.format.readRecord r).map Document.ofItems

/-- The document of a value. -/
def Document.ofJson? (v : Json) : Option Document :=
  (Document.read v.toReading).toOption

/-- The document of a text that is one JSON value. -/
def Document.ofText? (s : String) : Option Document :=
  match Json.reading s with
  | (r, true) => (Document.read r).toOption
  | (_, false) => none

def Fragment.toJson (f : Fragment) : Json :=
  .obj [("category", .str f.category.code), ("id", .str f.id), ("label", .str f.label),
    ("text", .str f.text), ("weight", .ofReal f.weight)]

def Params.toJson (p : Params) : Json :=
  .obj <|
    (p.aspect.toList.map fun s => ("aspect", .str s)) ++
    (p.quality.toList.map fun x => ("quality", .ofReal x)) ++
    (p.seed.toList.map fun s => ("seed", .str s)) ++
    (p.stylize.toList.map fun x => ("stylize", .ofReal x))

/-- A document as an object with its names in order. -/
def Document.toJson (d : Document) : Json :=
  .obj [("fragments", .arr (d.fragments.map Fragment.toJson)), ("model", .str d.model.code),
    ("negative", .str d.negative), ("params", d.params.toJson), ("subject", .str d.subject)]

def Fragment.inOrder (f : Fragment) : Json :=
  .obj [("id", .str f.id), ("label", .str f.label), ("text", .str f.text),
    ("category", .str f.category.code), ("weight", .ofReal f.weight)]

def Params.inOrder (p : Params) : Json :=
  .obj <|
    (p.aspect.toList.map fun s => ("aspect", .str s)) ++
    (p.stylize.toList.map fun x => ("stylize", .ofReal x)) ++
    (p.quality.toList.map fun x => ("quality", .ofReal x)) ++
    (p.seed.toList.map fun s => ("seed", .str s))

/-- A document as an object with its names in the order of the fields. -/
def Document.inOrder (d : Document) : Json :=
  .obj [("subject", .str d.subject), ("fragments", .arr (d.fragments.map Fragment.inOrder)),
    ("negative", .str d.negative), ("model", .str d.model.code), ("params", d.params.inOrder)]

def Document.text (d : Document) : String :=
  d.inOrder.print

end PromptStudio.Prompt
