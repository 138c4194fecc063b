import PromptStudio.Binary64.Basic

/-!
# Prompt documents

A document is a subject, fragments in the order they are rendered, a negative prompt, the image
model it is written for and that model's parameters.
-/

namespace PromptStudio.Prompt

/-- What a fragment is about. Negative fragments are never rendered. -/
inductive Category where
  | subject
  | scene
  | style
  | composition
  | lighting
  | camera
  | mood
  | materials
  | color
  | postProcess
  | negative
  deriving DecidableEq, Repr

namespace Category

def all : List Category :=
  [subject, scene, style, composition, lighting, camera, mood, materials, color, postProcess,
    negative]

def code : Category → String
  | subject => "subject"
  | scene => "scene"
  | style => "style"
  | composition => "composition"
  | lighting => "lighting"
  | camera => "camera"
  | mood => "mood"
  | materials => "materials"
  | color => "color"
  | postProcess => "post_process"
  | negative => "negative"

def ofCode? (s : String) : Option Category :=
  all.find? fun c => c.code == s

end Category

/-- How a model takes emphasis: as a number beside the text, or by repetition of the text. -/
inductive WeightStyle where
  | numeric
  | repetition
  deriving DecidableEq, Repr

/-- What follows the rendered parts. -/
inductive Trailer where
  | modifiers
  | negativePrompt
  | none
  deriving DecidableEq, Repr

/-- The image model a prompt is written for. -/
inductive Model where
  | midjourney
  | sdxl
  | flux
  | dalle
  deriving DecidableEq, Repr

namespace Model

def all : List Model := [midjourney, sdxl, flux, dalle]

def code : Model → String
  | midjourney => "midjourney"
  | sdxl => "sdxl"
  | flux => "flux"
  | dalle => "dalle"

def ofCode? (s : String) : Option Model :=
  all.find? fun m => m.code == s

def weightStyle : Model → WeightStyle
  | sdxl | flux => .numeric
  | midjourney | dalle => .repetition

def trailer : Model → Trailer
  | midjourney => .modifiers
  | sdxl | flux => .negativePrompt
  | dalle => .none

end Model

/-- One, the weight without emphasis. -/
def neutralWeight : Binary64 := Binary64.ofInt 1

structure Fragment where
  id : String
  label : String
  text : String
  category : Category
  weight : Binary64
  deriving DecidableEq

/-- The weight as emphasis: none if it is not above zero, or nearer to one than 2^-52. -/
def Fragment.emphasis (f : Fragment) : Option Binary64 :=
  let distance := f.weight.toUnits - Binary64.unit
  if !f.weight.isPositive || distance.natAbs < Nat.pow 2 1022 then none else some f.weight

/-- The parameters of a model that takes modifiers. -/
structure Params where
  aspect : Option String
  stylize : Option Binary64
  quality : Option Binary64
  seed : Option String
  deriving DecidableEq

def Params.empty : Params := ⟨none, none, none, none⟩

structure Document where
  subject : String
  fragments : List Fragment
  negative : String
  model : Model
  params : Params
  deriving DecidableEq

def Document.empty : Document := ⟨"", [], "", .midjourney, .empty⟩

/-- Whether some fragment is of the category. -/
def Document.hasCategory (d : Document) (c : Category) : Bool :=
  d.fragments.any fun f => f.category == c

end PromptStudio.Prompt
