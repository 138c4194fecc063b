import PromptStudio.Json.Basic
import PromptStudio.Lookup.Flavor
import PromptStudio.Prompt.Document

/-!
# Presets

The catalogue offers fragments ready for use, grouped by category. Each group says how to search
for more words of its kind.
-/

namespace PromptStudio.Prompt

open Lookup (Flavor)

/-- A fragment ready for use. -/
structure Preset where
  label : String
  text : String
  description : String
  weight : Option Binary64

/-- The presets of a category, and a search for more words of its kind. -/
structure PresetGroup where
  category : Category
  label : String
  topics : String
  term : String
  flavors : List Flavor
  presets : List Preset

/-- A preset without emphasis. -/
def Preset.plain (label text description : String) : Preset :=
  ⟨label, text, description, none⟩

/-- A preset with a weight in tenths. -/
def Preset.weighted (label text description : String) (tenths : Nat) : Preset :=
  ⟨label, text, description, some (Binary64.decimal tenths (-1))⟩

def stylePresets : PresetGroup where
  category := .style
  label := "Art & Aesthetic"
  topics := "art,design,illustration"
  term := "art style"
  flavors := [.meansLike, .trigger, .synonym]
  presets := [
    .plain "Cyberpunk" "cyberpunk aesthetic" "Neon, high-tech, low-life",
    .plain "Ukiyo-e" "ukiyo-e woodblock style" "Flat perspective, woodblock texture",
    .plain "Isometric" "isometric 3D render" "Parallel projection, clean geometry",
    .plain "Watercolor" "watercolor painting" "Soft bleeding pigments, paper grain",
    .plain "Film Noir" "film noir style" "High-contrast, moody shadows",
    .plain "Baroque" "baroque painting" "Ornate, dramatic contrast",
    .weighted "Photoreal" "ultra photoreal" "High fidelity realism" 12]

def lightingPresets : PresetGroup where
  category := .lighting
  label := "Lighting"
  topics := "cinematography,photography,lighting"
  term := "lighting"
  flavors := [.meansLike, .trigger, .adjective]
  presets := [
    .weighted "Golden Hour" "golden hour sunlight" "Warm, soft sun" 11,
    .plain "Cinematic" "cinematic lighting" "Movie-like contrast",
    .plain "Volumetric" "volumetric god rays" "Visible light beams",
    .plain "Softbox" "softbox studio lighting" "Diffused, even light",
    .plain "Chiaroscuro" "chiaroscuro" "Strong light-dark contrast",
    .plain "Neon Rim" "neon rim lighting" "Bright edge separation"]

def cameraPresets : PresetGroup where
  category := .camera
  label := "Camera & Lens"
  topics := "photography,camera,lens"
  term := "camera lens"
  flavors := [.meansLike, .trigger]
  presets := [
    .plain "35mm" "35mm lens" "Natural perspective",
    .plain "85mm" "85mm portrait lens" "Flattering compression",
    .plain "Macro" "macro shot" "Extreme close-up details",
    .plain "Wide" "wide angle lens" "Expansive framing",
    .plain "Drone" "drone aerial view" "High perspective",
    .plain "Shallow DoF" "shallow depth of field, bokeh" "Subject pop"]

def compositionPresets : PresetGroup where
  category := .composition
  label := "Composition"
  topics := "composition,photography,design"
  term := "composition"
  flavors := [.meansLike, .trigger]
  presets := [
    .plain "Rule of Thirds" "rule of thirds composition" "Balanced framing",
    .plain "Centered" "centered composition" "Iconic symmetry",
    .plain "Leading Lines" "leading lines" "Guides the eye",
    .plain "Negative Space" "strong negative space" "Minimal breathing room"]

def moodPresets : PresetGroup where
  category := .mood
  label := "Mood & Tone"
  topics := "mood,emotion,atmosphere"
  term := "mood"
  flavors := [.meansLike, .trigger, .synonym]
  presets := [
    .plain "Ethereal" "ethereal atmosphere" "Light, heavenly",
    .plain "Ominous" "ominous atmosphere" "Threatening, dark",
    .plain "Serene" "serene atmosphere" "Calm, peaceful",
    .plain "Melancholic" "melancholic mood" "Quiet, pensive"]

def materialsPresets : PresetGroup where
  category := .materials
  label := "Materials"
  topics := "materials,texture,surfaces"
  term := "material texture"
  flavors := [.meansLike, .trigger, .adjective]
  presets := [
    .plain "Obsidian" "obsidian surface, glossy black" "Volcanic glass",
    .plain "Porcelain" "porcelain texture, fine cracks" "Ceramic smoothness",
    .plain "Brushed Metal" "brushed metal, subtle scratches" "Industrial finish",
    .plain "Smoke" "wisps of smoke, translucent" "Gaseous forms"]

def colorPresets : PresetGroup where
  category := .color
  label := "Color & Grade"
  topics := "color,grading,cinema"
  term := "color palette"
  flavors := [.meansLike, .trigger]
  presets := [
    .plain "Teal & Orange" "teal and orange color grading" "Blockbuster look",
    .plain "Monochrome" "black and white, monochrome" "Noir vibe",
    .plain "Pastel" "soft pastel palette" "Gentle colors",
    .plain "High Saturation" "high saturation, vibrant colors" "Punchy look"]

def scenePresets : PresetGroup where
  category := .scene
  label := "Scene & World"
  topics := "landscape,architecture,environment"
  term := "environment"
  flavors := [.meansLike, .trigger, .adjective]
  presets := [
    .plain "Desert" "in a vast desert landscape" "Sand, heat haze",
    .plain "Rainy City" "rain-soaked city streets" "Reflections, wet asphalt",
    .plain "Fog" "dense fog, atmospheric perspective" "Mystery depth",
    .plain "Ancient Ruins" "ancient ruins, weathered stone" "History and decay"]

def postProcessPresets : PresetGroup where
  category := .postProcess
  label := "Post & Detail"
  topics := "detail,render,texture"
  term := "high detail"
  flavors := [.meansLike, .trigger, .adjective]
  presets := [
    .weighted "Ultra Detail" "intricate detail, sharp textures" "Micro detail" 12,
    .plain "Film Grain" "subtle film grain" "Analog texture",
    .plain "HDR" "HDR, high dynamic range" "Punchy highlights",
    .plain "Motion Blur" "cinematic motion blur" "Action feel"]

/-- All groups. -/
def catalogue : List PresetGroup :=
  [stylePresets, lightingPresets, cameraPresets, compositionPresets, moodPresets,
    materialsPresets, colorPresets, scenePresets, postProcessPresets]

def Preset.toJson (p : Preset) : Json :=
  .record <|
    [("label", .str p.label), ("value", .str p.text), ("description", .str p.description)] ++
      p.weight.toList.map fun w => ("weight", .ofReal w)

def PresetGroup.toJson (g : PresetGroup) : Json :=
  .record [("id", .str g.category.code), ("label", .str g.label), ("topics", .str g.topics),
    ("search_term", .str g.term),
    ("discover_flavors", .arr (g.flavors.map fun f => .str f.code)),
    ("items", .arr (g.presets.map Preset.toJson))]

end PromptStudio.Prompt
