import PromptStudio.Text.Blank

/-!
# Cue patterns

A phrase is words with any white space between them, also none. A pattern is a choice of
phrases, and a text holds it if one of them stands anywhere in the text.
-/

namespace PromptStudio.Prompt

/-- Words, with white space or nothing between them. -/
abbrev Phrase : Type := List (List Char)

/-- A choice of phrases. -/
abbrev Pattern : Type := List Phrase

/-- Whether the characters begin with the phrase. -/
def Phrase.begins : Phrase → List Char → Bool
  | [], _ => true
  | [w], cs => w.isPrefixOf cs
  | w :: rest, cs =>
    w.isPrefixOf cs && Phrase.begins rest ((cs.drop w.length).dropWhile Text.isBlank)

/-- Whether one of the phrases stands anywhere in the characters. -/
def Pattern.occurs (p : Pattern) : List Char → Bool
  | [] => p.any fun phrase => phrase.begins []
  | c :: cs => (p.any fun phrase => phrase.begins (c :: cs)) || Pattern.occurs p cs

/-- Two patterns that speak against each other. -/
structure Contradiction where
  first : Pattern
  second : Pattern
  message : String

/-- A pattern of phrases given as words. -/
def Pattern.ofWords (phrases : List (List String)) : Pattern :=
  phrases.map fun words => words.map String.toList

def contradictions : List Contradiction :=
  [{ first := .ofWords [["black", "and", "white"], ["monochrome"], ["noir"]]
     second := .ofWords [["vibrant"], ["neon"], ["pastel"], ["colorful"]]
     message := "Color contradiction: monochrome/noir with vibrant/pastel cues." },
   { first := .ofWords [["macro"], ["extreme", "close", "up"]]
     second := .ofWords [["wide", "shot"], ["panoramic"], ["aerial"], ["drone"]]
     message := "Camera contradiction: macro/close-up with wide/drone cues." },
   { first := .ofWords [["minimal"], ["minimalist"]]
     second := .ofWords [["ornate"], ["baroque"], ["maximal"]]
     message := "Style contradiction: minimal with ornate/maximal cues." }]

end PromptStudio.Prompt
