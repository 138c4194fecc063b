import PromptStudio.Remote.Basic

/-!
# Scripted answers

Rules answer requests without a network. Of the rules that fit a request the last one answers; a
request that fits none is answered with status 404 and no body.
-/

namespace PromptStudio.Remote

/-- An answer to the requests of one address, or of any, that carry the pairs. -/
structure Rule where
  url : Option String
  query : List (String × String)
  reply : Option Reply
  deriving DecidableEq

def Rule.fits (rule : Rule) (r : Request) : Bool :=
  (match rule.url with
    | some url => url == r.url
    | none => true) &&
    rule.query.all fun pair => r.query.contains pair

/-- What the rules answer. -/
def scripted (rules : List Rule) : Remote := fun r =>
  match rules.reverse.find? fun rule => rule.fits r with
  | some rule => rule.reply
  | none => some ⟨404, ""⟩

end PromptStudio.Remote
