import PromptStudio.Http.Message
import PromptStudio.Lookup.Source

/-!
# Routes

A path leads to an endpoint, and an endpoint offers actions by method. Asking for the head alone
is asking for the whole without its body.
-/

namespace PromptStudio.Http

/-- What a path leads to. -/
inductive Endpoint where
  | health
  | lookup (source : Lookup.Source)
  | compile
  | library
  | projects
  | project (segment : List Char)
  deriving DecidableEq

/-- What is to be done. -/
inductive Action where
  | health
  | lookup (source : Lookup.Source)
  | compile
  | library
  | listProjects
  | saveProject
  | showProject (segment : List Char)
  | deleteProject (segment : List Char)
  deriving DecidableEq

/-- The paths without a variable segment. -/
def Endpoint.fixed : List (String × Endpoint) :=
  [("/health", .health),
    ("/api/v1/lookup/discover", .lookup .discover),
    ("/api/v1/lookup/dictionary", .lookup .dictionary),
    ("/api/v1/lookup/wikipedia", .lookup .wikipedia),
    ("/api/v1/lookup/wikidata", .lookup .wikidata),
    ("/api/v1/lookup/conceptnet", .lookup .conceptnet),
    ("/api/v1/studio/compile", .compile),
    ("/api/v1/studio/library", .library),
    ("/api/v1/projects", .projects)]

def projectPrefix : String := "/api/v1/projects/"

/-- The endpoint of a path. Its last segment may name a project. -/
def Endpoint.ofPath? (path : List Char) : Option Endpoint :=
  match Endpoint.fixed.lookup (String.ofList path) with
  | some e => some e
  | none =>
    match projectPrefix.toList.isPrefixOf? path with
    | some segment =>
      if segment.isEmpty || segment.contains '/' then none else some (.project segment)
    | none => none

/-- The action of an endpoint under a method, if it offers one. -/
def Endpoint.action? : Endpoint → Method → Option Action
  | health, .get | health, .head => some .health
  | lookup s, .get | lookup s, .head => some (.lookup s)
  | compile, .post => some .compile
  | library, .get | library, .head => some .library
  | projects, .get | projects, .head => some .listProjects
  | projects, .post => some .saveProject
  | project segment, .get | project segment, .head => some (.showProject segment)
  | project segment, .delete => some (.deleteProject segment)
  | _, _ => none

end PromptStudio.Http
