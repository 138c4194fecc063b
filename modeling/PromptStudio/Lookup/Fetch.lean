import PromptStudio.Cache.Fresh
import PromptStudio.Remote.Basic

/-!
# Asking through the cache

A fresh value under the key is served without a request. Otherwise the request is sent once, and
only its success is kept.
-/

namespace PromptStudio.Lookup

/-- The milliseconds of a day. -/
def day : Int := 86400000

/-- A request, and where and how long its value is kept. -/
structure Query where
  request : Remote.Request
  key : String
  ttl : Int
  deriving DecidableEq

/-- The outcome of a query, the store after it and the requests sent, in order. -/
structure Fetched (α : Type) where
  outcome : α
  store : Cache.Store
  sent : List Remote.Request

/-- The store after a request with this outcome. -/
def Query.keep (q : Query) (outcome : Except Remote.Failure Json) (now : Instant)
    (store : Cache.Store) : Cache.Store :=
  match outcome with
  | .ok v => store.set q.key v now
  | .error _ => store

/-- The value of a query. -/
def Query.fetch (q : Query) (remote : Remote) (now : Instant) (store : Cache.Store) :
    Fetched (Except Remote.Failure Json) :=
  match store.get? q.key q.ttl now with
  | some v => ⟨.ok v, store, []⟩
  | none =>
    let outcome := remote.ask q.request
    ⟨outcome, q.keep outcome now store, [q.request]⟩

end PromptStudio.Lookup
