import PromptStudio.Instant
import PromptStudio.Table

/-!
# Admission in fixed windows

A key's first request opens a window; requests are counted in it until its end, and the end
itself still belongs to it. A request after the end opens the next window. Around the end of a
window a key may thus be admitted twice its limit.
-/

namespace PromptStudio.Admission

/-- The open window of a key: the requests admitted in it, and its end. -/
structure Bucket where
  count : Nat
  resetAt : Instant
  deriving DecidableEq

/-- The answer to one request. -/
structure Verdict where
  allowed : Bool
  remaining : Nat
  resetAt : Instant
  deriving DecidableEq

/-- Whether the window has ended before an instant. -/
def Bucket.elapsed (b : Bucket) (now : Instant) : Bool :=
  b.resetAt.millis < now.millis

/-- The answer to a request of a key with this window, or with none, and the window after it.
`window` is in milliseconds, and a new window takes its first request whatever the limit. -/
def Bucket.charge (bucket : Option Bucket) (window : Int) (limit : Nat) (now : Instant) :
    Bucket × Verdict :=
  let opened : Bucket × Verdict :=
    let resetAt := now.after window
    (⟨1, resetAt⟩, ⟨true, limit - 1, resetAt⟩)
  match bucket with
  | none => opened
  | some b =>
    if b.elapsed now then opened
    else if limit ≤ b.count then (b, ⟨false, 0, b.resetAt⟩)
    else (⟨b.count + 1, b.resetAt⟩, ⟨true, limit - (b.count + 1), b.resetAt⟩)

/-- The windows of all keys. -/
abbrev Ledger : Type := Table String Bucket

namespace Ledger

/-- Counts a request of a key. -/
def charge (l : Ledger) (key : String) (window : Int) (limit : Nat) (now : Instant) :
    Ledger × Verdict :=
  let (bucket, verdict) := Bucket.charge (l.get? key) window limit now
  (l.put key bucket, verdict)

/-- Drops the windows that have ended, and says how many those were. -/
def prune (l : Ledger) (now : Instant) : Ledger × Nat :=
  let kept := l.filter fun _ b => !b.elapsed now
  (kept, l.size - kept.size)

end Ledger

/-- The budget of one feature: so many requests in a window of so many milliseconds. -/
structure Policy where
  feature : String
  window : Int
  limit : Nat

namespace Policy

def discover : Policy := ⟨"datamuse", 60000, 90⟩
def dictionary : Policy := ⟨"dict", 60000, 30⟩
def wikipedia : Policy := ⟨"wp", 60000, 30⟩
def wikidata : Policy := ⟨"wd", 60000, 20⟩
def conceptnet : Policy := ⟨"cn", 60000, 20⟩
def projectSave : Policy := ⟨"proj", 60000, 60⟩

/-- The key of a client's budget. -/
def key (p : Policy) (client : String) : String :=
  p.feature ++ ":" ++ client

end Policy

/-- Counts a request of a client under a policy. -/
def Ledger.check (l : Ledger) (p : Policy) (client : String) (now : Instant) :
    Ledger × Verdict :=
  l.charge (p.key client) p.window p.limit now

end PromptStudio.Admission
