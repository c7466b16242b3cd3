import SourceDigest.Analysis.RollingHash
import SourceDigest.Keyed
import SourceDigest.Metrics

/-!
The memory of an analyzer: metrics under the path and the hash of the content, and how often
something was found. Nothing is ever forgotten but all at once.
-/

namespace SourceDigest

abbrev Memo.Key := String × Int

/-- Stored metrics and counters. A memo that is not enabled stores and counts nothing. -/
structure Memo (α : Type) where
  enabled : Bool
  entries : List (Memo.Key × Metrics α)
  hits : Nat
  misses : Nat
  deriving DecidableEq, Repr

namespace Memo

variable {α : Type}

def new (enabled : Bool) : Memo α :=
  ⟨enabled, [], 0, 0⟩

def keyFor (path content : String) : Key :=
  (path, rollingHash content)

/-- Looks a key up and counts whether it was found. -/
def get (memo : Memo α) (key : Key) : Option (Metrics α) × Memo α :=
  if memo.enabled then
    match memo.entries.lookup key with
    | some m => (some m, { memo with hits := memo.hits + 1 })
    | none => (none, { memo with misses := memo.misses + 1 })
  else (none, memo)

/-- Stores metrics under a key, in place of those stored there before. -/
def set (memo : Memo α) (key : Key) (m : Metrics α) : Memo α :=
  if memo.enabled then { memo with entries := Keyed.insert memo.entries key m } else memo

/-- Forgets all entries; the counters stay. -/
def clear (memo : Memo α) : Memo α :=
  { memo with entries := [] }

def size (memo : Memo α) : Nat :=
  memo.entries.length

end Memo

end SourceDigest
