/-!
Lists of pairs as maps that remember the order in which keys came.
-/

namespace SourceDigest.Keyed

variable {κ β : Type} [DecidableEq κ]

/-- Puts a value under a key: in the place of the one that is there, or at the end. -/
def insert (entries : List (κ × β)) (key : κ) (v : β) : List (κ × β) :=
  if (entries.lookup key).isSome then
    entries.map fun e => if e.1 = key then (key, v) else e
  else entries ++ [(key, v)]

/-- The map of pairs; of several values of one key the last one stays, in the place of the
first. -/
def ofList (pairs : List (κ × β)) : List (κ × β) :=
  pairs.foldl (fun entries pair => insert entries pair.1 pair.2) []

end SourceDigest.Keyed
