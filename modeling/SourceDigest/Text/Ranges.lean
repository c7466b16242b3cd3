/-!
Sets of characters given by sorted tables of code point ranges.
-/

namespace SourceDigest.Ranges

/-- Looks for `n` among the ranges with an index in `[low, high)`. -/
def indexIn (table : Array (Nat × Nat)) (n low high : Nat) : Option Nat :=
  if _h : low < high then
    let middle := (low + high) / 2
    match table[middle]? with
    | none => none
    | some (first, last) =>
      if n < first then indexIn table n low middle
      else if last < n then indexIn table n (middle + 1) high
      else some middle
  else none
  termination_by high - low

/-- The index of the range of a sorted table that holds `n`. -/
def index? (table : Array (Nat × Nat)) (n : Nat) : Option Nat :=
  indexIn table n 0 table.size

/-- Whether a range of a sorted table holds `n`. -/
def mem (table : Array (Nat × Nat)) (n : Nat) : Bool :=
  (index? table n).isSome

end SourceDigest.Ranges
