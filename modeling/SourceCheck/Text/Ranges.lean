/-!
Sets of characters given as inclusive code point ranges in increasing order. A search stops at the
first range that begins past the code point.
-/

namespace SourceCheck.Text

abbrev Ranges := List (Nat × Nat)

def Ranges.covers : Ranges → Nat → Bool
  | [], _ => false
  | (low, high) :: rest, n =>
    if n < low then false else if n ≤ high then true else Ranges.covers rest n

end SourceCheck.Text
