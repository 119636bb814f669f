/-!
# Ranges of code points

A character property beyond ASCII is given by a table of closed ranges.
-/

namespace HubProxy.Text

/-- Whether a code point lies in one of the closed ranges. -/
def inRanges (ranges : List (Nat × Nat)) (n : Nat) : Bool :=
  ranges.any fun (first, last) => first ≤ n && n ≤ last

end HubProxy.Text
