/-!
# Ranges of code points

A property of characters is given by the ranges of code points that have it.
-/

namespace DeviceReadings

/-- Does a code point lie in one of the closed ranges? -/
def inRanges (ranges : List (Nat × Nat)) (n : Nat) : Bool :=
  ranges.any fun r => r.1 ≤ n && n ≤ r.2

end DeviceReadings
