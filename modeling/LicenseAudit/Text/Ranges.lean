/-!
# Ranges of code points

A class of characters is given by the list of its ranges, both ends included, in ascending order.
-/

namespace LicenseAudit

/-- Whether a code point lies in one of the ranges. -/
def inRanges (ranges : List (Nat × Nat)) (n : Nat) : Bool :=
  ranges.any fun r => r.1 ≤ n && n ≤ r.2

end LicenseAudit
