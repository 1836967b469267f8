/-!
# Text/Ranges — membership of a code point in a table of ranges
-/

namespace AuditTrail.Text

/-- Some range `(first, last)` of the table holds the code point. -/
def inRanges (table : List (Nat × Nat)) (n : Nat) : Bool :=
  table.any fun range => range.1 ≤ n && n ≤ range.2

end AuditTrail.Text
