/-!
# Tables of code points

The Unicode properties of this folder are tables of code point ranges.  A
table answers one question: does it hold a code point?
-/

namespace ImageSelect.Unicode

/-- Ranges of code points, both ends included. -/
abbrev Ranges := Array (Nat × Nat)

/-- Whether some range of the table holds the code point. -/
def Ranges.holds (table : Ranges) (code : Nat) : Bool :=
  table.any fun range => range.1 ≤ code && code ≤ range.2

end ImageSelect.Unicode
