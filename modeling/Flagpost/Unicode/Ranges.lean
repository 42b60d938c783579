/-!
# Flagpost — character classes as ranges

A Unicode property is given as the ascending list of its code point ranges;
membership is a look-up in that list. The tables themselves are one module
per property.
-/

namespace Flagpost.Unicode

/-- Does the code point lie in one of the ranges? -/
def inRanges (table : List (Nat × Nat)) (n : Nat) : Bool :=
  table.any fun range => range.1 ≤ n && n ≤ range.2

end Flagpost.Unicode
