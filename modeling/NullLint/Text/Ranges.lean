set_option autoImplicit false
set_option relaxedAutoImplicit false

/-!
# Sets of characters given by ranges

Unicode properties are published as lists of code point ranges. The tables of this library
hold the ranges above the ASCII characters; each property decides the ASCII characters by a
rule of its own, so that reading a plain identifier consults no table.
-/

namespace NullLint.Text

/-- Code point ranges, both ends included. -/
abbrev Ranges := List (Nat × Nat)

/-- Whether a code point lies in one of the ranges. -/
def Ranges.contain (r : Ranges) (n : Nat) : Bool :=
  r.any fun p => p.1 ≤ n && n ≤ p.2

end NullLint.Text
