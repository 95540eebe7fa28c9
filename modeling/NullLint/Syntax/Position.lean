set_option autoImplicit false
set_option relaxedAutoImplicit false

/-!
# Source positions

A position is a line and a column of 32 bits each. Positions are ordered by line, then by column,
so that the smaller of two positions of one file is the one that comes first.

## Main definitions

* `Syntax.Position`, its order, `Syntax.Position.min` and `Syntax.Position.text`.
-/

namespace NullLint.Syntax

/-- A line and a column of a source file. -/
structure Position where
  line : UInt32
  column : UInt32
  deriving DecidableEq, Repr, Inhabited

namespace Position

/-- Whether a position comes before another one or is equal to it. -/
def le (p q : Position) : Bool :=
  decide (p.line < q.line) || (decide (p.line = q.line) && decide (p.column ≤ q.column))

instance : LE Position := ⟨fun p q => p.le q = true⟩

instance (p q : Position) : Decidable (p ≤ q) :=
  inferInstanceAs (Decidable (p.le q = true))

/-- The first of two positions. -/
protected def min (p q : Position) : Position :=
  if p ≤ q then p else q

instance : Min Position := ⟨Position.min⟩

/-- A position as it is shown in messages. -/
def text (p : Position) : String :=
  toString p.line.toNat ++ ":" ++ toString p.column.toNat

/-- The positions of a list in their order. -/
def sorted (ps : List Position) : List Position :=
  ps.mergeSort Position.le

end Position

end NullLint.Syntax
