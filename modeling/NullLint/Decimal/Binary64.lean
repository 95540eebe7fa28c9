set_option autoImplicit false
set_option relaxedAutoImplicit false

/-!
# Double-precision numbers

A number with a fraction or an exponent is kept as a double: a sign and a magnitude
`mantissa · 2 ^ exponent`. The magnitudes are exact rational numbers here, and rounding is a
function on rational numbers, so nothing depends on the arithmetic of the machine.

## Main definitions

* `Decimal.Magnitude.nearest` — the magnitude nearest to a rational number, ties to the even
  mantissa; none when the number lies above the largest magnitude.
* `Decimal.Magnitude.scale` — a magnitude times a power of ten, rounded at each step.
* `Decimal.Binary64` — a finite double.
-/

namespace NullLint.Decimal

/-- A finite non-negative double, `mantissa · 2 ^ exponent`. -/
structure Magnitude where
  mantissa : Nat
  exponent : Int
  deriving DecidableEq, Repr, Inhabited

namespace Magnitude

/-- The zero magnitude. -/
def zero : Magnitude := ⟨0, -1074⟩

/-- The number that a magnitude stands for. -/
def toRat (m : Magnitude) : Rat :=
  (m.mantissa : Rat) * (2 : Rat) ^ m.exponent

/-- The integer nearest to a non-negative rational number, ties to the even one. -/
def roundEven (q : Rat) : Nat :=
  let n := q.floor.toNat
  let rest := q - (n : Rat)
  if rest < 1 / 2 then n
  else if 1 / 2 < rest then n + 1
  else if n % 2 = 0 then n else n + 1

/-- The largest `e` with `2 ^ e ≤ q`, for a positive rational number. -/
def binaryExponent (q : Rat) : Int :=
  let e : Int := (Nat.log2 q.num.toNat : Int) - (Nat.log2 q.den : Int)
  if (2 : Rat) ^ e ≤ q then e else e - 1

/-- The magnitude nearest to a non-negative rational number, ties to the even mantissa. There
is none when the number rounds to `2 ^ 1024` or more. -/
def nearest (q : Rat) : Option Magnitude :=
  if q ≤ 0 then some zero
  else
    let e := max (binaryExponent q - 52) (-1074)
    let n := roundEven (q / (2 : Rat) ^ e)
    let m : Magnitude := if n = Nat.pow 2 53 then ⟨Nat.pow 2 52, e + 1⟩ else ⟨n, e⟩
    if m.exponent ≤ 971 then some m else none

/-- The magnitude of a power of ten up to `10 ^ 308`. -/
def powerOfTen (k : Nat) : Rat :=
  ((nearest ((10 : Rat) ^ k)).getD zero).toRat

/-- A magnitude times `10 ^ k`, rounded after each multiplication or division. Exponents below
`-308` are taken in steps of `308`; a number too large has no magnitude. -/
def scale (m : Magnitude) (k : Int) : Option Magnitude :=
  if m.mantissa = 0 then some m
  else if 308 < k then none
  else if k < -308 then
    match nearest (m.toRat / powerOfTen 308) with
    | some m' => scale m' (k + 308)
    | none => none
  else if 0 ≤ k then nearest (m.toRat * powerOfTen k.toNat)
  else nearest (m.toRat / powerOfTen (-k).toNat)
termination_by k.natAbs
decreasing_by omega

end Magnitude

/-- A finite double: a sign and a magnitude. Zero has two signs. -/
structure Binary64 where
  negative : Bool
  magnitude : Magnitude
  deriving DecidableEq, Repr, Inhabited

end NullLint.Decimal
