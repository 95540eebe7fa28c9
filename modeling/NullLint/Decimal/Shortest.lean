import NullLint.Decimal.Binary64

set_option autoImplicit false
set_option relaxedAutoImplicit false

/-!
# The shortest text of a double

A double is written with the fewest decimal digits that read back as the same double; of the
texts with that many digits it takes the one nearest to the double. A number whose leading digit
stands at a place from `10 ^ -5` to `10 ^ 15` is written positionally and keeps at least one
digit after the point, any other with an exponent that carries its sign.

## Main definitions

* `Decimal.shortest` — the digits and the exponent of a positive magnitude.
* `Decimal.Binary64.text` — the text of a double.
-/

namespace NullLint.Decimal

/-- A decimal numeral `digits · 10 ^ exponent`. -/
structure Scaled where
  digits : Nat
  exponent : Int
  deriving DecidableEq, Repr

/-- The number that a decimal numeral stands for. -/
def Scaled.toRat (s : Scaled) : Rat :=
  (s.digits : Rat) * (10 : Rat) ^ s.exponent

/-- The numbers that round to a magnitude: from `lower` to `upper`, the two ends included
exactly when the mantissa is even. -/
structure Interval where
  lower : Rat
  upper : Rat
  closed : Bool

/-- Whether a number lies in the interval. -/
def Interval.holds (i : Interval) (q : Rat) : Bool :=
  if i.closed then decide (i.lower ≤ q) && decide (q ≤ i.upper)
  else decide (i.lower < q) && decide (q < i.upper)

/-- The numbers that round to a positive magnitude. Below a power of two the next smaller
magnitude is only half as far away. -/
def Magnitude.interval (m : Magnitude) : Interval :=
  let half : Rat := (2 : Rat) ^ (m.exponent - 1)
  let below := if m.mantissa = Nat.pow 2 52 && decide (-1074 < m.exponent) then half / 2 else half
  ⟨m.toRat - below, m.toRat + half, m.mantissa % 2 == 0⟩

/-- The least `k ≤ fuel` with `1 ≤ q · 10 ^ k`, for a positive number below one. -/
def leadingZeros (q : Rat) : Nat → Nat → Nat
  | 0, k => k
  | fuel + 1, k => if 1 ≤ q * (10 : Rat) ^ k then k else leadingZeros q fuel (k + 1)

/-- The largest `e` with `10 ^ e ≤ q`, for a positive magnitude's number. -/
def decimalExponent (q : Rat) : Int :=
  if 1 ≤ q then ((Nat.toDigits 10 q.floor.toNat).length : Int) - 1
  else -(leadingZeros q 400 1 : Int)

/-- The numeral nearest to `q` on the grid of multiples of `10 ^ k` that lies in the interval, if
one of the two neighbours of `q` does. Of two equally near the even one is taken. -/
def onGrid (q : Rat) (i : Interval) (k : Int) : Option Scaled :=
  let d := (q / (10 : Rat) ^ k).floor.toNat
  let low : Scaled := ⟨d, k⟩
  let high : Scaled := ⟨d + 1, k⟩
  match i.holds low.toRat, i.holds high.toRat with
  | true, true =>
    let down := q - low.toRat
    let up := high.toRat - q
    if down < up then some low
    else if up < down then some high
    else if d % 2 = 0 then some low else some high
  | true, false => some low
  | false, true => some high
  | false, false => none

/-- The first grid, from one digit to seventeen, that has a numeral in the interval. -/
def firstGrid (q : Rat) (i : Interval) (e : Int) : Nat → Nat → Scaled
  | 0, n => ⟨(q / (10 : Rat) ^ (e - n + 1)).floor.toNat, e - n + 1⟩
  | fuel + 1, n =>
    match onGrid q i (e - n + 1) with
    | some s => s
    | none => firstGrid q i e fuel (n + 1)

/-- The numeral with the fewest digits that reads back as the magnitude. -/
def shortest (m : Magnitude) : Scaled :=
  firstGrid m.toRat m.interval (decimalExponent m.toRat) 17 1

/-- Drops zeros at the end of a numeral's digits. -/
def dropZeros : Nat → Scaled → Scaled
  | 0, s => s
  | fuel + 1, s =>
    if s.digits ≠ 0 ∧ s.digits % 10 = 0 then dropZeros fuel ⟨s.digits / 10, s.exponent + 1⟩ else s

/-- The text of a positive numeral: positional from `10 ^ -5` to below `10 ^ 16`. -/
def Scaled.text (s : Scaled) : String :=
  let s := dropZeros 20 s
  let ds := Nat.toDigits 10 s.digits
  let place : Int := (ds.length : Int) - 1 + s.exponent
  if decide (-5 ≤ place) && decide (place ≤ 15) then
    if 0 ≤ s.exponent then
      String.ofList (ds ++ List.replicate s.exponent.toNat '0' ++ ['.', '0'])
    else if 0 ≤ place then
      String.ofList (ds.take (place.toNat + 1) ++ '.' :: ds.drop (place.toNat + 1))
    else
      String.ofList ('0' :: '.' :: List.replicate ((-place).toNat - 1) '0' ++ ds)
  else
    let fraction := match ds.drop 1 with
      | [] => []
      | rest => '.' :: rest
    let sign := if 0 ≤ place then '+' else '-'
    String.ofList (ds.take 1 ++ fraction ++ 'e' :: sign :: Nat.toDigits 10 place.natAbs)

/-- The text of a double. -/
def Binary64.text (x : Binary64) : String :=
  let sign := if x.negative then "-" else ""
  if x.magnitude.mantissa = 0 then sign ++ "0.0" else sign ++ (shortest x.magnitude).text

end NullLint.Decimal
