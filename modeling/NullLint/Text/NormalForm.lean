import NullLint.Text.CombiningClass
import NullLint.Text.Composite

set_option autoImplicit false
set_option relaxedAutoImplicit false

/-!
# The composed normal form

The same text can be written with composites or with their parts, and with marks in different
orders. In the composed normal form all parts that have a composite are written as one, and marks
are in the order of their classes.

## Main definitions

* `Text.separated` — a text without composites.
* `Text.ordered` — a text with its marks in the order of their classes.
* `Text.joined` — a text with its parts put together.
* `Text.composed` — a text in the composed normal form.
-/

namespace NullLint.Text

/-- The parts of a character that are no composites, with a bound on how often one is taken
apart. -/
def partsWithin : Nat → Nat → List Nat
  | 0, n => [n]
  | fuel + 1, n =>
    match partsOf? n with
    | none => [n]
    | some (a, b) => partsWithin fuel a ++ [b]

/-- A text without composites. A character consists of four parts at most. -/
def separated (ns : List Nat) : List Nat :=
  ns.flatMap (partsWithin 3)

/-- Puts a character before a text in which the marks are in order. -/
def placeByClass (n : Nat) : List Nat → List Nat
  | [] => [n]
  | m :: ms =>
    if 0 < combiningClass m && combiningClass m < combiningClass n then m :: placeByClass n ms
    else n :: m :: ms

/-- A text with its marks in the order of their classes. -/
def ordered (ns : List Nat) : List Nat :=
  ns.foldr placeByClass []

/-- Puts the parts after a character together with it. The marks that could not be are `marks`, the
last of which is of the class `last`; a mark is reached only past marks of lower classes. -/
def joinedFrom (n : Nat) (marks : List Nat) (last : Nat) : List Nat → List Nat
  | [] => n :: marks
  | m :: ms =>
    match if marks.isEmpty || last < combiningClass m then composite? n m else none with
    | some c => joinedFrom c marks last ms
    | none =>
      if combiningClass m = 0 then (n :: marks) ++ joinedFrom m [] 0 ms
      else joinedFrom n (marks ++ [m]) (combiningClass m) ms

/-- A text with its parts put together. -/
def joined : List Nat → List Nat
  | [] => []
  | n :: ns => joinedFrom n [] 0 ns

/-- A text in the composed normal form. Without marks and letters of Hangul it is in that form as
it is. -/
def composed (cs : List Char) : List Char :=
  if cs.all fun c => c.toNat < 0x300 then cs
  else (joined (ordered (separated (cs.map Char.toNat)))).map Char.ofNat

end NullLint.Text
