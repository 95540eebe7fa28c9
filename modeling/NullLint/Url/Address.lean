import NullLint.Text.Cut
import NullLint.Url.Percent

set_option autoImplicit false
set_option relaxedAutoImplicit false

/-!
# Addresses of hosts

A host can be given by an address of 32 bits, as up to four numbers with points between them, or by
an address of 128 bits, as eight groups of hexadecimal digits with colons between them. A number of
the short form may be decimal, octal after a zero, or hexadecimal after `0x`; the last one fills
all bytes that are left.

## Main definitions

* `Url.endsInNumber` — whether a name has to be an address of the short form.
* `Url.parseShort`, `Url.shortText` — reading and writing addresses of 32 bits.
* `Url.parseLong`, `Url.longText` — reading and writing addresses of 128 bits.
-/

namespace NullLint.Url

/-- The number that digits of a base stand for; there have to be only digits. -/
def digitsValue? (base : Nat) (cs : List Char) : Option Nat :=
  cs.foldl (fun acc c =>
    match acc, hexValue? c with
    | some n, some d => if d < base then some (base * n + d) else none
    | _, _ => none) (some 0)

/-- A number of an address of the short form. -/
def shortNumber? : List Char → Option Nat
  | [] => none
  | '0' :: 'x' :: cs => digitsValue? 16 cs
  | '0' :: 'X' :: cs => digitsValue? 16 cs
  | '0' :: c :: cs => digitsValue? 8 (c :: cs)
  | cs => digitsValue? 10 cs

/-- The parts of a name between points, without an empty one at the end. -/
def nameParts (cs : List Char) : List (List Char) :=
  let parts := Text.piecesChars '.' cs
  if 1 < parts.length && (parts.getLast?.getD []).isEmpty then parts.dropLast else parts

/-- Whether the last part of a name is a number, so that the name has to be an address. -/
def endsInNumber (cs : List Char) : Bool :=
  match (nameParts cs).getLast? with
  | none => false
  | some part =>
    (!part.isEmpty && part.all Char.isDigit) || (shortNumber? part).isSome

/-- The value of the numbers of an address: each but the last is a byte, the last one fills the
bytes that are left. -/
def shortValue? (numbers : List Nat) : Option Nat :=
  match numbers.reverse with
  | [] => none
  | last :: bytes =>
    let bound := Nat.pow 256 (4 - bytes.length)
    if 4 < numbers.length || bytes.any (255 < ·) || bound ≤ last then none
    else some ((bytes.reverse.foldl (fun acc b => 256 * acc + b) 0) * bound + last)

/-- The address of 32 bits that a name stands for. -/
def parseShort (cs : List Char) : Option Nat :=
  ((nameParts cs).mapM shortNumber?).bind shortValue?

/-- An address of 32 bits as it is written. -/
def shortText (n : Nat) : String :=
  String.intercalate "."
    ([n / Nat.pow 256 3, n / Nat.pow 256 2 % 256, n / 256 % 256, n % 256].map toString)

/-- A byte in decimal, without zeros before it. -/
def plainByte? : List Char → Option Nat
  | [] => none
  | ['0'] => some 0
  | '0' :: _ => none
  | cs => if cs.all Char.isDigit then (digitsValue? 10 cs).filter (· ≤ 255) else none

/-- The two groups that an address of the short form at the end of a long one stands for. -/
def embedded? (cs : List Char) : Option (List Nat) :=
  match (Text.piecesChars '.' cs).mapM plainByte? with
  | some [a, b, c, d] => some [256 * a + b, 256 * c + d]
  | _ => none

/-- The groups of an address, and the number of groups before the gap if there is one. The gap
counts as one group. -/
structure Groups where
  values : List Nat := []
  gap : Option Nat := none
  deriving Repr

/-- Reads groups; `fuel` bounds their number. -/
def readGroups : Nat → Groups → List Char → Option Groups
  | _, g, [] => some g
  | 0, _, _ :: _ => none
  | fuel + 1, g, ':' :: cs =>
    if g.gap.isSome then none
    else readGroups fuel ⟨g.values ++ [0], some (g.values.length + 1)⟩ cs
  | fuel + 1, g, cs =>
    let digits := (cs.take 4).takeWhile fun c => (hexValue? c).isSome
    match cs.drop digits.length with
    | [] => (digitsValue? 16 digits).map fun n => { g with values := g.values ++ [n] }
    | '.' :: _ =>
      if digits.isEmpty || 6 < g.values.length then none
      else (embedded? cs).map fun ns => { g with values := g.values ++ ns }
    | ':' :: c :: rest =>
      (digitsValue? 16 digits).bind fun n =>
        readGroups fuel { g with values := g.values ++ [n] } (c :: rest)
    | _ => none

/-- All eight groups of an address. -/
def Groups.filled? (g : Groups) : Option (List Nat) :=
  match g.gap with
  | none => if g.values.length = 8 then some g.values else none
  | some n =>
    if 8 < g.values.length then none
    else some (g.values.take n ++ List.replicate (8 - g.values.length) 0 ++ g.values.drop n)

/-- The address of 128 bits that a text stands for. -/
def parseLong : List Char → Option (List Nat)
  | ':' :: ':' :: cs => (readGroups 7 ⟨[0], some 1⟩ cs).bind Groups.filled?
  | ':' :: _ => none
  | cs => if cs.length < 2 then none else (readGroups 8 {} cs).bind Groups.filled?

/-- The first longest run of zeros: where it starts and how long it is. -/
def zeroRun (groups : List Nat) : Nat × Nat :=
  (List.range groups.length).foldl (fun best i =>
    let n := ((groups.drop i).takeWhile (· == 0)).length
    if best.2 < n then (i, n) else best) (0, 0)

/-- A group in hexadecimal. -/
def groupText (n : Nat) : String :=
  String.ofList (Nat.toDigits 16 n)

/-- An address of 128 bits as it is written: the longest run of at least two zeros is left out. -/
def longText (groups : List Nat) : String :=
  let all := groups.map groupText
  let (start, length) := zeroRun groups
  if length < 2 then String.intercalate ":" all
  else
    String.intercalate ":" (all.take start) ++ "::" ++
      String.intercalate ":" (all.drop (start + length))

end NullLint.Url
