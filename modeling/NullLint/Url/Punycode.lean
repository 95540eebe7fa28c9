set_option autoImplicit false
set_option relaxedAutoImplicit false

/-!
# Punycode

A label of a domain name with characters beyond ASCII is written with ASCII characters only: first
the ASCII characters of the label, then, after a hyphen, the others as numbers. The others are
taken in the order of their code points; each number tells how far to go on from the one before,
counting all places in which the character could be inserted. The numbers are written with digits
of base 36 whose thresholds adapt to the numbers so far.

## Main definitions

* `Url.Punycode.encode`, `Url.Punycode.decode?` — writing and reading a label.
-/

namespace NullLint.Url.Punycode

/-- The character of a digit. -/
def digitChar (d : Nat) : Char :=
  if d < 26 then Char.ofNat (0x61 + d) else Char.ofNat (0x30 + (d - 26))

/-- The digit of a character. -/
def digitValue? (c : Char) : Option Nat :=
  if 'a' ≤ c ∧ c ≤ 'z' then some (c.toNat - 0x61)
  else if 'A' ≤ c ∧ c ≤ 'Z' then some (c.toNat - 0x41)
  else if '0' ≤ c ∧ c ≤ '9' then some (c.toNat - 0x30 + 26)
  else none

/-- The threshold of a digit: a smaller digit is the last one of its number. -/
def threshold (weight bias : Nat) : Nat :=
  if weight ≤ bias then 1 else if bias + 26 ≤ weight then 26 else weight - bias

theorem threshold_pos (weight bias : Nat) : 1 ≤ threshold weight bias := by
  unfold threshold
  split
  · omega
  · split <;> omega

/-- How many digits a typical number needs, as a bias for the thresholds. -/
def settle (delta weight : Nat) : Nat :=
  if 455 < delta then settle (delta / 35) (weight + 36)
  else weight + 36 * delta / (delta + 38)
termination_by delta
decreasing_by exact Nat.div_lt_self (by omega) (by omega)

/-- The bias after a number, by how many characters have been inserted. -/
def adapt (delta count : Nat) (first : Bool) : Nat :=
  let d := if first then delta / 700 else delta / 2
  settle (d + d / count) 0

/-- A number as digits. -/
def digits (bias weight n : Nat) : List Char :=
  if n < threshold weight bias then [digitChar n]
  else
    digitChar (threshold weight bias +
        (n - threshold weight bias) % (36 - threshold weight bias)) ::
      digits bias (weight + 36) ((n - threshold weight bias) / (36 - threshold weight bias))
termination_by n
decreasing_by
  have h := threshold_pos weight bias
  exact Nat.lt_of_le_of_lt (Nat.div_le_self _ _) (by omega)

/-- The state of writing a label: the digits so far, the distance from the last insertion, the
bias, and how many characters are written. -/
structure Writer where
  out : List Char := []
  delta : Nat := 0
  bias : Nat := 72
  written : Nat

/-- Passes a character of the label while those with the code point `n` are inserted; `basic` is
the number of ASCII characters. -/
def Writer.pass (basic n : Nat) (w : Writer) (c : Char) : Writer :=
  if c.toNat < n then { w with delta := w.delta + 1 }
  else if c.toNat = n then
    { out := w.out ++ digits w.bias 36 w.delta
      delta := 0
      bias := adapt w.delta (w.written + 1) (w.written == basic)
      written := w.written + 1 }
  else w

/-- Inserts the characters with the code points of a list, which is in order; all characters below
`n` are written. -/
def Writer.insertAll (label : List Char) (basic : Nat) : Nat → List Nat → Writer → Writer
  | _, [], w => w
  | n, m :: ms, w =>
    let w := { w with delta := w.delta + (m - n) * (w.written + 1) }
    let w := label.foldl (Writer.pass basic m) w
    Writer.insertAll label basic (m + 1) ms { w with delta := w.delta + 1 }

/-- The characters of a label that are written as they are. -/
def basicOf (label : List Char) : List Char :=
  label.filter fun c => c.toNat < 0x80

/-- The code points of a label beyond ASCII, each once, in their order. -/
def pointsOf (label : List Char) : List Nat :=
  (((label.map Char.toNat).filter (0x80 ≤ ·)).eraseDups).mergeSort

/-- A label with ASCII characters only. -/
def encode (label : List Char) : List Char :=
  let basic := basicOf label
  let w := Writer.insertAll label basic.length 0x80 (pointsOf label) { written := basic.length }
  (if basic.isEmpty then [] else basic ++ ['-']) ++ w.out

/-- Reads a number: the value it adds to `n`, and the rest. -/
def readNumber (bias : Nat) : Nat → Nat → Nat → List Char → Option (Nat × List Char)
  | _, _, _, [] => none
  | weight, factor, n, c :: cs =>
    match digitValue? c with
    | none => none
    | some d =>
      let t := threshold weight bias
      if d < t then some (n + d * factor, cs)
      else readNumber bias (weight + 36) (factor * (36 - t)) (n + d * factor) cs

/-- Inserts characters as the numbers say, at most `fuel` of them. -/
def insertNumbers : Nat → Nat → Nat → Nat → List Char → List Char → Option (List Char)
  | _, _, _, _, out, [] => some out
  | 0, _, _, _, _, _ :: _ => none
  | fuel + 1, bias, n, i, out, c :: cs =>
    match readNumber bias 36 1 i (c :: cs) with
    | none => none
    | some (j, rest) =>
      let count := out.length + 1
      let m := n + j / count
      if 0x10FFFF < m || (0xD800 ≤ m && m ≤ 0xDFFF) then none
      else
        insertNumbers fuel (adapt (j - i) count (i == 0)) m (j % count + 1)
          (out.insertIdx (j % count) (Char.ofNat m)) rest

/-- The label that ASCII characters stand for. A hyphen is there only if something stands before
it. -/
def decode? (cs : List Char) : Option (List Char) :=
  let tail := (cs.reverse.takeWhile (· != '-')).reverse
  let head := cs.take (cs.length - tail.length - 1)
  if head.isEmpty && tail.length < cs.length then none
  else insertNumbers cs.length 72 0x80 0 head tail

end NullLint.Url.Punycode
