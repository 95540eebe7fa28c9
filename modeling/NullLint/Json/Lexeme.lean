import NullLint.Json.Value

set_option autoImplicit false
set_option relaxedAutoImplicit false

/-!
# The lexemes of JSON text

The words `null`, `true` and `false`, the numerals and the strings. A lexeme is described as it
stands in the text: reading it goes as far as its form allows and says where it stops. What the
lexeme is worth (whether a numeral is in range, whether the escapes of a string make up
characters) is decided later, by whoever uses it, because a value that is skipped is not judged.

## Main definitions

* `Json.Word`, `Json.scanWord` — words.
* `Json.Numeral`, `Json.scanNumeral`, `Json.Numeral.value?` — numerals and their numbers.
* `Json.Quoted`, `Json.scanQuoted` — strings, up to the mark that closes them.
-/

namespace NullLint.Json

/-- The blanks of JSON text. -/
def isSpace (c : Char) : Bool :=
  c == ' ' || c == '\n' || c == '\t' || c == '\r'

/-- The text from its first character that is not a blank. -/
def skipSpace (s : List Char) : List Char :=
  s.dropWhile isSpace

/-! ### Words -/

/-- The three words. -/
inductive Word where
  | null
  | true
  | false
  deriving DecidableEq, Repr

/-- The letters of a word. -/
def Word.letters : Word → List Char
  | .null => ['n', 'u', 'l', 'l']
  | .true => ['t', 'r', 'u', 'e']
  | .false => ['f', 'a', 'l', 's', 'e']

/-- Why a word cannot be read: the text ends in it, or another letter follows. -/
inductive WordStop where
  | ended
  | other
  deriving DecidableEq, Repr

/-- Reads the given letters off a text. -/
def scanLetters : List Char → List Char → Except WordStop (List Char)
  | [], s => .ok s
  | _ :: _, [] => .error .ended
  | l :: ls, c :: s => if c = l then scanLetters ls s else .error .other

/-- Reads a word off a text; the result is the text after it. -/
def scanWord (w : Word) (s : List Char) : Except WordStop (List Char) :=
  scanLetters w.letters s

/-! ### Numerals -/

/-- A numeral: its sign, the digits before and after the point, and its exponent. -/
structure Numeral where
  negative : Bool
  whole : List Char
  fraction : Option (List Char)
  exponent : Option Int
  deriving DecidableEq, Repr

/-- Why a numeral cannot be read: where a digit has to stand, the text ends or another character
stands; or a digit stands after a leading zero. -/
inductive NumeralStop where
  | ended
  | noDigit
  deriving DecidableEq, Repr

/-- Reads one digit or more off a text. -/
def scanDigits (s : List Char) : Except NumeralStop (List Char × List Char) :=
  match s with
  | [] => .error .ended
  | c :: _ =>
    if c.isDigit then .ok (s.takeWhile Char.isDigit, s.dropWhile Char.isDigit)
    else .error .noDigit

/-- Reads the digits before the point: a single zero, or digits that start with another one. -/
def scanWhole (s : List Char) : Except NumeralStop (List Char × List Char) :=
  match s with
  | '0' :: c :: s' => if c.isDigit then .error .noDigit else .ok (['0'], c :: s')
  | s => scanDigits s

/-- The number that a list of decimal digits stands for. -/
def digitsValue (ds : List Char) : Nat :=
  ds.foldl (fun n d => 10 * n + (d.toNat - '0'.toNat)) 0

/-- Reads the point and the digits after it, if there is a point. -/
def scanFraction (s : List Char) : Except NumeralStop (Option (List Char) × List Char) :=
  match s with
  | '.' :: s' => (scanDigits s').map fun (ds, rest) => (some ds, rest)
  | s => .ok (none, s)

/-- Reads the sign of an exponent, if there is one: whether it is a minus, and the rest. -/
def scanSign (s : List Char) : Bool × List Char :=
  match s with
  | '+' :: s' => (false, s')
  | '-' :: s' => (true, s')
  | s => (false, s)

/-- Reads the exponent, if there is one. -/
def scanExponent (s : List Char) : Except NumeralStop (Option Int × List Char) :=
  match s with
  | c :: s' =>
    if c = 'e' ∨ c = 'E' then
      let (minus, s'') := scanSign s'
      (scanDigits s'').map fun (ds, rest) =>
        let n : Int := digitsValue ds
        (some (if minus then -n else n), rest)
    else .ok (none, c :: s')
  | [] => .ok (none, [])

/-- Reads a numeral off a text that starts with a digit or a minus. -/
def scanNumeral (s : List Char) : Except NumeralStop (Numeral × List Char) := do
  let (negative, s) := match s with
    | '-' :: s' => (true, s')
    | s => (false, s)
  let (whole, s) ← scanWhole s
  let (fraction, s) ← scanFraction s
  let (exponent, s) ← scanExponent s
  return (⟨negative, whole, fraction, exponent⟩, s)

/-- The largest integer of 64 bits without sign. -/
def maxNatural : Nat := UInt64.size - 1

/-- Takes digits into an integer as long as it stays within 64 bits. The result is the integer and
the digits that did not fit. -/
def absorb (n : Nat) : List Char → Nat × List Char
  | [] => (n, [])
  | d :: ds =>
    let n' := 10 * n + (d.toNat - '0'.toNat)
    if n' ≤ maxNatural then absorb n' ds else (n, d :: ds)

/-- The number of a numeral; none when it is too large for a double. An integer is kept exactly
when it fits into 64 bits, with its sign if it has one. Of any other numeral the digits that fit
into 64 bits are taken, the rest count as places only. Minus zero is a double. -/
def Numeral.value? (x : Numeral) : Option Number :=
  let (n, dropped) := absorb 0 x.whole
  if x.fraction.isNone && x.exponent.isNone && dropped.isEmpty &&
      (!x.negative || (decide (0 < n) && decide (n ≤ Nat.pow 2 63))) then
    some (.integer (if x.negative then -(n : Int) else n))
  else
    let fraction := x.fraction.getD []
    let (n, left) := absorb n fraction
    let places : Int := dropped.length - (fraction.length - left.length : Nat)
    let m := (Decimal.Magnitude.nearest n).getD Decimal.Magnitude.zero
    (m.scale (places + x.exponent.getD 0)).map fun m => .real ⟨x.negative, m⟩

/-! ### Strings -/

/-- A piece of a string: a character, also when written as a short escape, or the sixteen bits of
an escape `\u`. -/
inductive Piece where
  | char (c : Char)
  | unit (n : Nat)
  deriving DecidableEq, Repr

/-- Where reading a string stops: at the mark that closes it; at the end of the text; at a control
character; at an escape of an unknown letter; at an escape `\u` without four digits. -/
inductive QuotedStop where
  | closed
  | ended
  | control
  | unknownEscape
  | badUnit
  deriving DecidableEq, Repr

/-- A string as it stands in the text, up to where reading stops. -/
structure Quoted where
  pieces : List Piece
  stop : QuotedStop
  deriving DecidableEq, Repr

/-- The value of a digit in base sixteen. -/
def hexValue (c : Char) : Option Nat :=
  if c.isDigit then some (c.toNat - '0'.toNat)
  else if 'a' ≤ c ∧ c ≤ 'f' then some (c.toNat - 'a'.toNat + 10)
  else if 'A' ≤ c ∧ c ≤ 'F' then some (c.toNat - 'A'.toNat + 10)
  else none

/-- The value of four digits in base sixteen. -/
def unitValue (a b c d : Char) : Option Nat := do
  let a ← hexValue a
  let b ← hexValue b
  let c ← hexValue c
  let d ← hexValue d
  return ((a * 16 + b) * 16 + c) * 16 + d

/-- The number of bytes of a text. -/
def byteCount (s : List Char) : Nat :=
  s.foldr (fun c n => c.utf8Size + n) 0

/-- Why an escape `\u` has no four digits: the text ends within four bytes of it, or not. -/
def unitStop (s : List Char) : QuotedStop :=
  if byteCount (s.take 4) < 4 then .ended else .badUnit

/-- The character of a short escape. -/
def shortEscape (c : Char) : Option Char :=
  match c with
  | '"' => some '"'
  | '\\' => some '\\'
  | '/' => some '/'
  | 'b' => some '\x08'
  | 'f' => some '\x0c'
  | 'n' => some '\n'
  | 'r' => some '\r'
  | 't' => some '\t'
  | _ => none

/-- Puts a piece in front of a string that was read. -/
def Quoted.push (p : Piece) (r : Quoted × List Char) : Quoted × List Char :=
  (⟨p :: r.1.pieces, r.1.stop⟩, r.2)

/-- Reads a string off the text after its opening mark. The rest is the text after the closing
mark; when the string is not closed nothing of the text is left. -/
def scanQuoted : List Char → Quoted × List Char
  | [] => (⟨[], .ended⟩, [])
  | '"' :: s => (⟨[], .closed⟩, s)
  | ['\\'] => (⟨[], .ended⟩, [])
  | '\\' :: 'u' :: a :: b :: c :: d :: s =>
    match unitValue a b c d with
    | some n => Quoted.push (.unit n) (scanQuoted s)
    | none => (⟨[], .badUnit⟩, [])
  | '\\' :: 'u' :: s => (⟨[], unitStop s⟩, [])
  | '\\' :: e :: s =>
    match shortEscape e with
    | some c => Quoted.push (.char c) (scanQuoted s)
    | none => (⟨[], .unknownEscape⟩, [])
  | c :: s =>
    if c.toNat < 0x20 then (⟨[], .control⟩, []) else Quoted.push (.char c) (scanQuoted s)

end NullLint.Json
