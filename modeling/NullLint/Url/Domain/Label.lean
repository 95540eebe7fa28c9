import NullLint.Text.Direction
import NullLint.Text.Joining
import NullLint.Text.NormalForm
import NullLint.Url.Domain.Folding
import NullLint.Url.Punycode

set_option autoImplicit false
set_option relaxedAutoImplicit false

/-!
# Labels of domain names

A label with characters beyond ASCII is written with ASCII characters only, after a mark that tells
it from the labels that are written as they are. It has to be one that a reader can tell from
others: it does not start with a mark, invisible joiners stand only where they make a difference,
and its directions of writing are not mixed.

## Main definitions

* `Url.Domain.Label` — a label, as it is read and as it is written.
* `Url.Domain.Label.parse?` — the label of some characters, which are folded and composed.
* `Url.Domain.Label.isOneWay` — whether the directions in a label are not mixed.
-/

namespace NullLint.Url.Domain

open Text

/-! ### Joiners -/

/-- Whether a character is an invisible sign that parts two letters or joins them. -/
def isJoiner (c : Char) : Bool :=
  c == '\u200C' || c == '\u200D'

/-- The first character that is not looked through when letters are joined. -/
def firstSolid? (cs : List Char) : Option Char :=
  (cs.dropWhile fun c => joining c == .through).head?

/-- Whether a joiner makes a difference, by the characters before it, the nearest first, and those
after it: it stands after a sign that takes away a vowel, or it parts two letters. -/
def joinerCounts (joiner : Char) (before after : List Char) : Bool :=
  (before.head?.any fun c => combiningClass c.toNat == 9) ||
    (joiner == '\u200C' && (firstSolid? before).any (fun c => (joining c).joinsNext) &&
      (firstSolid? after).any fun c => (joining c).joinsPrevious)

/-- Whether all joiners in some characters make a difference. -/
def joinersCount (before : List Char) : List Char → Bool
  | [] => true
  | c :: cs => (!isJoiner c || joinerCounts c before cs) && joinersCount (c :: before) cs

/-! ### Labels -/

/-- A label: the characters it is read as, and the ASCII characters it is written with. -/
structure Label where
  characters : List Char
  ascii : List Char
  deriving DecidableEq, Repr

namespace Label

/-- What comes before the ASCII characters that stand for others. -/
def mark : List Char := ['x', 'n', '-', '-']

/-- Whether all characters are ASCII characters. -/
def isPlain (cs : List Char) : Bool :=
  cs.all fun c => c.toNat < 0x80

/-- Whether folded characters beyond ASCII are a label. -/
def isReadable (cs : List Char) : Bool :=
  !mark.isPrefixOf cs && !(cs.head?.any isMark) && joinersCount [] cs

/-- Whether characters are folded and composed. -/
def isFolded (cs : List Char) : Bool :=
  (cs.all fun c => fold? c == some [c]) && composed cs == cs

/-- The label that ASCII characters after the mark stand for. -/
def decode? (cs : List Char) : Option (List Char) :=
  if 2000 < cs.length then none
  else
    (Punycode.decode? cs).filter fun label =>
      !isPlain label && isFolded label && isReadable label

/-- The label of folded and composed characters. -/
def parse? (cs : List Char) : Option Label :=
  if isPlain cs then
    match cs with
    | 'x' :: 'n' :: '-' :: '-' :: rest => (decode? rest).map fun label => ⟨label, cs⟩
    | _ => some ⟨cs, cs⟩
  else if cs.length ≤ 1000 && isReadable cs then some ⟨cs, mark ++ Punycode.encode cs⟩
  else none

/-! ### Directions -/

/-- The directions of the characters of a label. -/
def directions (l : Label) : List Direction :=
  l.characters.map direction

/-- Whether something in a label is written from right to left. -/
def hasRight (l : Label) : Bool :=
  l.directions.any fun d => d == .right || d == .arabicNumber

/-- The last direction, apart from those of marks. -/
def lastDirection? (ds : List Direction) : Option Direction :=
  (ds.filter (· != .mark)).getLast?

/-- Whether the directions in a label are not mixed: it starts with a letter and goes on with what
follows the direction of that letter. -/
def isOneWay (l : Label) : Bool :=
  let ds := l.directions
  match ds.head? with
  | none => true
  | some .left =>
    !ds.contains .right && !ds.contains .arabicNumber &&
      (lastDirection? ds).any [.left, .number].contains
  | some .right =>
    !ds.contains .left && !(ds.contains .number && ds.contains .arabicNumber) &&
      (lastDirection? ds).any [.right, .number, .arabicNumber].contains
  | some _ => false

end Label

end NullLint.Url.Domain
