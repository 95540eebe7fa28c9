set_option autoImplicit false
set_option relaxedAutoImplicit false

/-!
# Cutting a text at a separator

## Main definitions

* `Text.cutFirst` — the parts before and after the first separator.
* `Text.pieces` — all parts between separators; one more than there are separators.
* `Text.afterLast` — the part after the last separator, the whole text if there is none.
* `Text.firstBytes` — the first part of a text that takes at most some number of bytes.
-/

namespace NullLint.Text

/-- The parts before and after the first `sep`, if there is one. -/
def cutChars (sep : Char) : List Char → Option (List Char × List Char)
  | [] => none
  | c :: cs =>
    if c = sep then some ([], cs)
    else (cutChars sep cs).map fun (before, after) => (c :: before, after)

/-- The parts of a text before and after its first `sep`, if there is one. -/
def cutFirst (sep : Char) (s : String) : Option (String × String) :=
  (cutChars sep s.toList).map fun (before, after) => (String.ofList before, String.ofList after)

/-- The parts between the separators; the first list is the part that is not finished yet. -/
def piecesChars (sep : Char) : List Char → List (List Char)
  | [] => [[]]
  | c :: cs =>
    if c = sep then [] :: piecesChars sep cs
    else
      match piecesChars sep cs with
      | [] => [[c]]
      | p :: ps => (c :: p) :: ps

/-- The parts of a text between its separators. -/
def pieces (sep : Char) (s : String) : List String :=
  (piecesChars sep s.toList).map String.ofList

/-- The characters after the last `sep`, all of them if there is none. -/
def afterLastChars (sep : Char) (cs : List Char) : List Char :=
  (cs.reverse.takeWhile (· ≠ sep)).reverse

/-- The part of a text after its last `sep`, the whole text if there is none. -/
def afterLast (sep : Char) (s : String) : String :=
  String.ofList (afterLastChars sep s.toList)

/-- The first characters that together take at most `room` bytes. -/
def firstBytesChars : Nat → List Char → List Char
  | _, [] => []
  | room, c :: cs =>
    if c.utf8Size ≤ room then c :: firstBytesChars (room - c.utf8Size) cs else []

/-- The longest first part of a text that takes at most `room` bytes. -/
def firstBytes (room : Nat) (s : String) : String :=
  String.ofList (firstBytesChars room s.toList)

end NullLint.Text
