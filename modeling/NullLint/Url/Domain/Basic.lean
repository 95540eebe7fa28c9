import NullLint.Url.Domain.Label

set_option autoImplicit false
set_option relaxedAutoImplicit false

/-!
# Domain names

A domain name consists of labels with points between them. All names that are compared as the same
are written in the same way, with ASCII characters only.

## Main definitions

* `Url.Domain.ascii?` — a domain name as it is written.
-/

namespace NullLint.Url

/-- Characters that no host may contain. -/
def isForbidden (c : Char) : Bool :=
  ['\x00', '\t', '\n', '\r', ' ', '#', '/', ':', '<', '>', '?', '@', '[', '\\', ']', '^',
    '|'].contains c

namespace Domain

/-- Characters that no domain name may contain. -/
def isForbidden (c : Char) : Bool :=
  Url.isForbidden c || c.toNat < 0x20 || c.toNat == 0x7F || c == '%'

/-- The characters of a domain name as they are compared. -/
def folded? (cs : List Char) : Option (List Char) :=
  (cs.mapM fold?).map fun parts => Text.composed parts.flatten

/-- The labels of a domain name. If something in it is written from right to left the directions
must not be mixed in any label. -/
def labels? (cs : List Char) : Option (List Label) :=
  match folded? cs with
  | none => none
  | some name =>
    if name.any isForbidden then none
    else
      ((Text.piecesChars '.' name).mapM Label.parse?).filter fun labels =>
        !labels.any Label.hasRight || labels.all Label.isOneWay

/-- A domain name as it is written. -/
def ascii? (cs : List Char) : Option (List Char) :=
  (labels? cs).map fun labels => ['.'].intercalate (labels.map Label.ascii)

end Domain

end NullLint.Url
