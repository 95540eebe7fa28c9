set_option autoImplicit false
set_option relaxedAutoImplicit false

/-!
# Percent-encoding

A character that has a meaning of its own in some part of a URL, or cannot be written there, stands
as the bytes of its encoding, each as a percent sign and two hexadecimal digits. Which characters
these are depends on the part of the URL.

## Main definitions

* `Url.encode` — characters with those of a set encoded.
* `Url.fragmentSet`, `Url.querySet`, `Url.pathSet`, `Url.userinfoSet` — what is encoded in the parts
  of a URL.
* `Url.decode` — the bytes that percent-encoded characters stand for.
-/

namespace NullLint.Url

/-- A hexadecimal digit. -/
def hexDigit (n : Nat) : Char :=
  if n < 10 then Char.ofNat (0x30 + n) else Char.ofNat (0x41 + (n - 10))

/-- The value of a hexadecimal digit. -/
def hexValue? (c : Char) : Option Nat :=
  if '0' ≤ c ∧ c ≤ '9' then some (c.toNat - 0x30)
  else if 'a' ≤ c ∧ c ≤ 'f' then some (c.toNat - 0x61 + 10)
  else if 'A' ≤ c ∧ c ≤ 'F' then some (c.toNat - 0x41 + 10)
  else none

/-- A byte as a percent sign and two digits. -/
def encodeByte (b : UInt8) : List Char :=
  ['%', hexDigit (b.toNat / 16), hexDigit (b.toNat % 16)]

/-- A character, encoded if it belongs to the set. -/
def encodeChar (set : Char → Bool) (c : Char) : List Char :=
  if set c then (String.utf8EncodeChar c).flatMap encodeByte else [c]

/-- Characters, encoded where they belong to the set. -/
def encode (set : Char → Bool) (cs : List Char) : List Char :=
  cs.flatMap (encodeChar set)

/-- The control characters and all characters beyond ASCII. -/
def controlSet (c : Char) : Bool :=
  c.toNat < 0x20 || 0x7E < c.toNat

/-- What is encoded in a fragment. -/
def fragmentSet (c : Char) : Bool :=
  controlSet c || [' ', '"', '<', '>', '`'].contains c

/-- What is encoded in a query; a special URL also hides the apostrophe. -/
def querySet (special : Bool) (c : Char) : Bool :=
  controlSet c || [' ', '"', '#', '<', '>'].contains c || (special && c == '\'')

/-- What is encoded in a path. -/
def pathSet (c : Char) : Bool :=
  fragmentSet c || ['#', '?', '\x7b', '\x7d'].contains c

/-- What is encoded in a user name or a password. -/
def userinfoSet (c : Char) : Bool :=
  pathSet c || ['/', ':', ';', '=', '@', '[', '\\', ']', '^', '|'].contains c

/-- The bytes that characters stand for. -/
def decode : List Char → List UInt8
  | [] => []
  | '%' :: a :: b :: cs =>
    match hexValue? a, hexValue? b with
    | some x, some y => UInt8.ofNat (16 * x + y) :: decode cs
    | _, _ => String.utf8EncodeChar '%' ++ decode (a :: b :: cs)
  | c :: cs => String.utf8EncodeChar c ++ decode cs

end NullLint.Url
