import NullLint.Text.Quoted
import NullLint.Url.Percent

set_option autoImplicit false
set_option relaxedAutoImplicit false

/-!
# Words of a call

The system hands over the words of a call as bytes. Most of them are texts, but they need not be. A
word that is no text can still be the path of a file; it cannot be part of a report.

## Main definitions

* `Text.parts` — the characters in some bytes, and the bytes that belong to none.
* `Argument` — a word of a call.
* `Argument.shown`, `Argument.quoted` — a word in a message.

## Design

Bytes are read one by one. A character that is broken off ends before the first byte that cannot
belong to it, and that byte is read again as the first one of a character.
-/

namespace NullLint

namespace Text

/-- A part of some bytes: a character, or bytes that belong to none. -/
inductive Part where
  | char (c : Char)
  | broken (bytes : List UInt8)
  deriving DecidableEq

/-- The start of a character: its bytes so far, how many more are owed, and the least and the
greatest byte that can be the next one. -/
structure Start where
  bytes : List UInt8
  owed : Nat
  low : UInt8 := 0x80
  high : UInt8 := 0xBF

/-- The start of a character of more than one byte. The next byte is in a shorter range where the
character could be written with fewer bytes, where it would be a surrogate, and where it would be
too great. -/
def Start.of? (b : UInt8) : Option Start :=
  if b < 0xC2 then none
  else if b < 0xE0 then some { bytes := [b], owed := 1 }
  else if b = 0xE0 then some { bytes := [b], owed := 2, low := 0xA0 }
  else if b = 0xED then some { bytes := [b], owed := 2, high := 0x9F }
  else if b < 0xF0 then some { bytes := [b], owed := 2 }
  else if b = 0xF0 then some { bytes := [b], owed := 3, low := 0x90 }
  else if b < 0xF4 then some { bytes := [b], owed := 3 }
  else if b = 0xF4 then some { bytes := [b], owed := 3, high := 0x8F }
  else none

/-- The character with a first byte and more bytes. The first byte has fewer bits of the number the
more bytes follow it. -/
def charOf (first : UInt8) (bytes : List UInt8) : Char :=
  Char.ofNat (bytes.foldl (fun n b => 64 * n + b.toNat % 64)
    (first.toNat % (1 <<< (6 - bytes.length))))

/-- Reads a byte with which a character has to start. -/
def readFirst (b : UInt8) : List Part × Option Start :=
  if b < 0x80 then ([.char (Char.ofNat b.toNat)], none)
  else
    match Start.of? b with
    | some start => ([], some start)
    | none => ([.broken [b]], none)

/-- Reads a byte after the start of a character, if there is one. -/
def readByte : Option Start → UInt8 → List Part × Option Start
  | none, b => readFirst b
  | some start, b =>
    if start.low ≤ b && b ≤ start.high then
      match start.owed, start.bytes ++ [b] with
      | 1, first :: bytes => ([.char (charOf first bytes)], none)
      | owed, bytes => ([], some { bytes := bytes, owed := owed - 1 })
    else (.broken start.bytes :: (readFirst b).1, (readFirst b).2)

/-- The parts of some bytes after the start of a character, if there is one. -/
def partsFrom : Option Start → List UInt8 → List Part
  | none, [] => []
  | some start, [] => [.broken start.bytes]
  | start, b :: bs => (readByte start b).1 ++ partsFrom (readByte start b).2 bs

/-- The characters in some bytes, and the bytes between them that belong to none. -/
def parts (bytes : List UInt8) : List Part :=
  partsFrom none bytes

/-- A part of some bytes on a screen. Bytes that belong to no character are shown as one
replacement character. -/
def Part.shown : Part → Char
  | .char c => c
  | .broken _ => '\uFFFD'

/-- A part of some bytes in quotation marks. Here also the apostrophe is an escape. -/
def Part.quoted : Part → List Char
  | .char '\'' => ['\\', '\'']
  | .char c => quotedChar c
  | .broken bytes =>
    bytes.flatMap fun b =>
      ['\\', 'x', Url.hexDigit (b.toNat / 16), Url.hexDigit (b.toNat % 16)]

example : (parts [0x61, 0xE2, 0x82, 0x27, 0xC3, 0xA4, 0xFF]).map Part.shown =
    ['a', '\uFFFD', '\'', 'ä', '\uFFFD'] := by decide

end Text

/-- A word of a call: a text, or bytes that are not those of a text. -/
inductive Argument where
  | text (s : String)
  | garbled (bytes : ByteArray) (h : String.fromUTF8? bytes = none)

namespace Argument

instance : DecidableEq Argument
  | text s, text t => decidable_of_iff (s = t) (by simp)
  | text _, garbled .. => isFalse nofun
  | garbled .., text _ => isFalse nofun
  | garbled xs _, garbled ys _ =>
    decidable_of_iff (xs.data.toList = ys.data.toList) (by simp [ByteArray.ext_iff])

instance : Coe String Argument := ⟨text⟩

instance : Coe (List String) (List Argument) := ⟨List.map text⟩

/-- The text of a word, if it is one. -/
def text? : Argument → Option String
  | text s => some s
  | garbled .. => none

/-- A word in a message or in a report. -/
def shown : Argument → String
  | text s => s
  | garbled bytes _ => String.ofList ((Text.parts bytes.data.toList).map Text.Part.shown)

/-- A word in quotation marks. -/
def quoted (a : Argument) : String :=
  let bytes :=
    match a with
    | text s => s.toUTF8
    | garbled bytes _ => bytes
  String.ofList ('"' :: (Text.parts bytes.data.toList).flatMap Text.Part.quoted ++ ['"'])

instance : Repr Argument where
  reprPrec a _ := a.quoted

@[simp]
theorem shown_text (s : String) : (text s).shown = s := rfl

@[simp]
theorem text?_text (s : String) : (text s).text? = some s := rfl

end Argument

end NullLint
