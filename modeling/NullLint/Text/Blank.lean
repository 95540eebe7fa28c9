set_option autoImplicit false
set_option relaxedAutoImplicit false

/-!
# Blank characters

Names and values given on a command line may be surrounded by blanks, which do not count.
A character is blank when Unicode gives it the property `White_Space`; this is a wider set
than the four blanks of JSON text, which `NullLint.Json.isSpace` holds.

## Main definitions

* `Text.isBlank` — the blank characters.
* `Text.trim` — a text without the blanks at its two ends.
-/

namespace NullLint.Text

/-- The characters with the property `White_Space`. -/
def isBlank (c : Char) : Bool :=
  let n := c.toNat
  (9 ≤ n && n ≤ 13) || n == 0x20 || n == 0x85 || n == 0xA0 || n == 0x1680 ||
    (0x2000 ≤ n && n ≤ 0x200A) || n == 0x2028 || n == 0x2029 || n == 0x202F ||
    n == 0x205F || n == 0x3000

/-- A list of characters without the blanks at its end. -/
def trimEnd (cs : List Char) : List Char :=
  (cs.reverse.dropWhile isBlank).reverse

/-- A list of characters without the blanks at its two ends. -/
def trimChars (cs : List Char) : List Char :=
  trimEnd (cs.dropWhile isBlank)

/-- A text without the blanks at its two ends. -/
def trim (s : String) : String :=
  String.ofList (trimChars s.toList)

end NullLint.Text
