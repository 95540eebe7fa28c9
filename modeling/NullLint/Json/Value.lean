import NullLint.Decimal.Shortest

set_option autoImplicit false
set_option relaxedAutoImplicit false

/-!
# JSON values

## Main definitions

* `Json.Number` — an integer of 64 bits, or a double.
* `Json.Value` — a JSON value; the members of an object keep their order.
* `Json.Value.compact` — a value as text without any space.
* `Json.Value.pretty` — a value as text over several lines, two spaces to a level.
-/

namespace NullLint.Json

/-- A number: an integer, or a double when it has a fraction, an exponent or too many digits. -/
inductive Number where
  | integer (i : Int)
  | real (x : Decimal.Binary64)
  deriving DecidableEq, Repr, Inhabited

/-- The text of a number. -/
def Number.text : Number → String
  | .integer i => toString i
  | .real x => x.text

/-- A JSON value. -/
inductive Value where
  | null
  | bool (b : Bool)
  | number (n : Number)
  | string (s : String)
  | array (items : List Value)
  | object (members : List (String × Value))
  deriving Repr, Inhabited

namespace Value

/-- A natural number as a value. -/
def nat (n : Nat) : Value :=
  .number (.integer n)

/-- How a character is written inside a string: the quotation mark, the backslash and the
control characters are escaped, all others stand for themselves. -/
def escapeChar (c : Char) : List Char :=
  match c with
  | '"' => ['\\', '"']
  | '\\' => ['\\', '\\']
  | '\x08' => ['\\', 'b']
  | '\x0c' => ['\\', 'f']
  | '\n' => ['\\', 'n']
  | '\r' => ['\\', 'r']
  | '\t' => ['\\', 't']
  | c =>
    if c.toNat < 0x10 then ['\\', 'u', '0', '0', '0'] ++ Nat.toDigits 16 c.toNat
    else if c.toNat < 0x20 then ['\\', 'u', '0', '0'] ++ Nat.toDigits 16 c.toNat
    else [c]

/-- A string as it is written in JSON text. -/
def stringChars (s : String) : List Char :=
  '"' :: s.toList.flatMap escapeChar ++ ['"']

/-- A truth value as it is written in JSON text. -/
def boolChars (b : Bool) : List Char :=
  (if b then "true" else "false").toList

mutual

/-- The characters of a value without any space. -/
def compactChars : Value → List Char
  | .null => "null".toList
  | .bool b => boolChars b
  | .number n => n.text.toList
  | .string s => stringChars s
  | .array items => '[' :: compactItems items
  | .object members => '\x7b' :: compactMembers members

/-- The items of an array with commas between them, and its closing bracket. -/
def compactItems : List Value → List Char
  | [] => [']']
  | [v] => compactChars v ++ [']']
  | v :: vs => compactChars v ++ ',' :: compactItems vs

/-- The members of an object with commas between them, and its closing brace. -/
def compactMembers : List (String × Value) → List Char
  | [] => ['\x7d']
  | [(k, v)] => stringChars k ++ ':' :: compactChars v ++ ['\x7d']
  | (k, v) :: ms => stringChars k ++ ':' :: compactChars v ++ ',' :: compactMembers ms

end

/-- A value as text without any space. -/
def compact (v : Value) : String :=
  String.ofList (compactChars v)

/-- A line break and the indentation of a level. -/
def newline (level : Nat) : List Char :=
  '\n' :: List.replicate (2 * level) ' '

mutual

/-- The characters of a value over several lines, starting at the given level. -/
def prettyChars (level : Nat) : Value → List Char
  | .null => "null".toList
  | .bool b => boolChars b
  | .number n => n.text.toList
  | .string s => stringChars s
  | .array [] => ['[', ']']
  | .array (v :: vs) => '[' :: newline (level + 1) ++ prettyItems level (v :: vs)
  | .object [] => ['\x7b', '\x7d']
  | .object (m :: ms) => '\x7b' :: newline (level + 1) ++ prettyMembers level (m :: ms)

/-- The items of an array of the given level, each on a line of its own, and its closing
bracket. -/
def prettyItems (level : Nat) : List Value → List Char
  | [] => [']']
  | [v] => prettyChars (level + 1) v ++ newline level ++ [']']
  | v :: vs => prettyChars (level + 1) v ++ ',' :: newline (level + 1) ++ prettyItems level vs

/-- The members of an object of the given level, each on a line of its own, and its closing
brace. -/
def prettyMembers (level : Nat) : List (String × Value) → List Char
  | [] => ['\x7d']
  | [(k, v)] =>
    stringChars k ++ ':' :: ' ' :: prettyChars (level + 1) v ++ newline level ++ ['\x7d']
  | (k, v) :: ms =>
    stringChars k ++ ':' :: ' ' :: prettyChars (level + 1) v ++ ',' :: newline (level + 1) ++
      prettyMembers level ms

end

/-- A value as text over several lines. -/
def pretty (v : Value) : String :=
  String.ofList (prettyChars 0 v)

end Value

end NullLint.Json
