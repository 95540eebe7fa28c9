import NullLint.Text.Quoted
import NullLint.Json.Lexeme

set_option autoImplicit false
set_option relaxedAutoImplicit false

/-!
# What can be wrong with JSON text

A text can break the grammar, it can end too early, or it can hold a value of the wrong shape.
Each fault is a cause; the wording of all of them is in `Json.Fault.message`. A fault is reported
together with the place of the value in the document.

## Main definitions

* `Json.Fault`, `Json.Fault.message`, `Json.Fault.category`.
* `Json.Step`, `Json.Path`, `Json.Path.text` — the place of a value.
* `Json.Located` — a fault at a place.

## Design

A fault is placed by the path of the value in the document only. The line and the column of the text
at which reading stopped, which can be given behind the words for a fault, are left out: they depend
on how far a reader looks ahead, and not on what is wrong.
-/

namespace NullLint.Json

/-- What a value turned out to be, where another shape was expected. -/
inductive Found where
  | null
  | bool (b : Bool)
  | number (n : Number)
  | string (s : String)
  | list
  | map
  deriving DecidableEq, Repr

/-- What a whole value is, in a message about its shape. -/
def Found.ofValue : Value → Found
  | .null => .null
  | .bool b => .bool b
  | .number n => .number n
  | .string s => .string s
  | .array _ => .list
  | .object _ => .map

/-- The words for what a value turned out to be. -/
def Found.text : Found → String
  | .null => "null"
  | .bool b => "boolean `" ++ (if b then "true" else "false") ++ "`"
  | .number (.integer i) => "integer `" ++ toString i ++ "`"
  | .number (.real x) => "floating point `" ++ x.text ++ "`"
  | .string s => "string " ++ Text.quoted s
  | .list => "sequence"
  | .map => "map"

/-- A cause for which a text is refused. -/
inductive Fault where
  | endInValue
  | endInString
  | endInList
  | endInObject
  | noColon
  | noListSeparator
  | noObjectSeparator
  | noWord
  | noValue
  | badEscape
  | badNumeral
  | numberTooLarge
  | controlCharacter
  | keyNotString
  | loneSurrogate
  | unpairedSurrogate
  | trailingComma
  | trailingText
  | tooDeep
  | wrongType (found : Found) (expected : String)
  | wrongValue (found : Found) (expected : String)
  | wrongLength (length : Nat) (expected : String)
  | unknownName (name : String) (known : List String)
  | repeatedField (name : String)
  | missingField (name : String)
  deriving DecidableEq, Repr

/-- The three categories of faults. -/
inductive Category where
  | data
  | grammar
  | ended
  deriving DecidableEq, Repr

/-- The category of a fault: the text ends too early, it breaks the grammar, or its data do not
have the expected shape. -/
def Fault.category : Fault → Category
  | .endInValue | .endInString | .endInList | .endInObject => .ended
  | .wrongType .. | .wrongValue .. | .wrongLength .. | .unknownName .. | .repeatedField _
  | .missingField _ => .data
  | _ => .grammar

/-- A list of names in a message, each between grave accents. -/
def namesText (names : List String) : String :=
  String.intercalate ", " (names.map fun n => "`" ++ n ++ "`")

/-- The words for a fault. -/
def Fault.message : Fault → String
  | .endInValue => "EOF while parsing a value"
  | .endInString => "EOF while parsing a string"
  | .endInList => "EOF while parsing a list"
  | .endInObject => "EOF while parsing an object"
  | .noColon => "expected `:`"
  | .noListSeparator => "expected `,` or `]`"
  | .noObjectSeparator => "expected `,` or `\x7d`"
  | .noWord => "expected ident"
  | .noValue => "expected value"
  | .badEscape => "invalid escape"
  | .badNumeral => "invalid number"
  | .numberTooLarge => "number out of range"
  | .controlCharacter => "control character (\\u0000-\\u001F) found while parsing a string"
  | .keyNotString => "key must be a string"
  | .loneSurrogate => "lone leading surrogate in hex escape"
  | .unpairedSurrogate => "unexpected end of hex escape"
  | .trailingComma => "trailing comma"
  | .trailingText => "trailing characters"
  | .tooDeep => "recursion limit exceeded"
  | .wrongType found expected => "invalid type: " ++ found.text ++ ", expected " ++ expected
  | .wrongValue found expected => "invalid value: " ++ found.text ++ ", expected " ++ expected
  | .wrongLength n expected => "invalid length " ++ toString n ++ ", expected " ++ expected
  | .unknownName name known =>
    "unknown variant `" ++ name ++ "`, expected one of " ++ namesText known
  | .repeatedField name => "duplicate field `" ++ name ++ "`"
  | .missingField name => "missing field `" ++ name ++ "`"

/-- One step into a document: to the member of a key, to an item of a list, or to a member whose
key was not read. -/
inductive Step where
  | key (k : String)
  | index (i : Nat)
  | unread
  deriving DecidableEq, Repr

/-- The place of a value in a document, from the top inwards. -/
abbrev Path := List Step

/-- The steps of a path as text; a key is set off by a point from what stands before it. -/
def Path.stepsText : Bool → Path → String
  | _, [] => ""
  | first, .key k :: p => (if first then "" else ".") ++ k ++ Path.stepsText false p
  | first, .unread :: p => (if first then "" else ".") ++ "?" ++ Path.stepsText false p
  | _, .index i :: p => "[" ++ toString i ++ "]" ++ Path.stepsText false p

/-- A path as text; the top of the document is a single point. -/
def Path.text (p : Path) : String :=
  if p.isEmpty then "." else Path.stepsText true p

/-- A fault and the place of the value that has it. -/
structure Located where
  path : Path
  fault : Fault
  deriving DecidableEq, Repr

/-- The words for a fault at a place. The place is left out when no step of it is known. -/
def Located.message (e : Located) : String :=
  if e.path.all (· == .unread) then e.fault.message
  else e.path.text ++ ": " ++ e.fault.message

/-- A fault of the value at hand. -/
def here {α : Type} (f : Fault) : Except Located α :=
  .error ⟨[], f⟩

/-- A result for the value one step further in, seen from the value at hand. -/
def within {α : Type} (s : Step) (r : Except Located α) : Except Located α :=
  r.mapError fun e => ⟨s :: e.path, e.fault⟩

end NullLint.Json
