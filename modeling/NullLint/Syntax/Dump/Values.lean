import NullLint.Syntax.Dump.Decode

set_option autoImplicit false
set_option relaxedAutoImplicit false

/-!
# Parts of dumps as JSON values

Positions, type tags and modifiers can also be taken from JSON values that are read already. A
value has no place in a text, so a fault has no path; the members of an object are taken in the
order of their keys.

## Main definitions

* `Syntax.listOfValue` — a list whose items are all of one shape.
* `Syntax.Position.ofValue`, `Syntax.TypeTag.ofValue`, `Syntax.Modifier.ofValue`.
-/

namespace NullLint.Syntax

open Json

/-- A list whose items are all of one shape. -/
def listOfValue {α : Type} (f : Value → Except Fault α) : Value → Except Fault (List α)
  | .array items => items.mapM f
  | v => .error (.wrongType (Found.ofValue v) "a sequence")

/-- The members of an object without those whose key is given again. -/
def lastMembers : List (String × Value) → List (String × Value)
  | [] => []
  | m :: ms => if ms.any (·.1 == m.1) then lastMembers ms else m :: lastMembers ms

/-- The members of an object in the order of their keys, the last one of each key. -/
def sortedMembers (ms : List (String × Value)) : List (String × Value) :=
  (lastMembers ms).mergeSort fun a b => decide (a.1 ≤ b.1)

/-- A position, as an object or as a list of line and column. -/
def Position.ofValue : Value → Except Fault Position
  | .object ms => Position.ofMembers (sortedMembers ms)
  | .array [] => .error (.wrongLength 0 "struct Position with 2 elements")
  | .array [l] => do
    let _ ← wordOf l
    .error (.wrongLength 1 "struct Position with 2 elements")
  | .array (l :: c :: rest) => do
    let line ← wordOf l
    let column ← wordOf c
    if rest.isEmpty then return ⟨line, column⟩
    else .error (.wrongLength (rest.length + 2) "fewer elements in array")
  | v => .error (.wrongType (Found.ofValue v) "struct Position")

/-- A name of an enumeration: a string, or an object with the name as its only key and `null` as
the value. -/
def nameOfValue {α : Type} (f : String → Except Fault α) : Value → Except Fault α
  | .string s => f s
  | .object ms =>
    match sortedMembers ms with
    | [(k, v)] => do
      let a ← f k
      match v with
      | .null => return a
      | v => .error (.wrongType (Found.ofValue v) "unit")
    | _ => .error (.wrongValue .map "map with a single key")
  | v => .error (.wrongType (Found.ofValue v) "string or map")

/-- A type tag. -/
def TypeTag.ofValue : Value → Except Fault TypeTag := nameOfValue TypeTag.ofName

/-- A modifier. -/
def Modifier.ofValue : Value → Except Fault Modifier := nameOfValue Modifier.ofName

end NullLint.Syntax
