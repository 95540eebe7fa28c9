set_option autoImplicit false
set_option relaxedAutoImplicit false

/-!
# Tags of declared types

## Main definitions

* `Syntax.TypeTag` — what a declared type is at its root.
* `Syntax.TypeSet` — a set of tags.
-/

namespace NullLint.Syntax

/-- What a declared type is at its root: a primitive type, `void`, a reference or an array. -/
inductive TypeTag where
  | byte
  | short
  | int
  | long
  | float
  | double
  | boolean
  | char
  | void
  | reference
  | array
  deriving DecidableEq, Repr, Inhabited

namespace TypeTag

/-- All tags, in their order. -/
def all : List TypeTag :=
  [.byte, .short, .int, .long, .float, .double, .boolean, .char, .void, .reference, .array]

/-- The name of a tag in a tree dump. -/
def name : TypeTag → String
  | .byte => "byte"
  | .short => "short"
  | .int => "int"
  | .long => "long"
  | .float => "float"
  | .double => "double"
  | .boolean => "boolean"
  | .char => "char"
  | .void => "void"
  | .reference => "reference"
  | .array => "array"

/-- The tag that a name stands for. -/
def named? (s : String) : Option TypeTag :=
  all.find? fun t => t.name == s

/-- Whether values of the type are primitive. -/
def isPrimitive : TypeTag → Bool
  | .void | .reference | .array => false
  | _ => true

end TypeTag

/-- A set of type tags. -/
structure TypeSet where
  holds : TypeTag → Bool

namespace TypeSet

instance : Membership TypeTag TypeSet := ⟨fun s t => s.holds t = true⟩

instance (t : TypeTag) (s : TypeSet) : Decidable (t ∈ s) :=
  inferInstanceAs (Decidable (s.holds t = true))

/-- The set of the tags of a list. -/
def ofList (ts : List TypeTag) : TypeSet := ⟨fun t => ts.contains t⟩

/-- The types that never hold null: the primitive ones and `void`. -/
def neverNull : TypeSet := ⟨fun t => t.isPrimitive || t == .void⟩

end TypeSet

end NullLint.Syntax
