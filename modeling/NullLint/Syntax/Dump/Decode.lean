import NullLint.Json.Decode
import NullLint.Syntax.Dump

set_option autoImplicit false
set_option relaxedAutoImplicit false

/-!
# Decoding tree dumps

The schema of tree dumps. A dump is an object with the members `path` and `root`, or a list of the
two. Nodes, identifiers, types and annotations are objects; the line and the column of each are
members of the same object. Members of other names are ignored.

## Main definitions

* `Syntax.Position.ofMembers` — the position among the members of an object.
* `Syntax.Nested.decode` — a node.
* `Syntax.Dump.decode` — a dump.
* `Syntax.Dump.parse` — a whole text as a dump.

## Design

The members of a record are taken in their order, and a member that is given twice is an error as
soon as it is met. Line and column are kept with all unknown members and only looked at when the
record is complete; so a wrong line is reported for the record and not for the member, and after
any missing member.
-/

namespace NullLint.Syntax

open Json

/-- A number without sign and with at most 32 bits. -/
def wordOf : Value → Except Fault UInt32
  | .number (.integer i) =>
    if 0 ≤ i ∧ i < UInt32.size then .ok (UInt32.ofNat i.toNat)
    else .error (.wrongValue (.number (.integer i)) "u32")
  | v => .error (.wrongType (Found.ofValue v) "u32")

/-- The data of a member that must be given. -/
def required {α : Type} (name : String) (a : Option α) : Except Fault α :=
  match a with
  | some a => .ok a
  | none => .error (.missingField name)

namespace Position

/-- Line and column, as far as they are known. -/
structure Fields where
  line : Option UInt32 := none
  column : Option UInt32 := none

/-- Takes one member into line and column. -/
def Fields.take (p : Fields) (name : String) (v : Value) : Except Fault Fields :=
  if name = "line" then
    if p.line.isSome then .error (.repeatedField "line")
    else (wordOf v).map fun n => { p with line := some n }
  else if name = "column" then
    if p.column.isSome then .error (.repeatedField "column")
    else (wordOf v).map fun n => { p with column := some n }
  else .ok p

/-- The position of line and column; both must be known. -/
def Fields.finish (p : Fields) : Except Fault Position := do
  let line ← required "line" p.line
  let column ← required "column" p.column
  return ⟨line, column⟩

/-- The position among the members of an object; other members do not count. -/
def ofMembers (ms : List (String × Value)) : Except Fault Position := do
  let p ← ms.foldlM (fun p m => Fields.take p m.1 m.2) {}
  p.finish

end Position

/-- A member that is not known yet; it may be given only once. -/
def unknownYet {α : Type} (name : String) (old : Option α) : Except Fault Unit :=
  if old.isSome then .error (.repeatedField name) else .ok ()

/-- Members that no field of a record takes, in their order. -/
abbrev Spread := List (String × Value)

/-- Keeps a member that no field takes. -/
def Spread.keep (s : Spread) (levels : Nat) (name : String) (v : Draft) :
    Except Located Spread := do
  let v ← within (.key name) (v.value levels)
  return s ++ [(name, v)]

namespace Identifier

/-- The members of an identifier. -/
structure Fields where
  text : Option String := none
  spread : Spread := []

/-- Whether a member of some name can still be given. -/
def Fields.claim (r : Fields) (name : String) : Except Fault Unit :=
  if name = "text" then unknownYet name r.text
  else .ok ()

/-- Takes one member. -/
def Fields.take (levels : Nat) (r : Fields) (name : String) (v : Draft) :
    Except Located Fields :=
  if name = "text" then do
    let text ← within (.key name) v.string
    return { r with text := some text }
  else do
    let spread ← r.spread.keep levels name v
    return { r with spread }

/-- The identifier of the members. -/
def Fields.finish (r : Fields) : Except Fault Identifier := do
  let text ← required "text" r.text
  let position ← Position.ofMembers r.spread
  return ⟨text, position⟩

/-- An identifier. -/
def decode (levels : Nat) (d : Draft) : Except Located Identifier := do
  let r ← d.recordOf levels "struct Ident" Fields.claim (Fields.take (levels - 1)) {}
  placed r.finish

end Identifier

/-- The tag of a name, which must be one of the eleven. -/
def TypeTag.ofName (s : String) : Except Fault TypeTag :=
  match TypeTag.named? s with
  | some t => .ok t
  | none => .error (.unknownName s (TypeTag.all.map TypeTag.name))

/-- The modifier of a name, which must be one of the twelve. -/
def Modifier.ofName (s : String) : Except Fault Modifier :=
  match Modifier.named? s with
  | some m => .ok m
  | none => .error (.unknownName s (Modifier.all.map Modifier.name))

namespace DeclaredType

/-- The members of a type. -/
structure Fields where
  tag : Option TypeTag := none
  name : Option (Option String) := none
  spread : Spread := []

/-- Whether a member of some name can still be given. -/
def Fields.claim (r : Fields) (name : String) : Except Fault Unit :=
  if name = "tag" then unknownYet name r.tag
  else if name = "name" then unknownYet name r.name
  else .ok ()

/-- Takes one member. -/
def Fields.take (levels : Nat) (r : Fields) (name : String) (v : Draft) :
    Except Located Fields :=
  if name = "tag" then do
    let tag ← within (.key name) (v.nameOf levels TypeTag.ofName)
    return { r with tag := some tag }
  else if name = "name" then do
    let typeName ← within (.key name) (v.optional Draft.string)
    return { r with name := some typeName }
  else do
    let spread ← r.spread.keep levels name v
    return { r with spread }

/-- The type of the members. -/
def Fields.finish (r : Fields) : Except Fault DeclaredType := do
  let tag ← required "tag" r.tag
  let position ← Position.ofMembers r.spread
  return ⟨tag, r.name.getD none, position⟩

/-- A type. -/
def decode (levels : Nat) (d : Draft) : Except Located DeclaredType := do
  let r ← d.recordOf levels "struct TypeNode" Fields.claim (Fields.take (levels - 1)) {}
  placed r.finish

end DeclaredType

namespace Annotation

/-- The members of an annotation. -/
structure Fields where
  name : Option String := none
  spread : Spread := []

/-- Whether a member of some name can still be given. -/
def Fields.claim (r : Fields) (name : String) : Except Fault Unit :=
  if name = "name" then unknownYet name r.name
  else .ok ()

/-- Takes one member. -/
def Fields.take (levels : Nat) (r : Fields) (name : String) (v : Draft) :
    Except Located Fields :=
  if name = "name" then do
    let annotationName ← within (.key name) v.string
    return { r with name := some annotationName }
  else do
    let spread ← r.spread.keep levels name v
    return { r with spread }

/-- The annotation of the members. -/
def Fields.finish (r : Fields) : Except Fault Annotation := do
  let name ← required "name" r.name
  let position ← Position.ofMembers r.spread
  return ⟨name, position⟩

/-- An annotation. -/
def decode (levels : Nat) (d : Draft) : Except Located Annotation := do
  let r ← d.recordOf levels "struct Annotation" Fields.claim (Fields.take (levels - 1)) {}
  placed r.finish

end Annotation

namespace Nested

/-- The members of a node. -/
structure Fields where
  kind : Option Kind := none
  identifier : Option (Option Identifier) := none
  type : Option (Option DeclaredType) := none
  modifiers : Option (List Modifier) := none
  annotations : Option (List Annotation) := none
  children : Option (List Nested) := none
  spread : Spread := []

/-- Whether a member of some name can still be given. -/
def Fields.claim (r : Fields) (name : String) : Except Fault Unit :=
  if name = "kind" then unknownYet name r.kind
  else if name = "ident" then unknownYet name r.identifier
  else if name = "type" then unknownYet name r.type
  else if name = "modifiers" then unknownYet name r.modifiers
  else if name = "annotations" then unknownYet name r.annotations
  else if name = "children" then unknownYet name r.children
  else .ok ()

/-- Takes one member; `child` decodes a child. -/
def Fields.take (levels : Nat) (child : Draft → Except Located Nested) (r : Fields)
    (name : String) (v : Draft) : Except Located Fields :=
  if name = "kind" then do
    let kind ← within (.key name) (v.nameOf levels fun s => .ok (Kind.ofName s))
    return { r with kind := some kind }
  else if name = "ident" then do
    let identifier ← within (.key name) (v.optional (Identifier.decode levels))
    return { r with identifier := some identifier }
  else if name = "type" then do
    let type ← within (.key name) (v.optional (DeclaredType.decode levels))
    return { r with type := some type }
  else if name = "modifiers" then do
    let modifiers ← within (.key name)
      (v.listOf levels (Draft.nameOf (levels - 1) Modifier.ofName))
    return { r with modifiers := some modifiers }
  else if name = "annotations" then do
    let annotations ← within (.key name)
      (v.listOf levels <| Annotation.decode (levels - 1))
    return { r with annotations := some annotations }
  else if name = "children" then do
    let children ← within (.key name) (v.listOf levels child)
    return { r with children := some children }
  else do
    let spread ← r.spread.keep levels name v
    return { r with spread }

/-- The node of the members. A member that is not given stands for nothing or an empty list. -/
def Fields.finish (r : Fields) : Except Fault Nested := do
  let kind ← required "kind" r.kind
  let position ← Position.ofMembers r.spread
  return .node
    { kind
      position
      identifier := r.identifier.getD none
      type := r.type.getD none
      modifiers := r.modifiers.getD []
      annotations := r.annotations.getD [] }
    (r.children.getD [])

/-- A node. Each child lies two levels further in, one for the node and one for the list of its
children. -/
def decode : Nat → Draft → Except Located Nested
  | 0, d => do
    let r ← d.recordOf 0 "struct RawNode" Fields.claim (Fields.take 0 fun _ => here .tooDeep) {}
    placed r.finish
  | 1, d => do
    let r ← d.recordOf 1 "struct RawNode" Fields.claim (Fields.take 0 fun _ => here .tooDeep) {}
    placed r.finish
  | levels + 2, d => do
    let r ← d.recordOf (levels + 2) "struct RawNode" Fields.claim
      (Fields.take (levels + 1) (decode levels)) {}
    placed r.finish

end Nested

namespace Dump

/-- The members of a dump. -/
structure Fields where
  path : Option String := none
  root : Option Nested := none

/-- Whether a member of some name can still be given. -/
def Fields.claim (r : Fields) (name : String) : Except Fault Unit :=
  if name = "path" then unknownYet name r.path
  else if name = "root" then unknownYet name r.root
  else .ok ()

/-- Takes one member. A member of another name is skipped. -/
def Fields.take (levels : Nat) (r : Fields) (name : String) (v : Draft) :
    Except Located Fields :=
  if name = "path" then do
    let path ← within (.key name) v.string
    return { r with path := some path }
  else if name = "root" then do
    let root ← within (.key name) (Nested.decode levels v)
    return { r with root := some root }
  else do
    within (.key name) (placed v.skip)
    return r

/-- The dump of the members. -/
def Fields.finish (r : Fields) : Except Fault Dump := do
  let root ← required "root" r.root
  return ⟨r.path.getD "", root⟩

/-- What is wrong with a list that goes on after its last item, in some way. -/
def afterLast : Items → Option Fault
  | .stop .closed => none
  | .stop .closedAfterComma => some .trailingComma
  | .stop .ended => some .endInList
  | _ => some .trailingText

/-- A dump as a list of its path and its root. -/
def decodePair (levels : Nat) : Items → Except Located Dump
  | .stop s =>
    match s.fault? with
    | some f => here f
    | none => here (.wrongLength 1 "struct RawTree with 2 elements")
  | .item p (.stop s) => do
    let _ ← within (.index 0) p.string
    match s.fault? with
    | some f => here f
    | none => here (.wrongLength 1 "struct RawTree with 2 elements")
  | .item p (.item r rest) => do
    let path ← within (.index 0) p.string
    let root ← within (.index 1) (Nested.decode levels r)
    match afterLast rest with
    | some f => here f
    | none => return ⟨path, root⟩

/-- A dump. -/
def decode (levels : Nat) : Draft → Except Located Dump
  | .list items => if levels = 0 then here .tooDeep else decodePair (levels - 1) items
  | d => do
    let r ← d.recordOf levels "struct RawTree" Fields.claim (Fields.take (levels - 1)) {}
    placed r.finish

/-- Why a text is not a dump: its value is not one, or something follows the value. -/
inductive Error where
  | malformed (e : Located)
  | trailing
  deriving DecidableEq, Repr

namespace Error

/-- The fault of an error. -/
def fault : Error → Fault
  | .malformed e => e.fault
  | .trailing => .trailingText

/-- The place of the fault, where it has one. -/
def path? : Error → Option Path
  | .malformed e => some e.path
  | .trailing => none

/-- The words for an error, from the general to the particular. -/
def chain : Error → List String
  | .malformed e => ["invalid syntax tree", e.message]
  | .trailing => ["trailing data after syntax tree", Fault.trailingText.message]

end Error

/-- A whole text as a dump. -/
def parse (text : String) : Except Error Dump :=
  match Draft.read text.toList with
  | (d, rest) =>
    match decode maxLevels d with
    | .error e => .error (.malformed e)
    | .ok dump => if (rest.getD []).all isSpace then .ok dump else .error .trailing

end Dump

end NullLint.Syntax
