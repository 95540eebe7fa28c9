import NullLint.Text.Blank
import NullLint.Text.Cut

set_option autoImplicit false
set_option relaxedAutoImplicit false

/-!
# Kinds of nodes

The parser that produces the trees knows many kinds of nodes. Fifteen of them matter to a rule and
have a name here; all others are `other`.

## Main definitions

* `Syntax.Kind` — the kinds; `Syntax.Kind.name`, `Syntax.Kind.ofName` — their names.
* `Syntax.Kind.parse?` — the kind of a name given in a property.
* `Syntax.KindSet` — a set of kinds.
-/

namespace NullLint.Syntax

/-- The kind of a node. `objectBlock` is the body of an anonymous class. -/
inductive Kind where
  | compilationUnit
  | classDef
  | interfaceDef
  | enumDef
  | recordDef
  | annotationDef
  | objectBlock
  | variableDef
  | methodDef
  | constructorDef
  | parameters
  | parameterDef
  | comma
  | block
  | lambda
  | other
  deriving DecidableEq, Repr, Inhabited

namespace Kind

/-- The kinds with a name of their own, in their order. -/
def named : List Kind :=
  [.compilationUnit, .classDef, .interfaceDef, .enumDef, .recordDef, .annotationDef, .objectBlock,
    .variableDef, .methodDef, .constructorDef, .parameters, .parameterDef, .comma, .block, .lambda]

/-- All kinds, in their order. -/
def all : List Kind := named ++ [.other]

/-- The name of a kind in a tree dump. -/
def name : Kind → String
  | .compilationUnit => "COMPILATION_UNIT"
  | .classDef => "CLASS_DEF"
  | .interfaceDef => "INTERFACE_DEF"
  | .enumDef => "ENUM_DEF"
  | .recordDef => "RECORD_DEF"
  | .annotationDef => "ANNOTATION_DEF"
  | .objectBlock => "OBJ_BLOCK"
  | .variableDef => "VARIABLE_DEF"
  | .methodDef => "METHOD_DEF"
  | .constructorDef => "CTOR_DEF"
  | .parameters => "PARAMETERS"
  | .parameterDef => "PARAMETER_DEF"
  | .comma => "COMMA"
  | .block => "BLOCK"
  | .lambda => "LAMBDA"
  | .other => "OTHER"

/-- The name of a kind in a log line. -/
def logName : Kind → String
  | .compilationUnit => "CompilationUnit"
  | .classDef => "ClassDef"
  | .interfaceDef => "InterfaceDef"
  | .enumDef => "EnumDef"
  | .recordDef => "RecordDef"
  | .annotationDef => "AnnotationDef"
  | .objectBlock => "ObjBlock"
  | .variableDef => "VariableDef"
  | .methodDef => "MethodDef"
  | .constructorDef => "CtorDef"
  | .parameters => "Parameters"
  | .parameterDef => "ParameterDef"
  | .comma => "Comma"
  | .block => "Block"
  | .lambda => "Lambda"
  | .other => "Other"

/-- The kind with a name of its own that is called `s`. -/
def named? (s : String) : Option Kind :=
  named.find? fun k => k.name == s

/-- The kind that a name in a tree dump stands for. -/
def ofName (s : String) : Kind :=
  (named? s).getD .other

/-- The kind that a name in a property stands for; blanks around it do not count. -/
def parse? (s : String) : Option Kind :=
  named? (Text.trim s)

/-- Whether the declarations directly under a node of this kind are members of a type. -/
def isTypeBody : Kind → Bool
  | .classDef | .interfaceDef | .enumDef | .recordDef | .annotationDef | .objectBlock => true
  | _ => false

end Kind

/-- A set of kinds. -/
structure KindSet where
  holds : Kind → Bool

namespace KindSet

instance : Membership Kind KindSet := ⟨fun s k => s.holds k = true⟩

instance (k : Kind) (s : KindSet) : Decidable (k ∈ s) :=
  inferInstanceAs (Decidable (s.holds k = true))

/-- The set of the kinds of a list. -/
def ofList (ks : List Kind) : KindSet := ⟨fun k => ks.contains k⟩

/-- The kinds of a set, in their order. -/
def toList (s : KindSet) : List Kind := Kind.all.filter s.holds

/-- A set as it is shown in a log line. -/
def logText (s : KindSet) : String :=
  "\x7b" ++ String.intercalate ", " (s.toList.map Kind.logName) ++ "\x7d"

end KindSet

end NullLint.Syntax
