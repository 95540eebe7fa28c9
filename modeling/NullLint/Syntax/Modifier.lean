set_option autoImplicit false
set_option relaxedAutoImplicit false

/-!
# Modifiers of declarations
-/

namespace NullLint.Syntax

/-- A modifier of a declaration. -/
inductive Modifier where
  | isPublic
  | isProtected
  | isPrivate
  | isStatic
  | isFinal
  | isAbstract
  | isNative
  | isSynchronized
  | isTransient
  | isVolatile
  | isDefault
  | isStrictfp
  deriving DecidableEq, Repr, Inhabited

namespace Modifier

/-- All modifiers, in their order. -/
def all : List Modifier :=
  [.isPublic, .isProtected, .isPrivate, .isStatic, .isFinal, .isAbstract, .isNative,
    .isSynchronized, .isTransient, .isVolatile, .isDefault, .isStrictfp]

/-- The name of a modifier in a tree dump. -/
def name : Modifier → String
  | .isPublic => "public"
  | .isProtected => "protected"
  | .isPrivate => "private"
  | .isStatic => "static"
  | .isFinal => "final"
  | .isAbstract => "abstract"
  | .isNative => "native"
  | .isSynchronized => "synchronized"
  | .isTransient => "transient"
  | .isVolatile => "volatile"
  | .isDefault => "default"
  | .isStrictfp => "strictfp"

/-- The modifier that a name stands for. -/
def named? (s : String) : Option Modifier :=
  all.find? fun m => m.name == s

end Modifier

end NullLint.Syntax
