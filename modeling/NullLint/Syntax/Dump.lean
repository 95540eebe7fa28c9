import NullLint.Syntax.Kind
import NullLint.Syntax.Modifier
import NullLint.Syntax.Position
import NullLint.Syntax.TypeTag

set_option autoImplicit false
set_option relaxedAutoImplicit false

/-!
# Nested syntax trees

A tree dump is the nested form of a syntax tree, as the parser writes it: each node holds its
children. `NullLint.Syntax.Tree` holds the same tree as a numbered list of nodes.

## Main definitions

* `Syntax.Declaration` — all that a node says about itself: kind, position, identifier, type,
  modifiers and annotations.
* `Syntax.Nested` — a node with its children; `Syntax.Nested.size` counts the nodes.
* `Syntax.Dump` — a tree and the path of its source file.
-/

namespace NullLint.Syntax

/-- The identifier of a declaration. -/
structure Identifier where
  text : String
  position : Position
  deriving DecidableEq, Repr

/-- The declared type of a field, of a method's result or of a parameter. -/
structure DeclaredType where
  tag : TypeTag
  name : Option String
  position : Position
  deriving DecidableEq, Repr

/-- An annotation of a declaration. Its name may be qualified by a package. -/
structure Annotation where
  name : String
  position : Position
  deriving DecidableEq, Repr

/-- The name of an annotation without its package: what follows the last point. -/
def Annotation.simpleName (a : Annotation) : String :=
  Text.afterLast '.' a.name

/-- What a node says about itself. -/
structure Declaration where
  kind : Kind
  position : Position
  identifier : Option Identifier := none
  type : Option DeclaredType := none
  modifiers : List Modifier := []
  annotations : List Annotation := []
  deriving DecidableEq, Repr

namespace Declaration

/-- Whether a modifier is given. -/
def hasModifier (d : Declaration) (m : Modifier) : Bool :=
  d.modifiers.contains m

/-- Whether an annotation of the given simple name is given. -/
def isAnnotatedWith (d : Declaration) (simpleName : String) : Bool :=
  d.annotations.any fun a => a.simpleName == simpleName

/-- The positions of the parts of a declaration, other than its own. -/
def partPositions (d : Declaration) : List Position :=
  d.annotations.map (·.position) ++ (d.type.map (·.position)).toList ++
    (d.identifier.map (·.position)).toList

/-- The position of the first token of a declaration, its annotations included. -/
def firstPosition (d : Declaration) : Position :=
  d.partPositions.foldl min d.position

end Declaration

/-- A node with its children. -/
inductive Nested where
  | node (declaration : Declaration) (children : List Nested)
  deriving Repr

namespace Nested

/-- What the root of a nested tree says about itself. -/
def declaration : Nested → Declaration
  | .node d _ => d

/-- The children of the root of a nested tree. -/
def children : Nested → List Nested
  | .node _ cs => cs

mutual

/-- The number of nodes of a nested tree. -/
def size : Nested → Nat
  | .node _ cs => 1 + sizes cs

/-- The number of nodes of several nested trees. -/
def sizes : List Nested → Nat
  | [] => 0
  | c :: cs => c.size + sizes cs

end

end Nested

/-- A tree dump: the path of the source file, empty if it is not known, and the tree. -/
structure Dump where
  path : String
  root : Nested
  deriving Repr

end NullLint.Syntax
