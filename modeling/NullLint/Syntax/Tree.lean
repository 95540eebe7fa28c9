import NullLint.Syntax.Dump
import NullLint.Text.Quoted

set_option autoImplicit false
set_option relaxedAutoImplicit false

/-!
# Syntax trees

A syntax tree is a list of nodes, numbered from the root on so that a node comes before its
children and a subtree is a run of consecutive numbers. Each node knows its parent and its
children by their numbers, so a rule can look at a declaration's surroundings.

## Main definitions

* `Syntax.Tree`, `Syntax.Tree.ofDump` — trees, and the tree of a dump.
* `Syntax.Tree.Node` — a node of a tree.
* `Syntax.Tree.parent?`, `Syntax.Tree.children`, `Syntax.Tree.firstChild?`,
  `Syntax.Tree.parameters`, `Syntax.Tree.descendants` — the surroundings of a node.
* `Syntax.Tree.isClassField` — whether a node declares a field of a type.

## Design

The nodes are numbered in the order in which a stack of pending nodes gives them out: the children
of a node are put on the stack in front of everything that waits there, and a node is entered with
its parent when it is taken from the stack. Walking over the descendants of a node works with a
stack of node numbers in the same way. A tree of `n` nodes gives out at most `n` of them, which
bounds the walk also for a list of nodes that is no tree.
-/

namespace NullLint.Syntax

/-- A numbered node: what it says about itself, and the numbers of its parent and its children. -/
structure Entry where
  declaration : Declaration
  parent : Option Nat
  children : List Nat
  deriving Repr

/-- Nodes that wait to be numbered, each with the number of its parent. -/
abbrev Pending := List (Nested × Option Nat)

/-- The number of nodes in the trees that wait. -/
def Pending.size : Pending → Nat
  | [] => 0
  | p :: ps => p.1.size + Pending.size ps

/-- The children of a node as pending nodes. -/
def Pending.ofChildren (parent : Nat) (cs : List Nested) : Pending :=
  cs.map fun c => (c, some parent)

theorem Pending.size_append (ps qs : Pending) :
    Pending.size (ps ++ qs) = Pending.size ps + Pending.size qs := by
  induction ps with
  | nil => simp [Pending.size]
  | cons p ps ih => simp only [List.cons_append, Pending.size, ih]; omega

theorem Pending.size_ofChildren (parent : Nat) (cs : List Nested) :
    Pending.size (Pending.ofChildren parent cs) = Nested.sizes cs := by
  induction cs with
  | nil => rfl
  | cons c cs ih =>
    change c.size + Pending.size (Pending.ofChildren parent cs) = c.size + Nested.sizes cs
    rw [ih]

/-- Notes a new child in the entry of its parent. -/
def attach (entries : Array Entry) (parent : Option Nat) (child : Nat) : Array Entry :=
  match parent with
  | none => entries
  | some p => entries.modify p fun e => { e with children := e.children ++ [child] }

theorem size_attach (entries : Array Entry) (parent : Option Nat) (child : Nat) :
    (attach entries parent child).size = entries.size := by
  cases parent <;> simp [attach]

/-- Numbers the nodes that wait, after those that have a number already. -/
def grow (entries : Array Entry) : Pending → Array Entry
  | [] => entries
  | (.node declaration children, parent) :: pending =>
    let id := entries.size
    grow (attach (entries.push ⟨declaration, parent, []⟩) parent id)
      (Pending.ofChildren id children ++ pending)
termination_by pending => Pending.size pending
decreasing_by
  simp only [Pending.size_append, Pending.size_ofChildren, Pending.size, Nested.size]
  omega

/-- Each node that waits gets a number of its own. -/
theorem size_grow (entries : Array Entry) (pending : Pending) :
    (grow entries pending).size = entries.size + Pending.size pending := by
  fun_induction grow entries pending with
  | case1 entries => simp [Pending.size]
  | case2 entries declaration children parent pending id ih =>
    rw [ih, size_attach, Array.size_push, Pending.size_append, Pending.size_ofChildren]
    simp only [Pending.size, Nested.size]
    omega

/-- A syntax tree: the path of its source file, empty if it is not known, and its nodes, of which
the first is the root. -/
structure Tree where
  path : String
  entries : Array Entry
  nonempty : 0 < entries.size

namespace Tree

/-- The tree of a dump. -/
def ofDump (dump : Dump) : Tree where
  path := dump.path
  entries := grow #[] [(dump.root, none)]
  nonempty := by
    rw [size_grow]
    cases dump.root
    simp only [Pending.size, Nested.size]
    omega

/-- A node of a tree, given by its number. -/
abbrev Node (t : Tree) : Type := Fin t.entries.size

variable (t : Tree)

/-- The root. -/
def root : t.Node := ⟨0, t.nonempty⟩

/-- The node of a number, if there is one. -/
def node? (i : Nat) : Option t.Node :=
  if h : i < t.entries.size then some ⟨i, h⟩ else none

/-- All nodes in the order of their numbers. -/
def nodes : List t.Node := List.finRange t.entries.size

variable {t}

/-- What a node says about itself. -/
def declaration (n : t.Node) : Declaration := t.entries[n].declaration

/-- The kind of a node. -/
def kind (n : t.Node) : Kind := (declaration n).kind

/-- The parent of a node: the nearest node that encloses it. -/
def parent? (n : t.Node) : Option t.Node := t.entries[n].parent.bind t.node?

/-- The children of a node. -/
def children (n : t.Node) : List t.Node := t.entries[n].children.filterMap t.node?

/-- The first child of a kind. -/
def firstChild? (n : t.Node) (k : Kind) : Option t.Node :=
  (children n).find? fun c => kind c == k

/-- The parameters of a method or a constructor: the parameter declarations in its first list of
parameters, without what separates them. -/
def parameters (n : t.Node) : List t.Node :=
  match firstChild? n .parameters with
  | none => []
  | some p => (children p).filter fun c => kind c == .parameterDef

/-- Whether a node declares a field in the body of a type, and not a local variable. -/
def isClassField (n : t.Node) : Bool :=
  kind n == .variableDef &&
    match parent? n with
    | none => false
    | some p => (kind p).isTypeBody

/-- The ancestors of a node, from its parent outwards, at most as many as `fuel`. -/
def ancestorsUpTo : Nat → t.Node → List t.Node
  | 0, _ => []
  | fuel + 1, n =>
    match parent? n with
    | none => []
    | some p => p :: ancestorsUpTo fuel p

/-- The ancestors of a node, from its parent outwards. -/
def ancestors (n : t.Node) : List t.Node := ancestorsUpTo t.entries.size n

/-- Takes nodes from a stack and puts their children on it, at most `fuel` times. -/
def walk : Nat → List t.Node → List t.Node
  | 0, _ => []
  | _ + 1, [] => []
  | fuel + 1, n :: stack => n :: walk fuel (children n ++ stack)

/-- A node and all nodes below it, each before its children and the children in their order. -/
def descendants (n : t.Node) : List t.Node := walk t.entries.size [n]

end Tree

/-- An optional text in a description. -/
def optionText (s : Option String) : String :=
  match s with
  | none => "None"
  | some s => "Some(" ++ Text.quoted s ++ ")"

/-- A declaration as it is described when a program is examined: its kind, its position, its
identifier, and the name of its type, a question mark if the type has none. -/
def Declaration.description (d : Declaration) : String :=
  "Node \x7b kind: " ++ d.kind.logName ++ ", position: Position \x7b line: " ++
    toString d.position.line.toNat ++ ", column: " ++ toString d.position.column.toNat ++
    " \x7d, ident: " ++ optionText (d.identifier.map (·.text)) ++ ", type: " ++
    optionText (d.type.map fun t => t.name.getD "?") ++ " \x7d"

end NullLint.Syntax
