import NullLint.Proofs.Json.Slot
import NullLint.Proofs.Syntax.Kind
import NullLint.Syntax.Dump.Decode

set_option autoImplicit false
set_option relaxedAutoImplicit false

/-!
# The schema of tree dumps

Which JSON documents are tree dumps, and of which trees, said for the members of objects and not for
the order in which they are taken. A field of a record is given once, or once at most if something
stands for it when it is absent; members of other names say nothing about the tree.

What is asked of members of other names is a parameter of the schema. Inside of the root they have
to be values: their strings make up characters, and their numbers are those of doubles. Members of
the dump itself may be anything that follows the grammar.

## Main definitions

* `Syntax.IsWord`, `Syntax.IsPosition` — line and column.
* `Syntax.Kind.Named` — the kind that a name stands for.
* `Syntax.IsIdentifier`, `Syntax.IsType`, `Syntax.IsAnnotationNode` — the parts of declarations.
* `Syntax.IsNode`, `Syntax.IsDump` — nodes and dumps.

## Main results

* `Syntax.Kind.ofName_eq_iff`, `Syntax.TypeTag.ofName_eq_ok_iff`, `Syntax.Modifier.ofName_eq_ok_iff`
  — the names of kinds, tags and modifiers.
-/

namespace NullLint.Syntax

open Json

/-! ## Names -/

/-- The kind that a name stands for: the one that has the name, or `other` if none of the fifteen
has it. -/
def Kind.Named (name : String) (k : Kind) : Prop :=
  (k ∈ Kind.named ∧ k.name = name) ∨ (k = .other ∧ ∀ k' ∈ Kind.named, k'.name ≠ name)

theorem Kind.ofName_eq_iff {name : String} {k : Kind} :
    Kind.ofName name = k ↔ Kind.Named name k := by
  rw [ofName, Named]
  cases h : Kind.named? name with
  | some k' =>
    have hk' := Kind.named?_eq_some_iff.mp h
    constructor
    · rintro rfl
      exact Or.inl hk'
    · rintro (hk | ⟨-, hnone⟩)
      · rw [Kind.named?_eq_some_iff.mpr hk] at h
        cases h
        rfl
      · exact absurd hk'.2 (hnone k' hk'.1)
  | none =>
    constructor
    · rintro rfl
      refine Or.inr ⟨rfl, fun k' hmem hname => ?_⟩
      rw [Kind.named?_eq_some_iff.mpr ⟨hmem, hname⟩] at h
      cases h
    · rintro (hk | ⟨rfl, -⟩)
      · rw [Kind.named?_eq_some_iff.mpr hk] at h
        cases h
      · rfl

theorem TypeTag.ofName_eq_ok_iff {name : String} {t : TypeTag} :
    TypeTag.ofName name = .ok t ↔ t.name = name := by
  rw [ofName]
  constructor
  · intro h
    split at h
    · next t' ht =>
      cases h
      simpa using List.find?_some ht
    · cases h
  · rintro rfl
    cases t <;> rfl

theorem Modifier.ofName_eq_ok_iff {name : String} {m : Modifier} :
    Modifier.ofName name = .ok m ↔ m.name = name := by
  rw [ofName]
  constructor
  · intro h
    split at h
    · next m' hm =>
      cases h
      simpa using List.find?_some hm
    · cases h
  · rintro rfl
    cases m <;> rfl

/-! ## Positions -/

/-- A draft is a numeral without sign, fraction and exponent that stands for a number of 32 bits. -/
def IsWord (d : Draft) (n : UInt32) : Prop :=
  ∃ x, d = .numeral (.ok x) ∧ x.negative = false ∧ x.fraction = none ∧ x.exponent = none ∧
    digitsValue x.whole = n.toNat

/-- The line and the column among the members of an object. -/
structure IsPosition (ms : List (String × Draft)) (p : Position) : Prop where
  line : Field "line" IsWord ms (some p.line)
  column : Field "column" IsWord ms (some p.column)

/-! ## Records -/

section

variable (free : Draft → Prop)

/-- All members of other names than the known ones are what is asked of them. -/
def OthersAre (known : List String) (ms : List (String × Draft)) : Prop :=
  ∀ m ∈ ms, m.1 ∉ known → free m.2

/-- The members of an identifier. -/
structure IdentifierMembers (ms : List (String × Draft)) (i : Identifier) : Prop where
  text : Field "text" Draft.IsText ms (some i.text)
  position : IsPosition ms i.position
  others : OthersAre free ["line", "column", "text"] ms

/-- A draft is an identifier. -/
def IsIdentifier (d : Draft) (i : Identifier) : Prop :=
  ∃ ms, d.HasMembers ms ∧ IdentifierMembers free ms i

/-- The members of a type. Without a name, and with the name `null`, the type has no name. -/
structure TypeMembers (ms : List (String × Draft)) (t : DeclaredType) : Prop where
  tag : Field "tag" (Draft.IsName fun name tag => tag.name = name) ms (some t.tag)
  name : ∃ name, Field "name" (Draft.IsNullOr Draft.IsText) ms name ∧ t.name = name.getD none
  position : IsPosition ms t.position
  others : OthersAre free ["line", "column", "tag", "name"] ms

/-- A draft is a type. -/
def IsType (d : Draft) (t : DeclaredType) : Prop :=
  ∃ ms, d.HasMembers ms ∧ TypeMembers free ms t

/-- The members of an annotation. -/
structure AnnotationMembers (ms : List (String × Draft)) (a : Annotation) : Prop where
  name : Field "name" Draft.IsText ms (some a.name)
  position : IsPosition ms a.position
  others : OthersAre free ["line", "column", "name"] ms

/-- A draft is an annotation. -/
def IsAnnotationNode (d : Draft) (a : Annotation) : Prop :=
  ∃ ms, d.HasMembers ms ∧ AnnotationMembers free ms a

/-- The members of a node that say something about the node itself. -/
structure DeclarationMembers (ms : List (String × Draft)) (d : Declaration) : Prop where
  kind : Field "kind" (Draft.IsName Kind.Named) ms (some d.kind)
  position : IsPosition ms d.position
  identifier : ∃ i, Field "ident" (Draft.IsNullOr (IsIdentifier free)) ms i ∧
    d.identifier = i.getD none
  type : ∃ t, Field "type" (Draft.IsNullOr (IsType free)) ms t ∧ d.type = t.getD none
  modifiers : ∃ l, Field "modifiers"
    (Draft.IsListOf (Draft.IsName fun name m => m.name = name)) ms l ∧ d.modifiers = l.getD []
  annotations : ∃ l, Field "annotations" (Draft.IsListOf (IsAnnotationNode free)) ms l ∧
    d.annotations = l.getD []
  others : OthersAre free
    ["line", "column", "kind", "ident", "type", "modifiers", "annotations", "children"] ms

/-- A draft is a node. The children, if they are given, are a list of nodes. -/
inductive IsNode : Draft → Nested → Prop
  | leaf {d : Draft} {ms : List (String × Draft)} {decl : Declaration} (hd : d.HasMembers ms)
      (hdecl : DeclarationMembers free ms decl) (hchildren : valuesOf "children" ms = []) :
      IsNode d (.node decl [])
  | inner {d v : Draft} {ms : List (String × Draft)} {decl : Declaration} {vs : List Draft}
      {cs : List Nested} (hd : d.HasMembers ms) (hdecl : DeclarationMembers free ms decl)
      (hchildren : valuesOf "children" ms = [v]) (hvs : v.HasItems vs)
      (hcs : List.Forall₂ IsNode vs cs) : IsNode d (.node decl cs)

/-- A draft is a dump: an object with the root and perhaps a path, or a list of the two. -/
inductive IsDump : Draft → Dump → Prop
  | object {d : Draft} {ms : List (String × Draft)} {path : Option String} {root : Nested}
      (hd : d.HasMembers ms) (hpath : Field "path" Draft.IsText ms path)
      (hroot : Field "root" (IsNode free) ms (some root)) : IsDump d ⟨path.getD "", root⟩
  | pair {d p r : Draft} {path : String} {root : Nested} (hd : d.HasItems [p, r])
      (hpath : p.IsText path) (hroot : IsNode free r root) : IsDump d ⟨path, root⟩

end

end NullLint.Syntax
