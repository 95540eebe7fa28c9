import NullLint.Proofs.Json.Printing
import NullLint.Proofs.Syntax.Dump.Parse

set_option autoImplicit false
set_option relaxedAutoImplicit false

/-!
# Writing tree dumps

How a dump is written as JSON: each part is an object, the line and the column of a part are members
of its object, and what is not there is `null`. A kind that has a name is written as that name, and
any other kind as a name that no kind has; so there are many ways to write one dump.

## Main definitions

* `Syntax.Nested.WrittenAs`, `Syntax.Dump.WrittenAs` — the values that write down a node, and those
  that write down a dump.

## Main results

* `Syntax.Dump.WrittenAs.exists_isTextOf` — what writes down a dump has a text.
* `Syntax.Dump.yields_of_writtenAs` — what writes down a dump is decoded as that dump.
* `Scan.parseTree_of_writtenAs` — **a dump that is written is parsed as its tree.**
-/

namespace NullLint

open Json

namespace Syntax

/-! ## Values of the parts -/

/-- The line and the column, as members of the object of a part. -/
def Position.members (p : Position) : List (String × Value) :=
  [("line", .nat p.line.toNat), ("column", .nat p.column.toNat)]

/-- The value of what may be missing. -/
def valueOr {α : Type} (f : α → Value) : Option α → Value
  | none => .null
  | some a => f a

/-- The value of an identifier. -/
def Identifier.toValue (i : Identifier) : Value :=
  .object (("text", .string i.text) :: i.position.members)

/-- The value of a type. -/
def DeclaredType.toValue (t : DeclaredType) : Value :=
  .object (("tag", .string t.tag.name) :: ("name", valueOr .string t.name) :: t.position.members)

/-- The value of an annotation. -/
def Annotation.toValue (a : Annotation) : Value :=
  .object (("name", .string a.name) :: a.position.members)

/-- The members of a node that say something about the node itself, with a name for its kind. -/
def Declaration.members (kind : String) (d : Declaration) : List (String × Value) :=
  ("kind", .string kind) :: d.position.members ++
    [("ident", valueOr Identifier.toValue d.identifier),
      ("type", valueOr DeclaredType.toValue d.type),
      ("modifiers", .array (d.modifiers.map fun m => .string m.name)),
      ("annotations", .array (d.annotations.map Annotation.toValue))]

/-- A value writes down a node. -/
inductive Nested.WrittenAs : Nested → Value → Prop
  | node {decl : Declaration} {cs : List Nested} {kind : String} {vs : List Value}
      (hkind : Kind.Named kind decl.kind) (hcs : List.Forall₂ WrittenAs cs vs) :
      (Nested.node decl cs).WrittenAs (.object (decl.members kind ++ [("children", .array vs)]))

/-- A value writes down a dump. -/
def Dump.WrittenAs (t : Dump) (v : Value) : Prop :=
  ∃ root, t.root.WrittenAs root ∧ v = .object [("path", .string t.path), ("root", root)]

/-! ## Dumps can be written -/

theorem Kind.exists_named (k : Kind) : ∃ name, Kind.Named name k := by
  by_cases hk : k ∈ Kind.named
  · exact ⟨k.name, Or.inl ⟨hk, rfl⟩⟩
  · have hother : k = .other := by
      cases k <;> first | rfl | exact absurd (by decide) hk
    exact ⟨Kind.other.name, Or.inr ⟨hother, by decide⟩⟩

mutual

theorem Nested.exists_writtenAs : ∀ n : Nested, ∃ v, n.WrittenAs v
  | .node decl cs => by
    obtain ⟨kind, hkind⟩ := Kind.exists_named decl.kind
    obtain ⟨vs, hvs⟩ := exists_forall₂_writtenAs cs
    exact ⟨_, .node hkind hvs⟩

theorem exists_forall₂_writtenAs : ∀ cs : List Nested, ∃ vs, List.Forall₂ Nested.WrittenAs cs vs
  | [] => ⟨[], .nil⟩
  | c :: cs => by
    obtain ⟨v, hv⟩ := c.exists_writtenAs
    obtain ⟨vs, hvs⟩ := exists_forall₂_writtenAs cs
    exact ⟨v :: vs, .cons hv hvs⟩

end

/-- Every dump can be written. -/
theorem Dump.exists_writtenAs (t : Dump) : ∃ v, t.WrittenAs v := by
  obtain ⟨root, hroot⟩ := t.root.exists_writtenAs
  exact ⟨_, root, hroot, rfl⟩

/-! ## Written dumps have texts -/

/-- A line or a column keeps its value when it is read. -/
theorem isExact_toNat (n : UInt32) : IsExact n.toNat := by
  have hlt := n.toNat_lt
  exact ⟨by omega, Int.ofNat_le.mpr (Nat.le_trans (Nat.le_of_lt hlt) (by decide))⟩

theorem allIntegers_valueOr {α : Type} {f : α → Value} (h : ∀ a, (f a).AllIntegers IsExact)
    (o : Option α) : (valueOr f o).AllIntegers IsExact := by
  cases o with
  | none => simp [valueOr, Value.AllIntegers]
  | some a => exact h a

theorem Position.allIntegers_members (p : Position) :
    ∀ m ∈ p.members, m.2.AllIntegers IsExact := by
  simp [members, isExact_toNat]

theorem Identifier.allIntegers_toValue (i : Identifier) : i.toValue.AllIntegers IsExact := by
  simp only [toValue, Value.allIntegers_object, List.forall_mem_cons, Value.allIntegers_string,
    true_and]
  exact i.position.allIntegers_members

theorem DeclaredType.allIntegers_toValue (t : DeclaredType) : t.toValue.AllIntegers IsExact := by
  simp only [toValue, Value.allIntegers_object, List.forall_mem_cons, Value.allIntegers_string,
    true_and]
  exact ⟨allIntegers_valueOr Value.allIntegers_string _, t.position.allIntegers_members⟩

theorem Annotation.allIntegers_toValue (a : Annotation) : a.toValue.AllIntegers IsExact := by
  simp only [toValue, Value.allIntegers_object, List.forall_mem_cons, Value.allIntegers_string,
    true_and]
  exact a.position.allIntegers_members

theorem Declaration.allIntegers_members (kind : String) (d : Declaration) :
    ∀ m ∈ d.members kind, m.2.AllIntegers IsExact := by
  simp only [members, List.forall_mem_append, List.forall_mem_cons, Value.allIntegers_string,
    true_and]
  refine ⟨d.position.allIntegers_members, allIntegers_valueOr Identifier.allIntegers_toValue _,
    allIntegers_valueOr DeclaredType.allIntegers_toValue _, by simp, ?_, List.forall_mem_nil _⟩
  simpa using fun a _ => Annotation.allIntegers_toValue a

mutual

theorem Nested.allIntegers_of_writtenAs :
    ∀ (n : Nested) {v : Value}, n.WrittenAs v → v.AllIntegers IsExact
  | .node decl cs, _, h => by
    cases h with
    | node hkind hcs =>
      simp only [Value.allIntegers_object, List.forall_mem_append, List.forall_mem_singleton,
        Value.allIntegers_array]
      exact ⟨decl.allIntegers_members _, forall_allIntegers cs hcs⟩

theorem forall_allIntegers :
    ∀ (cs : List Nested) {vs : List Value}, List.Forall₂ Nested.WrittenAs cs vs →
      ∀ v ∈ vs, v.AllIntegers IsExact
  | [], _, h => by
    cases h
    exact List.forall_mem_nil _
  | c :: cs, _, h => by
    cases h with
    | cons hc hcs =>
      exact List.forall_mem_cons.mpr ⟨c.allIntegers_of_writtenAs hc, forall_allIntegers cs hcs⟩

end

/-- What writes down a dump has a text. -/
theorem Dump.WrittenAs.exists_isTextOf {t : Dump} {v : Value} (h : t.WrittenAs v) :
    ∃ d : Draft, d.IsTextOf v.pretty ∧ d.Denotes v := by
  obtain ⟨root, hroot, rfl⟩ := h
  have hall : (Value.object [("path", .string t.path), ("root", root)]).AllIntegers IsExact := by
    simpa using t.root.allIntegers_of_writtenAs hroot
  obtain ⟨d, htext, hden⟩ := Value.exists_isTextOf_pretty hall
  exact ⟨d, htext, hden fun _ => id⟩

/-! ## Written dumps are dumps -/

section

variable {α : Type} {d : Draft} {P : Draft → α → Prop} {ms : List (String × Draft)}
  {vs : List (String × Value)}

theorem hasMembers_of_denotes (h : d.Denotes (.object vs)) :
    ∃ ms, d.HasMembers ms ∧ MembersDenote ms vs := by
  cases h with
  | object hd hnames hvs => exact ⟨_, hd, membersRelate_iff.mpr ⟨hnames, hvs⟩⟩

theorem isText_of_denotes {s : String} (h : d.Denotes (.string s)) : d.IsText s := by
  cases h with
  | string hq => exact ⟨_, rfl, hq⟩

theorem isNullOr_of_denotes {f : α → Value} {o : Option α}
    (hf : ∀ {d a}, d.Denotes (f a) → P d a) (h : d.Denotes (valueOr f o)) :
    Draft.IsNullOr P d o := by
  cases o with
  | none =>
    cases h
    exact Or.inl ⟨rfl, rfl⟩
  | some a => exact Or.inr ⟨a, hf h, rfl⟩

theorem hasItems_of_denotes {vs : List Value} (h : d.Denotes (.array vs)) :
    ∃ ds, d.HasItems ds ∧ List.Forall₂ Draft.Denotes ds vs := by
  cases h with
  | array hd hvs => exact ⟨_, hd, hvs⟩

theorem isListOf_of_denotes {f : α → Value} {as : List α} (hf : ∀ {d a}, d.Denotes (f a) → P d a)
    (h : d.Denotes (.array (as.map f))) : Draft.IsListOf P d as := by
  obtain ⟨ds, hds, hvs⟩ := hasItems_of_denotes h
  exact ⟨ds, hds, (List.forall₂_map_right_iff.mp hvs).imp fun _ _ => hf⟩

/-- A field holds the data that the value of its name writes down. -/
theorem field_of_denotes {name : String} {v : Value} {a : α} (hms : MembersDenote ms vs)
    (hv : valuesOf name vs = [v]) (hP : ∀ {d}, d.Denotes v → P d a) : Field name P ms (some a) := by
  have hvalues := hms.forall₂_valuesOf name
  rw [hv] at hvalues
  obtain ⟨d, _, hd, hnil, hds⟩ := List.forall₂_cons_right_iff.mp hvalues
  cases hnil
  exact Field.given hds (hP hd)

theorem isPosition_of_denotes {p : Position} (hms : MembersDenote ms vs)
    (hline : valuesOf "line" vs = [.nat p.line.toNat])
    (hcolumn : valuesOf "column" vs = [.nat p.column.toNat]) : IsPosition ms p :=
  ⟨field_of_denotes hms hline isWord_iff_denotes.mpr,
    field_of_denotes hms hcolumn isWord_iff_denotes.mpr⟩

theorem othersAre_of_denotes (known : List String) (hms : MembersDenote ms vs) :
    OthersAre Draft.IsValue known ms :=
  fun m hm _ => exists_membersDenote_iff.mp ⟨vs, hms⟩ m hm

end

theorem Identifier.isIdentifier_of_denotes {d : Draft} {i : Identifier} (h : d.Denotes i.toValue) :
    IsIdentifier Draft.IsValue d i := by
  obtain ⟨ms, hd, hms⟩ := hasMembers_of_denotes h
  have hposition : IsPosition ms i.position :=
    isPosition_of_denotes hms (by simp [valuesOf, Position.members])
      (by simp [valuesOf, Position.members])
  exact ⟨ms, hd, field_of_denotes hms (by simp [valuesOf, Position.members]) isText_of_denotes,
    hposition, othersAre_of_denotes _ hms⟩

theorem DeclaredType.isType_of_denotes {d : Draft} {t : DeclaredType} (h : d.Denotes t.toValue) :
    IsType Draft.IsValue d t := by
  obtain ⟨ms, hd, hms⟩ := hasMembers_of_denotes h
  have hposition : IsPosition ms t.position :=
    isPosition_of_denotes hms (by simp [valuesOf, Position.members])
      (by simp [valuesOf, Position.members])
  have htag : Field "tag" (Draft.IsName fun name tag => tag.name = name) ms (some t.tag) :=
    field_of_denotes hms (by simp [valuesOf, Position.members]) fun hd =>
      ⟨t.tag.name, rfl, Or.inl (isText_of_denotes hd)⟩
  have hname : Field "name" (Draft.IsNullOr Draft.IsText) ms (some t.name) :=
    field_of_denotes hms (by simp [valuesOf, Position.members])
      (isNullOr_of_denotes isText_of_denotes)
  exact ⟨ms, hd, htag, ⟨_, hname, rfl⟩, hposition, othersAre_of_denotes _ hms⟩

theorem Annotation.isAnnotationNode_of_denotes {d : Draft} {a : Annotation}
    (h : d.Denotes a.toValue) :
    IsAnnotationNode Draft.IsValue d a := by
  obtain ⟨ms, hd, hms⟩ := hasMembers_of_denotes h
  have hposition : IsPosition ms a.position :=
    isPosition_of_denotes hms (by simp [valuesOf, Position.members])
      (by simp [valuesOf, Position.members])
  exact ⟨ms, hd, field_of_denotes hms (by simp [valuesOf, Position.members]) isText_of_denotes,
    hposition, othersAre_of_denotes _ hms⟩

theorem Declaration.declarationMembers_of_denotes {ms : List (String × Draft)} {kind : String}
    {decl : Declaration} {vs : List Value} (hkind : Kind.Named kind decl.kind)
    (hms : MembersDenote ms (decl.members kind ++ [("children", .array vs)])) :
    DeclarationMembers Draft.IsValue ms decl where
  kind := field_of_denotes hms (by simp [valuesOf, members, Position.members]) fun hd =>
    ⟨kind, hkind, Or.inl (isText_of_denotes hd)⟩
  position := isPosition_of_denotes hms (by simp [valuesOf, members, Position.members])
    (by simp [valuesOf, members, Position.members])
  identifier := ⟨_, field_of_denotes hms (by simp [valuesOf, members, Position.members])
    (isNullOr_of_denotes Identifier.isIdentifier_of_denotes), rfl⟩
  type := ⟨_, field_of_denotes hms (by simp [valuesOf, members, Position.members])
    (isNullOr_of_denotes DeclaredType.isType_of_denotes), rfl⟩
  modifiers := ⟨_, field_of_denotes hms (by simp [valuesOf, members, Position.members])
    (isListOf_of_denotes fun hd => ⟨_, rfl, Or.inl (isText_of_denotes hd)⟩), rfl⟩
  annotations := ⟨_, field_of_denotes hms (by simp [valuesOf, members, Position.members])
    (isListOf_of_denotes Annotation.isAnnotationNode_of_denotes), rfl⟩
  others := othersAre_of_denotes _ hms

mutual

/-- What writes down a node is read as that node. -/
theorem Nested.isNode_of_writtenAs : ∀ (n : Nested) {v : Value} {d : Draft}, n.WrittenAs v →
    d.Denotes v → IsNode Draft.IsValue d n
  | .node decl cs, _, d, h, hden => by
    cases h with
    | @node _ _ kind vs hkind hcs =>
      obtain ⟨ms, hd, hms⟩ := hasMembers_of_denotes hden
      have hdecl := decl.declarationMembers_of_denotes hkind hms
      have hvalues := hms.forall₂_valuesOf "children"
      have hchildren : valuesOf "children" (decl.members kind ++ [("children", .array vs)]) =
          [.array vs] := by
        simp [valuesOf, Declaration.members, Position.members]
      rw [hchildren] at hvalues
      obtain ⟨v, _, hv, hnil, hchild⟩ := List.forall₂_cons_right_iff.mp hvalues
      cases hnil
      obtain ⟨ds, hitems, hds⟩ := hasItems_of_denotes hv
      exact .inner hd hdecl hchild hitems (forall₂_isNode_of_writtenAs cs hcs hds)

theorem forall₂_isNode_of_writtenAs : ∀ (cs : List Nested) {vs : List Value} {ds : List Draft},
    List.Forall₂ Nested.WrittenAs cs vs → List.Forall₂ Draft.Denotes ds vs →
      List.Forall₂ (IsNode Draft.IsValue) ds cs
  | [], _, _, hcs, hds => by
    cases hcs
    cases hds
    exact .nil
  | c :: cs, _, _, hcs, hds => by
    cases hcs with
    | cons hc hcs =>
      cases hds with
      | cons hd hds =>
        exact .cons (c.isNode_of_writtenAs hc hd) (forall₂_isNode_of_writtenAs cs hcs hds)

end

/-- What writes down a dump is decoded as that dump, unless it is nested too deeply. -/
theorem Dump.yields_of_writtenAs {l : Nat} {t : Dump} {v : Value} {d : Draft} (h : t.WrittenAs v)
    (hden : d.Denotes v) (hskip : d.skip = .ok ()) :
    Yields (d.depth ≤ l + 1) (Dump.decode (l + 1) d) t := by
  obtain ⟨root, hroot, rfl⟩ := h
  obtain ⟨ms, hd, hms⟩ := hasMembers_of_denotes hden
  have hpath : Field "path" Draft.IsText ms (some t.path) :=
    field_of_denotes hms (by simp [valuesOf]) isText_of_denotes
  have hnode : Field "root" (IsNode Draft.IsValue) ms (some t.root) :=
    field_of_denotes hms (by simp [valuesOf]) (t.root.isNode_of_writtenAs hroot)
  refine (Dump.yields_object hd hskip hpath hnode).congr ?_
  rw [hd.depth_le_iff]
  have hnames : ms.map Prod.fst = ["path", "root"] := (membersRelate_iff.mp hms).1
  refine forall₂_congr fun m hm => ?_
  have hmem : m.1 ∈ ["path", "root"] := hnames ▸ List.mem_map_of_mem hm
  simp [hmem]

end Syntax

open Syntax

/-- **A dump that is written is parsed as its tree.** Every dump can be written, and a value that
writes it down has a text. From any text of such a value the tree of the dump is parsed if lists and
objects are nested at most 127 times, and otherwise that is the error. -/
theorem Scan.parseTree_of_writtenAs (t : Dump) :
    (∃ v, t.WrittenAs v) ∧
      ∀ v, t.WrittenAs v →
        (∃ d : Draft, d.IsTextOf v.pretty ∧ d.Denotes v) ∧
          ∀ (text : String) (d : Draft), d.IsTextOf text → d.Denotes v →
            (d.depth ≤ 127 → Scan.parseTree text = .ok (Tree.ofDump t)) ∧
              (127 < d.depth →
                ∃ e, Scan.parseTree text = .error (.malformed e) ∧ e.fault = .tooDeep) := by
  refine ⟨t.exists_writtenAs, fun v hv => ⟨hv.exists_isTextOf, fun text d htext hden => ?_⟩⟩
  have hyields : Yields (d.depth ≤ maxLevels) (Dump.decode maxLevels d) t :=
    Dump.yields_of_writtenAs hv hden htext.skip
  rw [Scan.parseTree, Dump.parse_of_isTextOf htext]
  constructor
  · intro hdepth
    rw [hyields.ok hdepth]
    rfl
  · intro hdepth
    obtain ⟨e, he, hfault⟩ := hyields.tooDeep (Nat.not_le.mpr hdepth)
    exact ⟨e, by rw [he]; rfl, hfault⟩

end NullLint
