import NullLint.Proofs.Syntax.Dump.Position

set_option autoImplicit false
set_option relaxedAutoImplicit false

/-!
# Decoding follows the schema

The decoders of a dump and of its parts find what the schema says: nothing else is decoded, and all
of it is unless it is nested too deeply.

## Main definitions

* `Syntax.Identifier.record`, `Syntax.DeclaredType.record`, `Syntax.Annotation.record`,
  `Syntax.Nested.record`, `Syntax.Dump.record` — the fields of the parts and of a dump.
* `Syntax.Dump.Fields.Hold` — what a dump holds of some members.

## Main results

* `Syntax.decodes_identifier`, `Syntax.decodes_type`, `Syntax.decodes_annotation` — the parts.
* `Syntax.decodes_node` — **nodes are decoded.**
* `Syntax.Dump.decode_eq_ok_iff` — **decoding follows the schema.**

## Design

Each part is described as a `Json.Record`, and the law of such records is the same for all of them.
A node and its parts keep the members that they have no field for, so those have to be values. A
dump skips them; they may be of any depth and stand for nothing.
-/

namespace NullLint.Syntax

open Json

variable {l levels : Nat}

theorem unknownYet_eq_ok_iff {α : Type} {name : String} {o : Option α} :
    unknownYet name o = .ok () ↔ o = none := by
  cases o <;> simp [unknownYet]

/-! ## Identifiers -/

namespace Identifier

/-- The fields of an identifier. -/
def record : Record Fields Spread where
  slots := [⟨"text", String, Fields.text, fun o r => { r with text := o }, Draft.string,
    Draft.IsText⟩]
  others := Fields.spread
  setOthers vs r := { r with spread := vs }

theorem independent_record : record.Independent := by
  constructor <;> simp [record, Record.known]

theorem lawful_record : record.Lawful l (Draft.takeValue l) [] Fields.claim (Fields.take l) {} where
  toIndependent := independent_record
  decodes := by simp [record, decodes_string]
  start := by
    rintro ⟨text, spread⟩
    simp [record]
  claim_slot := by simp [record, Fields.claim, unknownYet_eq_ok_iff]
  take_slot := by simp [record, Fields.take]
  claim_other := by simp +contextual [record, Record.known, Fields.claim]
  take_other := by
    simp +contextual [record, Record.known, Fields.take, Spread.keep, Draft.takeValue]

theorem exists_holds_iff {ms : List (String × Draft)} {i : Identifier} :
    (∃ r, record.Holds MembersDenote ms r ∧ r.finish = .ok i) ↔
      IdentifierMembers Draft.IsValue ms i := by
  simp only [Fields.finish, monadBind_eq_ok_iff, required_eq_ok_iff]
  have hposition := @Position.exists_others_iff ["text"] ms i.position (by decide) (by decide)
  constructor
  · rintro ⟨⟨_, vs⟩, ⟨hfields, hothers⟩, text, rfl, position, hp, ⟨⟩⟩
    obtain ⟨hp, hfree⟩ := hposition.mp ⟨vs, hothers, hp⟩
    exact ⟨hfields _ List.mem_cons_self, hp, hfree⟩
  · rintro ⟨htext, hp, hfree⟩
    obtain ⟨vs, hvs, hp⟩ := hposition.mpr ⟨hp, hfree⟩
    refine ⟨⟨some i.text, vs⟩, ⟨?_, hvs⟩, i.text, rfl, i.position, hp, rfl⟩
    simpa [record] using htext

end Identifier

/-- Identifiers are decoded. -/
theorem decodes_identifier (levels : Nat) :
    Decodes levels (Identifier.decode levels) (IsIdentifier Draft.IsValue) := by
  refine decodes_finished ?_ fun _ _ => Identifier.exists_holds_iff
  rintro l rfl
  exact Identifier.lawful_record.takes_of_depth (takes_value (decodes_value l))

/-! ## Types -/

namespace DeclaredType

/-- The fields of a type. -/
def record (l : Nat) : Record Fields Spread where
  slots := [
    ⟨"tag", TypeTag, Fields.tag, fun o r => { r with tag := o },
      Draft.nameOf l TypeTag.ofName, Draft.IsName fun name tag => tag.name = name⟩,
    ⟨"name", Option String, Fields.name, fun o r => { r with name := o },
      Draft.optional Draft.string, Draft.IsNullOr Draft.IsText⟩]
  others := Fields.spread
  setOthers vs r := { r with spread := vs }

theorem independent_record : (record l).Independent := by
  constructor <;> simp [record, Record.known]

theorem lawful_record :
    (record l).Lawful l (Draft.takeValue l) [] Fields.claim (Fields.take l) {} where
  toIndependent := independent_record
  decodes := by
    simp only [record, List.forall_mem_cons, List.not_mem_nil, false_implies, implies_true,
      and_true]
    refine ⟨decodes_nameOf l fun _ _ => TypeTag.ofName_eq_ok_iff,
      decodes_optional (decodes_string l) ?_⟩
    rintro s ⟨q, hq, -⟩
    cases hq
  start := by
    rintro ⟨tag, name, spread⟩
    simp [record, and_assoc]
  claim_slot := by simp [record, Fields.claim, unknownYet_eq_ok_iff]
  take_slot := by simp [record, Fields.take]
  claim_other := by simp +contextual [record, Record.known, Fields.claim]
  take_other := by
    simp +contextual [record, Record.known, Fields.take, Spread.keep, Draft.takeValue]

theorem exists_holds_iff {ms : List (String × Draft)} {t : DeclaredType} :
    (∃ r, (record l).Holds MembersDenote ms r ∧ r.finish = .ok t) ↔
      TypeMembers Draft.IsValue ms t := by
  simp only [Fields.finish, monadBind_eq_ok_iff, required_eq_ok_iff]
  have hposition :=
    @Position.exists_others_iff ["tag", "name"] ms t.position (by decide) (by decide)
  constructor
  · rintro ⟨⟨_, name, vs⟩, ⟨hfields, hothers⟩, tag, rfl, position, hp, ⟨⟩⟩
    obtain ⟨hp, hfree⟩ := hposition.mp ⟨vs, hothers, hp⟩
    simp only [record, List.forall_mem_cons] at hfields
    exact ⟨hfields.1, ⟨name, hfields.2.1, rfl⟩, hp, hfree⟩
  · rintro ⟨htag, ⟨name, hname, hnone⟩, hp, hfree⟩
    obtain ⟨vs, hvs, hp⟩ := hposition.mpr ⟨hp, hfree⟩
    refine ⟨⟨some t.tag, name, vs⟩, ⟨?_, hvs⟩, t.tag, rfl, t.position, hp, ?_⟩
    · simpa [record] using And.intro htag hname
    · rw [← hnone]
      rfl

end DeclaredType

/-- Types are decoded. -/
theorem decodes_type (levels : Nat) :
    Decodes levels (DeclaredType.decode levels) (IsType Draft.IsValue) := by
  refine decodes_finished ?_ fun _ _ => DeclaredType.exists_holds_iff (l := levels - 1)
  rintro l rfl
  exact DeclaredType.lawful_record.takes_of_depth (takes_value (decodes_value l))

/-! ## Annotations -/

namespace Annotation

/-- The fields of an annotation. -/
def record : Record Fields Spread where
  slots := [⟨"name", String, Fields.name, fun o r => { r with name := o }, Draft.string,
    Draft.IsText⟩]
  others := Fields.spread
  setOthers vs r := { r with spread := vs }

theorem independent_record : record.Independent := by
  constructor <;> simp [record, Record.known]

theorem lawful_record : record.Lawful l (Draft.takeValue l) [] Fields.claim (Fields.take l) {} where
  toIndependent := independent_record
  decodes := by simp [record, decodes_string]
  start := by
    rintro ⟨name, spread⟩
    simp [record]
  claim_slot := by simp [record, Fields.claim, unknownYet_eq_ok_iff]
  take_slot := by simp [record, Fields.take]
  claim_other := by simp +contextual [record, Record.known, Fields.claim]
  take_other := by
    simp +contextual [record, Record.known, Fields.take, Spread.keep, Draft.takeValue]

theorem exists_holds_iff {ms : List (String × Draft)} {a : Annotation} :
    (∃ r, record.Holds MembersDenote ms r ∧ r.finish = .ok a) ↔
      AnnotationMembers Draft.IsValue ms a := by
  simp only [Fields.finish, monadBind_eq_ok_iff, required_eq_ok_iff]
  have hposition := @Position.exists_others_iff ["name"] ms a.position (by decide) (by decide)
  constructor
  · rintro ⟨⟨_, vs⟩, ⟨hfields, hothers⟩, name, rfl, position, hp, ⟨⟩⟩
    obtain ⟨hp, hfree⟩ := hposition.mp ⟨vs, hothers, hp⟩
    exact ⟨hfields _ List.mem_cons_self, hp, hfree⟩
  · rintro ⟨hname, hp, hfree⟩
    obtain ⟨vs, hvs, hp⟩ := hposition.mpr ⟨hp, hfree⟩
    refine ⟨⟨some a.name, vs⟩, ⟨?_, hvs⟩, a.name, rfl, a.position, hp, rfl⟩
    simpa [record] using hname

end Annotation

/-- Annotations are decoded. -/
theorem decodes_annotation (levels : Nat) :
    Decodes levels (fun d => Annotation.decode levels d) (IsAnnotationNode Draft.IsValue) := by
  refine decodes_finished ?_ fun _ _ => Annotation.exists_holds_iff
  rintro l rfl
  exact Annotation.lawful_record.takes_of_depth (takes_value (decodes_value l))

/-! ## Nodes -/

theorem not_hasMembers_null (ms : List (String × Draft)) :
    ¬(Draft.word .null none).HasMembers ms := by
  rintro ⟨members, h, -⟩
  cases h

namespace Nested

/-- The fields of a node, whose children are decoded in some way. -/
def record (l : Nat) (child : Draft → Except Located Nested) (IsChild : Draft → Nested → Prop) :
    Record Fields Spread where
  slots := [
    ⟨"kind", Kind, Fields.kind, fun o r => { r with kind := o },
      Draft.nameOf l fun s => .ok (Kind.ofName s), Draft.IsName Kind.Named⟩,
    ⟨"ident", Option Identifier, Fields.identifier, fun o r => { r with identifier := o },
      Draft.optional (Identifier.decode l), Draft.IsNullOr (IsIdentifier Draft.IsValue)⟩,
    ⟨"type", Option DeclaredType, Fields.type, fun o r => { r with type := o },
      Draft.optional (DeclaredType.decode l), Draft.IsNullOr (IsType Draft.IsValue)⟩,
    ⟨"modifiers", List Modifier, Fields.modifiers, fun o r => { r with modifiers := o },
      Draft.listOf l (Draft.nameOf (l - 1) Modifier.ofName),
      Draft.IsListOf (Draft.IsName fun name m => m.name = name)⟩,
    ⟨"annotations", List Annotation, Fields.annotations, fun o r => { r with annotations := o },
      Draft.listOf l fun d => Annotation.decode (l - 1) d,
      Draft.IsListOf (IsAnnotationNode Draft.IsValue)⟩,
    ⟨"children", List Nested, Fields.children, fun o r => { r with children := o },
      Draft.listOf l child, Draft.IsListOf IsChild⟩]
  others := Fields.spread
  setOthers vs r := { r with spread := vs }

variable {child : Draft → Except Located Nested} {IsChild : Draft → Nested → Prop}

theorem independent_record : (record l child IsChild).Independent := by
  constructor <;> simp [record, Record.known]

theorem lawful_record (h : ∀ k, l = k + 1 → Decodes k child IsChild) :
    (record l child IsChild).Lawful l (Draft.takeValue l) [] Fields.claim (Fields.take l child)
      {} where
  toIndependent := independent_record
  decodes := by
    have hmodifiers : ∀ k, l = k + 1 → Decodes k (Draft.nameOf (l - 1) Modifier.ofName)
        (Draft.IsName fun name m => m.name = name) := by
      rintro k rfl
      exact decodes_nameOf k fun _ _ => Modifier.ofName_eq_ok_iff
    have hannotations : ∀ k, l = k + 1 →
        Decodes k (fun d => Annotation.decode (l - 1) d) (IsAnnotationNode Draft.IsValue) := by
      rintro k rfl
      exact decodes_annotation k
    have hidentifier : ∀ i, ¬IsIdentifier Draft.IsValue (.word .null none) i := by
      rintro i ⟨ms, hms, -⟩
      exact not_hasMembers_null ms hms
    have htype : ∀ t, ¬IsType Draft.IsValue (.word .null none) t := by
      rintro t ⟨ms, hms, -⟩
      exact not_hasMembers_null ms hms
    simp only [record, List.forall_mem_cons, List.not_mem_nil, false_implies, implies_true,
      and_true]
    exact ⟨decodes_nameOf l fun _ _ => by simp [Kind.ofName_eq_iff],
      decodes_optional (decodes_identifier l) hidentifier,
      decodes_optional (decodes_type l) htype,
      decodes_listOf hmodifiers, decodes_listOf hannotations, decodes_listOf h⟩
  start := by
    rintro ⟨kind, identifier, type, modifiers, annotations, children, spread⟩
    simp [record, and_assoc]
  claim_slot := by simp [record, Fields.claim, unknownYet_eq_ok_iff]
  take_slot := by simp [record, Fields.take]
  claim_other := by simp +contextual [record, Record.known, Fields.claim]
  take_other := by
    simp +contextual [record, Record.known, Fields.take, Spread.keep, Draft.takeValue]

/-- The members of a node, whose children are said in some way. -/
structure Members (IsChild : Draft → Nested → Prop) (ms : List (String × Draft)) (n : Nested) :
    Prop where
  declaration : DeclarationMembers Draft.IsValue ms n.declaration
  children : ∃ cs, Field "children" (Draft.IsListOf IsChild) ms cs ∧ n.children = cs.getD []

theorem exists_holds_iff {ms : List (String × Draft)} {n : Nested} :
    (∃ r, (record l child IsChild).Holds MembersDenote ms r ∧ r.finish = .ok n) ↔
      Members IsChild ms n := by
  simp only [Fields.finish, monadBind_eq_ok_iff, required_eq_ok_iff]
  have hposition := @Position.exists_others_iff
    ["kind", "ident", "type", "modifiers", "annotations", "children"] ms n.declaration.position
    (by decide) (by decide)
  constructor
  · rintro ⟨⟨_, identifier, type, modifiers, annotations, children, vs⟩, ⟨hfields, hothers⟩, kind,
      rfl, position, hp, ⟨⟩⟩
    obtain ⟨hp, hfree⟩ := hposition.mp ⟨vs, hothers, hp⟩
    simp only [record, List.forall_mem_cons] at hfields
    obtain ⟨hkind, hidentifier, htype, hmodifiers, hannotations, hchildren, -⟩ := hfields
    exact
      { declaration :=
          { kind := hkind
            position := hp
            identifier := ⟨identifier, hidentifier, rfl⟩
            type := ⟨type, htype, rfl⟩
            modifiers := ⟨modifiers, hmodifiers, rfl⟩
            annotations := ⟨annotations, hannotations, rfl⟩
            others := hfree }
        children := ⟨children, hchildren, rfl⟩ }
  · obtain ⟨⟨kind, position, identifier, type, modifiers, annotations⟩, children⟩ := n
    rintro ⟨⟨hkind, hp, ⟨i, hi, hidentifier⟩, ⟨t, ht, htype⟩, ⟨ml, hml, hmodifiers⟩,
      ⟨al, hal, hannotations⟩, hfree⟩, cs, hcs, hchildren⟩
    obtain ⟨vs, hvs, hp⟩ := hposition.mpr ⟨hp, hfree⟩
    refine ⟨⟨some kind, i, t, ml, al, cs, vs⟩, ⟨?_, hvs⟩, kind, rfl, position, hp, ?_⟩
    · simp only [record, List.forall_mem_cons, List.not_mem_nil, false_implies, implies_true,
        and_true]
      exact ⟨hkind, hi, ht, hml, hal, hcs⟩
    · dsimp only [declaration, Nested.children] at *
      subst hidentifier htype hmodifiers hannotations hchildren
      rfl

/-- Nodes are decoded if their children are, which may go two levels less deep. -/
theorem decodes_of (h : ∀ k, levels = k + 1 → k = l ∧ ∀ j, l = j + 1 → Decodes j child IsChild) :
    Decodes levels
      (fun d => do
        let r ← d.recordOf levels "struct RawNode" Fields.claim (Fields.take l child) {}
        placed r.finish)
      fun d n => ∃ ms, d.HasMembers ms ∧ Members IsChild ms n := by
  refine decodes_finished (fun k hk => ?_) fun _ _ => @exists_holds_iff l child IsChild _ _
  obtain ⟨rfl, hchild⟩ := h k hk
  exact (lawful_record hchild).takes_of_depth (takes_value (decodes_value _))

end Nested

/-- A draft is a node if its members are those of a node whose children are nodes. -/
theorem isNode_iff {d : Draft} {n : Nested} :
    IsNode Draft.IsValue d n ↔
      ∃ ms, d.HasMembers ms ∧ Nested.Members (IsNode Draft.IsValue) ms n := by
  constructor
  · intro h
    cases h with
    | leaf hd hdecl hchildren => exact ⟨_, hd, hdecl, none, Field.absent hchildren, rfl⟩
    | inner hd hdecl hchildren hvs hcs =>
      exact ⟨_, hd, hdecl, some _, Field.given hchildren ⟨_, hvs, hcs⟩, rfl⟩
  · obtain ⟨decl, cs⟩ := n
    rintro ⟨ms, hd, hdecl, o, ho, hcs⟩
    cases ho with
    | absent hchildren =>
      obtain rfl : cs = [] := hcs
      exact IsNode.leaf hd hdecl hchildren
    | given hchildren hlist =>
      obtain rfl : cs = _ := hcs
      obtain ⟨vs, hvs, hcs⟩ := hlist
      exact IsNode.inner hd hdecl hchildren hvs hcs

/-- **Nodes are decoded.**

**Proof sketch.** Induction on the levels that are left, two at a time: a node takes one level and
the list of its children takes another one. -/
theorem decodes_node : ∀ levels, Decodes levels (Nested.decode levels) (IsNode Draft.IsValue)
  | 0 => by
    refine (Nested.decodes_of fun k hk => ?_).congr fun _ _ => isNode_iff.symm
    cases hk
  | 1 => by
    refine (Nested.decodes_of fun k hk => ⟨by cases hk; rfl, fun j hj => ?_⟩).congr
      fun _ _ => isNode_iff.symm
    cases hj
  | levels + 2 => by
    refine (Nested.decodes_of fun k hk => ⟨by cases hk; rfl, fun j hj => ?_⟩).congr
      fun _ _ => isNode_iff.symm
    cases hj
    exact decodes_node levels

/-! ## Dumps -/

namespace Dump

/-- The fields of a dump. Other members are skipped, so nothing is held of them. -/
def record (l : Nat) : Record Fields Unit where
  slots := [
    ⟨"path", String, Fields.path, fun o r => { r with path := o }, Draft.string, Draft.IsText⟩,
    ⟨"root", Nested, Fields.root, fun o r => { r with root := o }, Nested.decode l,
      IsNode Draft.IsValue⟩]
  others _ := ()
  setOthers _ r := r

theorem independent_record : (record l).Independent := by
  constructor <;> simp [record, Record.known]

theorem lawful_record :
    (record l).Lawful l Draft.takeSkipped () Fields.claim (Fields.take l) {} where
  toIndependent := independent_record
  decodes := by simp [record, decodes_string, decodes_node]
  start := by
    rintro ⟨path, root⟩
    simp [record]
  claim_slot := by simp [record, Fields.claim, unknownYet_eq_ok_iff]
  take_slot := by simp [record, Fields.take]
  claim_other := by simp +contextual [record, Record.known, Fields.claim]
  take_other := by simp +contextual [record, Record.known, Fields.take, Draft.takeSkipped]

/-- What a dump holds of some members, the ones that it skips included. -/
def Fields.Hold (l : Nat) (ms : List (String × Draft)) (r : Fields) : Prop :=
  (record l).Holds (fun ms _ => ∀ m ∈ ms, m.2.skip = .ok ()) ms r

theorem Fields.hold_iff {ms : List (String × Draft)} {r : Fields} :
    Fields.Hold l ms r ↔ Field "path" Draft.IsText ms r.path ∧
      Field "root" (IsNode Draft.IsValue) ms r.root ∧
        ∀ m ∈ ms, m.1 ∉ ["path", "root"] → m.2.skip = .ok () := by
  constructor
  · rintro ⟨hfields, hothers⟩
    simp only [record, List.forall_mem_cons] at hfields
    refine ⟨hfields.1, hfields.2.1, fun m hm hname => hothers m (List.mem_filter.mpr ⟨hm, ?_⟩)⟩
    exact decide_eq_true hname
  · rintro ⟨hpath, hroot, hothers⟩
    refine ⟨?_, fun m hm => ?_⟩
    · simp only [record, List.forall_mem_cons, List.not_mem_nil, false_implies, implies_true,
        and_true]
      exact ⟨hpath, hroot⟩
    · obtain ⟨hm, hname⟩ := List.mem_filter.mp hm
      exact hothers m hm (of_decide_eq_true hname)

theorem takes : Takes (fun name v => if name ∈ ["path", "root"] then v.depth ≤ l else True)
    Fields.claim (Fields.take l) {} (Fields.Hold l) :=
  lawful_record.takes takes_skipped

theorem Fields.finish_eq_ok_iff {r : Fields} {dump : Dump} :
    r.finish = .ok dump ↔ r.root = some dump.root ∧ dump.path = r.path.getD "" := by
  obtain ⟨path, root⟩ := dump
  simp only [finish, monadBind_eq_ok_iff, required_eq_ok_iff]
  constructor
  · rintro ⟨root, hroot, ⟨⟩⟩
    exact ⟨hroot, rfl⟩
  · rintro ⟨hroot, rfl⟩
    exact ⟨root, hroot, rfl⟩

theorem afterLast_eq_none_iff {items : Items} :
    afterLast items = none ↔ items = .stop .closed := by
  constructor
  · intro h
    unfold afterLast at h
    split at h
    · rfl
    all_goals cases h
  · rintro rfl
    rfl

/-- An object is decoded except at the last level. -/
theorem decode_object (levels : Nat) (members : Members) :
    decode levels (.object members) = (do
      let r ← (Draft.object members).recordOf levels "struct RawTree" Fields.claim
        (Fields.take (levels - 1)) {}
      placed r.finish) := rfl

/-- A list of two is decoded except at the last level. -/
theorem decode_pair (p r : Draft) :
    decode (l + 1) (.list (.item p (.item r (.stop .closed)))) = (do
      let path ← within (.index 0) p.string
      let root ← within (.index 1) (Nested.decode l r)
      return ⟨path, root⟩) := rfl

/-- An object is decoded as what a dump holds of its members. -/
theorem exists_hold_of_decode {members : Members} {dump : Dump}
    (h : decode levels (.object members) = .ok dump) :
    ∃ ms, (Draft.object members).HasMembers ms ∧
      ∃ r, Fields.Hold (levels - 1) ms r ∧ r.finish = .ok dump := by
  rw [decode_object, monadBind_eq_ok_iff] at h
  obtain ⟨r, hr, h⟩ := h
  obtain ⟨ms, hms, hold⟩ := holds_of_recordOf (fun _ _ => ⟨_, takes⟩) hr
  exact ⟨ms, hms, r, hold, placed_eq_ok_iff.mp h⟩

/-- Only dumps are decoded. -/
theorem isDump_of_decode {d : Draft} {dump : Dump} (h : decode levels d = .ok dump) :
    IsDump Draft.IsValue d dump := by
  cases d with
  | list items =>
    rw [decode] at h
    split at h
    · cases h
    · match items, h with
      | .item p (.item r rest), h =>
        simp only [decodePair, monadBind_eq_ok_iff, within_eq_ok_iff] at h
        obtain ⟨path, hpath, root, hroot, h⟩ := h
        split at h
        · cases h
        · next hrest =>
          cases h
          rw [afterLast_eq_none_iff.mp hrest]
          exact IsDump.pair ⟨_, rfl, .cons (.cons .nil)⟩ ((decodes_string 0).sound hpath)
            ((decodes_node _).sound hroot)
      | .item p (.stop s), h =>
        simp only [decodePair, monadBind_eq_ok_iff] at h
        obtain ⟨_, -, h⟩ := h
        cases s <;> cases h
      | .stop s, h => cases s <;> cases h
  | object members =>
    obtain ⟨ms, hms, r, hold, hfinish⟩ := exists_hold_of_decode h
    obtain ⟨hroot, hpath⟩ := Fields.finish_eq_ok_iff.mp hfinish
    obtain ⟨path, root⟩ := dump
    cases hpath
    obtain ⟨hpath, hnode, -⟩ := Fields.hold_iff.mp hold
    exact IsDump.object hms hpath (hroot ▸ hnode)
  | _ => cases h

/-- A dump that is an object is decoded if its root, which may go one level less deep than the
object, is not nested too deeply. How deep other members are nested does not matter. -/
theorem yields_object {d : Draft} {ms : List (String × Draft)} {path : Option String}
    {root : Nested} (hd : d.HasMembers ms) (hskip : d.skip = .ok ())
    (hpath : Field "path" Draft.IsText ms path)
    (hroot : Field "root" (IsNode Draft.IsValue) ms (some root)) :
    Yields (∀ m ∈ ms, m.1 ∈ ["path", "root"] → m.2.depth ≤ l) (decode (l + 1) d)
      ⟨path.getD "", root⟩ := by
  have hhold : Fields.Hold l ms ⟨path, some root⟩ :=
    Fields.hold_iff.mpr ⟨hpath, hroot, fun m hm _ => hd.skip_iff.mp hskip m hm⟩
  have hrecord : Yields (∀ m ∈ ms, m.1 ∈ ["path", "root"] → m.2.depth ≤ l)
      (d.recordOf (l + 1) "struct RawTree" Fields.claim (Fields.take l) {}) ⟨path, some root⟩ :=
    (yields_recordOf takes hd hhold).congr (by simp [imp_iff_not_or])
  have hfinish : placed (Fields.finish ⟨path, some root⟩) = .ok ⟨path.getD "", root⟩ := rfl
  obtain ⟨members, rfl, -⟩ := hd
  rw [decode_object]
  exact hrecord.bind hfinish

/-- A dump that is a list is decoded if its root, which may go one level less deep than the list, is
not nested too deeply. -/
theorem yields_pair {d p r : Draft} {path : String} {root : Nested} (hd : d.HasItems [p, r])
    (hpath : p.IsText path) (hroot : IsNode Draft.IsValue r root) :
    Yields (r.depth ≤ l) (decode (l + 1) d) ⟨path, root⟩ := by
  obtain ⟨items, rfl, hare⟩ := hd
  obtain _ | ⟨_ | ⟨⟨⟩⟩⟩ := hare
  have hp : within (.index 0) p.string = .ok path :=
    within_eq_ok_iff.mpr ((decodes_string 0).complete hpath (Nat.le_of_eq hpath.depth_eq))
  rw [decode_pair, hp, ok_bind, bind_pure_eq_map]
  exact (((decodes_node l).yields hroot).within (.index 1)).map fun root => (⟨path, root⟩ : Dump)

/-- **Decoding follows the schema.** What is not nested too deeply is decoded as a dump if and only
if it is one. -/
theorem decode_eq_ok_iff {d : Draft} {dump : Dump} (hskip : d.skip = .ok ())
    (hdepth : d.depth ≤ l + 1) : decode (l + 1) d = .ok dump ↔ IsDump Draft.IsValue d dump := by
  refine ⟨isDump_of_decode, ?_⟩
  rintro (⟨hd, hpath, hroot⟩ | ⟨hd, hpath, hroot⟩)
  · exact (yields_object hd hskip hpath hroot).ok fun m hm _ => hd.depth_le_iff.mp hdepth m hm
  · refine (yields_pair hd hpath hroot).ok (hd.depth_le_iff.mp hdepth _ ?_)
    exact List.mem_cons_of_mem _ List.mem_cons_self

end Dump

end NullLint.Syntax
