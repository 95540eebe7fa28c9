import NullLint.Proofs.Rule.Nested
import NullLint.Proofs.Syntax.Edit

set_option autoImplicit false
set_option relaxedAutoImplicit false

/-!
# Edits are local

What the rule about null annotations reports about a declaration depends on the declaration, on the
parameters in its first list of parameters, and on its parent. A new child somewhere in a dump
changes none of these for the declarations that were there, unless it is a list of parameters or a
parameter itself. So what was reported before is reported again, in the same order, and what is
reported about the new child comes in one block between.

## Main definitions

* `Syntax.Nested.parameterDeclarations` — the parameter declarations among the children.
* `NullAnnotations.LacksPart` — a declaration lacks a part that its judgement needs.

## Main results

* `Syntax.Nested.Inserts.parameters_eq` — a new child leaves the parameters of a declaration alone.
* `Syntax.Nested.gather_of_inserts` — a recursion over a nested tree with a new child.
* `NullAnnotations.Classifier.dispatch_insertAt` — what is reported about a dump with a new child.
-/

namespace NullLint

open Syntax Tree

namespace Syntax.Nested

/-- The parameter declarations among the children. -/
def parameterDeclarations (s : Nested) : List Declaration :=
  (s.children.map declaration).filter fun d => d.kind == .parameterDef

/-- The parameters are the parameter declarations in the first list of parameters. -/
theorem parameters_eq_getD (s : Nested) :
    s.parameters = ((s.children.find? fun c => c.declaration.kind == .parameters).map
      parameterDeclarations).getD [] := by
  unfold parameters
  cases s.children.find? fun c => c.declaration.kind == .parameters <;> rfl

variable {new s s' : Nested} {k : Kind}

/-- A new child leaves the parameter declarations among the children alone. -/
theorem Inserts.parameterDeclarations_eq (hnew : new.declaration.kind ≠ .parameterDef)
    (h : Inserts new k s s') : s'.parameterDeclarations = s.parameterDeclarations := by
  cases h with
  | @child d before after hk =>
    have hskip : (new.declaration.kind == .parameterDef) = false := by simpa using hnew
    simp [parameterDeclarations, children, hskip]
  | @inside d before after c c' h =>
    simp [parameterDeclarations, children, h.declaration_eq]

/-- A new child leaves the parameters of a declaration alone.

**Proof sketch.** The first list of parameters is found where it was, since the new child is none.
If the new child is inside that list it is not a parameter declaration. -/
theorem Inserts.parameters_eq (hparameters : new.declaration.kind ≠ .parameters)
    (hparameter : new.declaration.kind ≠ .parameterDef) (h : Inserts new k s s') :
    s'.parameters = s.parameters := by
  rw [parameters_eq_getD, parameters_eq_getD]
  cases h with
  | @child d before after hk =>
    have hskip : (new.declaration.kind == .parameters) = false := by simpa using hparameters
    simp [children, List.find?_append, hskip]
  | @inside d before after c c' h =>
    have hmatch : List.Forall₂ (fun a b : Nested => b.declaration = a.declaration ∧
        b.parameterDeclarations = a.parameterDeclarations)
        (before ++ c :: after) (before ++ c' :: after) := by
      have hsame : ∀ cs : List Nested, List.Forall₂ (fun a b : Nested =>
          b.declaration = a.declaration ∧ b.parameterDeclarations = a.parameterDeclarations)
          cs cs := fun cs => List.forall₂_same.mpr fun _ _ => ⟨rfl, rfl⟩
      refine List.rel_append (hsame before) (.cons ⟨h.declaration_eq, ?_⟩ (hsame after))
      exact h.parameterDeclarations_eq hparameter
    have hfirst := find?_of_forall₂ (p := fun c => c.declaration.kind == .parameters)
      (q := fun c => c.declaration.kind == .parameters) hmatch fun a b hab => by rw [hab.1]
    simp only [children]
    rcases hfirst with ⟨ha, hb⟩ | ⟨a, b, hab, ha, hb⟩
    · rw [ha, hb]
    · rw [ha, hb]
      exact hab.2

section

variable {ε α : Type} {visit : Bool → Nested → Except ε (List α)} {tokens : KindSet}

/-- **A recursion over a nested tree with a new child.** If the same is found at a nested tree with
the new child as at the one without it, the recursion comes to what it came to before, with what
comes of the new child in between. -/
theorem gather_of_inserts
    (hvisit : ∀ member s s', Inserts new k s s' → visit member s' = visit member s)
    (h : Inserts new k s s') {member : Bool} {found : List α}
    (hfound : gather visit tokens member s = .ok found) :
    ∃ before after, found = before ++ after ∧
      gather visit tokens member s' =
        (gather visit tokens k.isTypeBody new).map fun block => before ++ block ++ after := by
  obtain ⟨xs, xs', ys, hs, hs', hxs⟩ := h.occurrences_split
    (R := fun x y => y.2.declaration = x.2.declaration ∧ visit y.1 y.2 = visit x.1 x.2)
    (fun x => ⟨rfl, rfl⟩) (fun member s s' h => ⟨h.declaration_eq, hvisit member s s' h⟩) member
  rw [gather_eq_gatherEach, hs, gatherEach_append, bind_eq_ok_iff] at hfound
  obtain ⟨before, hbefore, hrest⟩ := hfound
  obtain ⟨after, hafter, rfl⟩ := map_eq_ok_iff.mp hrest
  refine ⟨before, after, rfl, ?_⟩
  rw [gather_eq_gatherEach, hs', gatherEach_append, gatherEach_append,
    gatherEach_congr visit tokens hxs, hbefore, hafter, ← gather_eq_gatherEach]
  cases gather visit tokens k.isTypeBody new <;> rfl

end

end Syntax.Nested

namespace NullAnnotations

/-- A declaration lacks a part that its judgement needs: its identifier, or its type unless it is a
constant or a constructor. -/
def LacksPart (x : Bool × Declaration) : Prop :=
  x.2.identifier = none ∨ x.1 = false ∧ x.2.kind ≠ .constructorDef ∧ x.2.type = none

namespace Classifier

variable (c : Classifier)

/-- A declaration cannot be judged if it lacks a part. -/
theorem exists_assess_eq_error_iff {x : Bool × Declaration} :
    (∃ e, c.assess x.1 x.2 = .error e) ↔ LacksPart x := by
  obtain ⟨constant, d⟩ := x
  unfold assess LacksPart
  cases d.identifier with
  | none => simp
  | some identifier =>
    cases constant with
    | true => simp
    | false =>
      by_cases hkind : d.kind = .constructorDef
      · simp [hkind]
      · cases d.type with
        | none => simp [hkind]
        | some type => cases h : c.neverNull.holds type.tag <;> simp [hkind, h]

/-- The rule fails at a nested tree if one of the declarations that are judged there lacks a
part. -/
theorem exists_visitNested_eq_error_iff {member : Bool} {s : Nested} :
    (∃ e, c.visitNested member s = .error e) ↔ ∃ x ∈ nestedSubjects member s, LacksPart x := by
  simp only [visitNested, map_eq_error_iff, exists_mapM_eq_error_iff, exists_assess_eq_error_iff]

variable {new : Nested} {k : Kind}

/-- The rule finds the same at a nested tree with a new child. -/
theorem visitNested_of_inserts (hparameters : new.declaration.kind ≠ .parameters)
    (hparameter : new.declaration.kind ≠ .parameterDef) (member : Bool) (s s' : Nested)
    (h : Nested.Inserts new k s s') : c.visitNested member s' = c.visitNested member s := by
  unfold visitNested nestedSubjects
  rw [h.declaration_eq, h.parameters_eq hparameters hparameter]

/-- **Edits are local.** If the rule succeeds on a dump, and a new child is put anywhere in the dump
that is neither a list of parameters nor a parameter, the rule fails on the new dump only if a
declaration lacks a part that is judged at the new child or inside it. Otherwise it reports what it
reported before, in the same order, with what it reports about the new child in one block between.

**Proof sketch.** Applying the rule is the recursion over the dump. The rule finds the same at every
nested tree around the new child, because the declaration and its parameters are the same, and at
those before and behind it, because they are unchanged and so are their parents. -/
theorem dispatch_insertAt (tokens : KindSet) (dump : Dump) (path : List Nat) (i : Nat)
    (new : Nested) {p : Nested} {ds : List Diagnostic}
    (hds : (c.shownTo tokens).dispatch (ofDump dump) = .ok ds)
    (hp : dump.root.at? path = some p) (hi : i ≤ p.children.length)
    (hparameters : new.declaration.kind ≠ .parameters)
    (hparameter : new.declaration.kind ≠ .parameterDef) :
    ((∃ e, (c.shownTo tokens).dispatch (ofDump (dump.insertAt path i new)) = .error e) ↔
      ∃ x ∈ Nested.shown tokens (new.occurrences p.declaration.kind.isTypeBody),
        ∃ y ∈ nestedSubjects x.1 x.2, LacksPart y) ∧
    ∃ before after, ds = before ++ after ∧
      ∀ reported, (c.shownTo tokens).dispatch (ofDump (dump.insertAt path i new)) = .ok reported ↔
        ∃ block, Nested.gather c.visitNested tokens p.declaration.kind.isTypeBody new = .ok block ∧
          reported = before ++ block ++ after := by
  have hinserts : Nested.Inserts new p.declaration.kind dump.root (dump.insertAt path i new).root :=
    Nested.inserts_insertAt hp hi
  rw [dispatch_eq_gather_visitNested, mapError_eq_ok_iff] at hds
  obtain ⟨before, after, rfl, hedited⟩ := Nested.gather_of_inserts
    (c.visitNested_of_inserts hparameters hparameter) hinserts hds
  simp only [dispatch_eq_gather_visitNested, hedited, mapError_eq_ok_iff, map_eq_ok_iff,
    mapError_eq_error_iff, map_eq_error_iff]
  refine ⟨?_, before, after, rfl, fun reported => ?_⟩
  · simp only [← c.exists_visitNested_eq_error_iff,
      ← Nested.exists_gather_eq_error_iff c.visitNested tokens]
    constructor
    · rintro ⟨_, cause, hcause, -⟩
      exact ⟨cause, hcause⟩
    · rintro ⟨cause, hcause⟩
      exact ⟨_, cause, hcause, rfl⟩
  · exact exists_congr fun block => and_congr_right fun _ => eq_comm

/-- A class with two fields, of which the first one should be annotated and the second one should
not. -/
def shed : Dump where
  path := "Shed.java"
  root := .node ⟨.compilationUnit, ⟨1, 1⟩, none, none, [], []⟩ [
    .node ⟨.classDef, ⟨1, 1⟩, some ⟨"Shed", ⟨1, 7⟩⟩, none, [], []⟩ [
      .node ⟨.variableDef, ⟨2, 5⟩, some ⟨"owner", ⟨2, 12⟩⟩,
        some ⟨.reference, some "String", ⟨2, 5⟩⟩, [], []⟩ [],
      .node ⟨.variableDef, ⟨9, 5⟩, some ⟨"tools", ⟨9, 18⟩⟩,
        some ⟨.int, some "int", ⟨9, 14⟩⟩, [], [⟨"NonNull", ⟨9, 5⟩⟩]⟩ []]]

/-- An initializer in which a class without a name has a field that should be annotated. -/
def initializer : Nested :=
  .node ⟨.other, ⟨4, 5⟩, none, none, [], []⟩ [
    .node ⟨.variableDef, ⟨5, 9⟩, some ⟨"lock", ⟨5, 16⟩⟩, none, [], []⟩ [
      .node ⟨.objectBlock, ⟨5, 35⟩, none, none, [], []⟩ [
        .node ⟨.variableDef, ⟨6, 13⟩, some ⟨"key", ⟨6, 20⟩⟩,
          some ⟨.reference, some "String", ⟨6, 13⟩⟩, [], []⟩ []]]]

/-- The initializer between the two fields adds the report about the field inside it. -/
theorem dispatch_insertAt_initializer :
    let usual := ({} : Classifier).shownTo (KindSet.ofList rule.defaultTokens)
    let owner : Diagnostic := ⟨⟨2, 5⟩, "null.annotations.missing",
      "Missing @NonNull or @Nullable annotation on 'owner'", "owner"⟩
    let tools : Diagnostic := ⟨⟨9, 5⟩, "null.annotations.redundant",
      "Redundant @NonNull/@Nullable annotation on 'tools'", "tools"⟩
    let key : Diagnostic := ⟨⟨6, 13⟩, "null.annotations.missing",
      "Missing @NonNull or @Nullable annotation on 'key'", "key"⟩
    usual.dispatch (ofDump shed) = .ok [owner, tools] ∧
      ∃ before after, [owner, tools] = before ++ after ∧
        usual.dispatch (ofDump (shed.insertAt [0] 1 initializer)) =
          .ok (before ++ [key] ++ after) := by
  intro usual owner tools key
  have hds : usual.dispatch (ofDump shed) = .ok [owner, tools] := by
    rw [ofDump_eq_layOut]
    rfl
  obtain ⟨-, before, after, hsplit, hreported⟩ := dispatch_insertAt {} _ shed [0] 1
    initializer hds rfl (by decide) (by decide) (by decide)
  exact ⟨hds, before, after, hsplit, (hreported _).mpr ⟨[key], rfl, rfl⟩⟩

end Classifier

end NullAnnotations

end NullLint
