import Mathlib.Data.List.ReduceOption
import NullLint.Proofs.Engine.Recursion
import NullLint.Proofs.Matching
import NullLint.Proofs.Rule.Subject

set_option autoImplicit false
set_option relaxedAutoImplicit false

/-!
# The rule about null annotations on nested trees

What the rule finds at a nested tree, by looking at the declaration at its root, at the declarations
in its first list of parameters, and at whether it is a member of a type. Applying the rule to the
numbered tree of a dump is the recursion over the dump with these findings.

## Main definitions

* `Syntax.Nested.parameters` — the declarations in the first list of parameters.
* `NullAnnotations.nestedSubjects` — the declarations that are judged at a nested tree.
* `NullAnnotations.Classifier.assess` — what is wrong with a declaration.
* `NullAnnotations.Classifier.visitNested` — what the rule reports about a nested tree.
* `NullAnnotations.Classifier.shownTo` — the rule with a classifier and some tokens.

## Main results

* `NullAnnotations.Classifier.judge_eq_assess` — the judgement of a node is that of its declaration.
* `NullAnnotations.Classifier.result_visitor_of_copy` — the rule sees the same at a node and at the
  nested tree that stands there.
* `NullAnnotations.Classifier.dispatch_recurses` — applying the rule is the recursion over the dump.
-/

namespace NullLint

open Syntax Tree

namespace Syntax.Nested

/-- The parameter declarations in the first list of parameters, without what separates them. -/
def parameters (s : Nested) : List Declaration :=
  match s.children.find? fun c => c.declaration.kind == .parameters with
  | none => []
  | some p => (p.children.map declaration).filter fun d => d.kind == .parameterDef

end Syntax.Nested

namespace NullAnnotations

/-- The declarations that are judged at a nested tree, each with the answer to whether it is a
constant. -/
def nestedSubjects (member : Bool) (s : Nested) : List (Bool × Declaration) :=
  match s.declaration.kind with
  | .variableDef =>
    if member then
      [(s.declaration.hasModifier .isStatic && s.declaration.hasModifier .isFinal, s.declaration)]
    else []
  | .methodDef | .constructorDef =>
    (false, s.declaration) ::
      if s.declaration.hasModifier .isNative then []
      else s.parameters.map fun p => (false, p)
  | _ => []

namespace Classifier

variable (c : Classifier)

/-- Whether a declaration carries one of the two annotations. -/
def marks (d : Declaration) : Bool :=
  d.isAnnotatedWith c.names.nonNull || d.isAnnotatedWith c.names.nullable

/-- What is wrong with a declaration. A constant and a constructor must not be annotated, a type
without null must not either, and another type must be. -/
def assess (constant : Bool) (d : Declaration) : Except Malformed (Option Finding) :=
  match d.identifier with
  | none => .error ⟨d.kind, d.position, .identifier⟩
  | some i =>
    if constant || d.kind == .constructorDef then
      .ok (if c.marks d then some ⟨d.firstPosition, .redundant, i.text⟩ else none)
    else
      match d.type with
      | none => .error ⟨d.kind, d.position, .type⟩
      | some type =>
        if c.neverNull.holds type.tag then
          .ok (if c.marks d then some ⟨d.firstPosition, .redundant, i.text⟩ else none)
        else .ok (if c.marks d then none else some ⟨d.firstPosition, .missing, i.text⟩)

/-- What the rule reports about a nested tree. -/
def visitNested (member : Bool) (s : Nested) : Except Malformed (List Diagnostic) :=
  ((nestedSubjects member s).mapM fun x => c.assess x.1 x.2).map fun found =>
    found.reduceOption.map c.names.diagnostic

/-- The rule with this classifier, shown the nodes of some kinds. -/
def shownTo (tokens : KindSet) : ConfiguredRule :=
  ⟨info, tokens, visitor c⟩

/-- The flaw of an exempt declaration. -/
theorem map_flaw?_true (a : Bool) (f : Flaw → Finding) :
    (flaw? true a).map f = if a then some (f .redundant) else none := by
  cases a <;> rfl

/-- The flaw of a declaration that is not exempt. -/
theorem map_flaw?_false (a : Bool) (f : Flaw → Finding) :
    (flaw? false a).map f = if a then none else some (f .missing) := by
  cases a <;> rfl

variable {t : Tree} {n : t.Node}

/-- The judgement of a node is that of its declaration. -/
theorem judge_eq_assess : c.judge n = c.assess (isConstant n) (declaration n) := by
  rw [judge, assess, isExempt]
  cases (declaration n).identifier with
  | none => rfl
  | some i =>
    by_cases he : (isConstant n || kind n == .constructorDef) = true
    · have he' : (isConstant n || (declaration n).kind == .constructorDef) = true := he
      simp only [he, he', ↓reduceIte, Except.map, map_flaw?_true]
      rfl
    · have he' : ¬(isConstant n || (declaration n).kind == .constructorDef) = true := he
      simp only [he, he', Bool.false_eq_true, ↓reduceIte]
      cases (declaration n).type with
      | none => rfl
      | some type =>
        cases h : c.neverNull.holds type.tag
        · simp only [h, Except.map, map_flaw?_false, Bool.false_eq_true, ↓reduceIte]
          rfl
        · simp only [h, Except.map, map_flaw?_true, ↓reduceIte]
          rfl

end Classifier

section Copy

variable {t : Tree} {n : t.Node} {x : Bool × Nested}

/-- The declarations of the children of a node. -/
theorem map_declaration_children {parent : Option Nat} {s : Nested}
    (h : t.Holds n.val parent s) :
    (children n).map declaration = s.children.map Nested.declaration := by
  rw [← List.forall₂_eq_eq_eq, List.forall₂_map_left_iff, List.forall₂_map_right_iff]
  exact h.forall₂_children.imp fun c y hy => hy.declaration_eq

/-- The parameters of a node are those of the nested tree that stands there.

**Proof sketch.** The first lists of parameters correspond, since the children do. So their children
do, and those that are parameter declarations are the same. -/
theorem map_declaration_parameters (h : IsCopy n x) :
    (Tree.parameters n).map declaration = x.2.parameters := by
  obtain ⟨⟨parent, hx⟩, -⟩ := h
  have hfind := find?_of_forall₂ (p := fun c => kind c == .parameters)
    (q := fun c => c.declaration.kind == .parameters) hx.forall₂_children
    fun c y hy => by rw [hy.kind_eq]
  rw [Tree.parameters, firstChild?, Nested.parameters]
  rcases hfind with ⟨hn, hs⟩ | ⟨p, q, hpq, hn, hs⟩
  · rw [hn, hs]
    rfl
  · rw [hn, hs]
    change ((children p).filter fun c => kind c == .parameterDef).map declaration =
      (q.children.map Nested.declaration).filter fun d => d.kind == .parameterDef
    rw [← map_declaration_children hpq, List.filter_map]
    rfl

/-- Only a variable can be a constant. -/
theorem isConstant_of_ne (h : kind n ≠ .variableDef) : isConstant n = false := by
  have hb : (kind n == .variableDef) = false := by simpa using h
  rw [isConstant, isClassField, hb]
  rfl

/-- A parameter of a node is a parameter declaration. -/
theorem kind_of_mem_parameters {s : t.Node} (h : s ∈ Tree.parameters n) :
    kind s = .parameterDef := by
  rw [Tree.parameters] at h
  cases hp : firstChild? n .parameters with
  | none =>
    rw [hp] at h
    cases h
  | some p =>
    rw [hp] at h
    simpa using (List.mem_filter.mp h).2

/-- The subjects of a node are those of the nested tree that stands there.

**Proof sketch.** By the kind of the node. A field is a constant if it is static and final, and
neither a method nor a constructor nor a parameter is one. -/
theorem map_subjects (h : IsCopy n x) :
    ((subjects n).map fun s => (isConstant s, declaration s)) = nestedSubjects x.1 x.2 := by
  have hk := h.kind_eq
  have hd := h.declaration_eq
  by_cases hv : kind n = .variableDef
  · have hfield : isClassField n = x.1 := by
      rw [isClassField, hv, ← h.2]
      rfl
    rw [subjects_of_variable hv, nestedSubjects, ← hk, hv, hfield]
    cases hx : x.1 with
    | false => rfl
    | true =>
      rw [hx] at hfield
      simp [isConstant, hfield, hd]
  · by_cases hc : IsCallable n
    · have hnested : nestedSubjects x.1 x.2 = (false, x.2.declaration) ::
          if x.2.declaration.hasModifier .isNative then []
          else x.2.parameters.map fun p => (false, p) := by
        rcases hc with hc | hc <;> rw [nestedSubjects, ← hk, hc]
      have hparameters : ((Tree.parameters n).map fun s => (isConstant s, declaration s)) =
          x.2.parameters.map fun p => (false, p) := by
        rw [← map_declaration_parameters h, List.map_map]
        refine List.map_congr_left fun s hs => ?_
        have hs' : kind s ≠ .variableDef := by simp [kind_of_mem_parameters hs]
        rw [isConstant_of_ne hs']
        rfl
      rw [hnested, subjects_of_callable hc, List.map_cons, isConstant_of_ne hv, hd,
        ← hparameters]
      split <;> rfl
    · rw [subjects_of_other hv hc, nestedSubjects, ← hk]
      rw [IsCallable, not_or] at hc
      split
      · exact absurd ‹_› hv
      · exact absurd ‹_› hc.1
      · exact absurd ‹_› hc.2
      · rfl

end Copy

namespace Classifier

variable (c : Classifier)

/-- What the rule reports at a node is what is found at its subjects. -/
theorem result_visitor {t : Tree} (n : t.Node) :
    (visitor c t n).result = ((subjects n).mapM c.judge).map fun found =>
      found.reduceOption.map c.names.diagnostic := by
  change (c.classify n).map _ = _
  rw [classify]
  cases (subjects n).mapM c.judge <;> rfl

/-- The rule sees the same at a node and at the nested tree that stands there. -/
theorem result_visitor_of_copy {t : Tree} {n : t.Node} {x : Bool × Nested} (h : IsCopy n x) :
    (visitor c t n).result = c.visitNested x.1 x.2 := by
  have hjudge : ((fun y : Bool × Declaration => c.assess y.1 y.2) ∘
      fun s : t.Node => (isConstant s, declaration s)) = c.judge :=
    funext fun s => c.judge_eq_assess.symm
  rw [result_visitor, visitNested, ← map_subjects h, List.mapM_map, hjudge]

/-- What the rule reports about the tree of a dump, by recursion over the dump. -/
theorem dispatch_eq_gather_visitNested (tokens : KindSet) (dump : Dump) :
    (c.shownTo tokens).dispatch (Tree.ofDump dump) =
      (Nested.gather c.visitNested tokens false dump.root).mapError fun cause =>
        ⟨info.id, dump.path, cause⟩ :=
  (c.shownTo tokens).dispatch_eq_gather dump c.visitNested fun _ _ hx => c.result_visitor_of_copy hx

/-- **The rule about null annotations as a recursion.** Showing the rule the nodes of the tree of a
dump comes to what the recursion over the dump comes to, which carries down whether the parent is
the body of a type. It fails if the recursion meets a nested tree at which the rule fails, and the
first one it meets is to blame. -/
theorem dispatch_recurses (tokens : KindSet) (dump : Dump) :
    (c.shownTo tokens).dispatch (Tree.ofDump dump) =
        (Nested.gather c.visitNested tokens false dump.root).mapError
          (fun cause => ⟨"NULL_ANNOTATIONS", dump.path, cause⟩) ∧
      ∀ e, (c.shownTo tokens).dispatch (Tree.ofDump dump) = .error e ↔
        ∃ before x after cause,
          Nested.shown tokens (dump.root.occurrences false) = before ++ x :: after ∧
            (∀ y ∈ before, (c.visitNested y.1 y.2).isOk = true) ∧
            c.visitNested x.1 x.2 = .error cause ∧
            e = ⟨"NULL_ANNOTATIONS", dump.path, cause⟩ := by
  have hdispatch := (c.shownTo tokens).dispatch_eq_gather dump c.visitNested
    fun n x hx => c.result_visitor_of_copy hx
  refine ⟨hdispatch, fun e => ?_⟩
  rw [hdispatch, mapError_eq_error_iff, Nested.gather_eq_gatherEach, Nested.gatherEach]
  simp only [map_eq_error_iff, mapM_eq_error_iff]
  constructor
  · rintro ⟨cause, ⟨before, x, after, hs, hb, hx⟩, rfl⟩
    exact ⟨before, x, after, cause, hs, hb, hx, rfl⟩
  · rintro ⟨before, x, after, cause, hs, hb, hx, rfl⟩
    exact ⟨cause, ⟨before, x, after, hs, hb, hx⟩, rfl⟩

end Classifier

end NullAnnotations

end NullLint
