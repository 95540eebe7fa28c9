import Mathlib.Data.List.ReduceOption
import NullLint.Proofs.Progress
import NullLint.Proofs.Rule.Subject
import NullLint.Proofs.Syntax.Position
import NullLint.Proofs.Text.Cut

set_option autoImplicit false
set_option relaxedAutoImplicit false

/-!
# The judgement of a declaration

What is found at a node, said without the order in which it is looked for. A declaration has to be
complete: it needs an identifier, and a type unless it is exempt without one. A complete declaration
that is not exempt has to carry one of the two annotations, one that is exempt must not.

## Main definitions

* `NullAnnotations.IsConstantField` — a field that is static and final.
* `NullAnnotations.Complete`, `NullAnnotations.Lacks` — a declaration with all parts that are
  needed, and one without.
* `NullAnnotations.Classifier.Exempts`, `NullAnnotations.Classifier.Accepts` — the declarations that
  need no annotation, and those that carry one.
* `NullAnnotations.Classifier.Verdict` — what is found at a complete declaration.

## Main results

* `NullAnnotations.Classifier.judge_eq_ok_iff`, `NullAnnotations.Classifier.judge_eq_error_iff` —
  what the judgement of a declaration comes to.
* `NullAnnotations.Classifier.classify_decides` — what is found at a node.
-/

namespace NullLint.NullAnnotations

open Syntax Tree

variable {t : Tree} {n s : t.Node}

/-- A field that is both static and final. -/
def IsConstantField (s : t.Node) : Prop :=
  IsField s ∧ .isStatic ∈ (declaration s).modifiers ∧ .isFinal ∈ (declaration s).modifiers

/-- A declaration that is exempt whatever its type is. -/
def IsExemptUntyped (s : t.Node) : Prop :=
  kind s = .constructorDef ∨ IsConstantField s

/-- A declaration with all parts that its judgement needs. -/
def Complete (s : t.Node) : Prop :=
  (declaration s).identifier ≠ none ∧ (IsExemptUntyped s ∨ (declaration s).type ≠ none)

/-- A declaration lacks a part, the identifier before the type. -/
inductive Lacks (s : t.Node) : Malformed → Prop
  | identifier (h : (declaration s).identifier = none) :
    Lacks s ⟨kind s, (declaration s).position, .identifier⟩
  | type (hi : (declaration s).identifier ≠ none) (he : ¬IsExemptUntyped s)
    (ht : (declaration s).type = none) : Lacks s ⟨kind s, (declaration s).position, .type⟩

theorem isConstant_iff : isConstant s = true ↔ IsConstantField s := by
  rw [isConstant, Bool.and_eq_true, Bool.and_eq_true, isClassField_iff, hasModifier_iff,
    hasModifier_iff, IsConstantField, and_assoc]

theorem isExemptUntyped_iff :
    (isConstant s || kind s == .constructorDef) = true ↔ IsExemptUntyped s := by
  rw [Bool.or_eq_true, isConstant_iff, beq_iff_eq, IsExemptUntyped, or_comm]

/-- A declaration that lacks a part is not complete. -/
theorem Lacks.not_complete {m : Malformed} (h : Lacks s m) : ¬Complete s := by
  rintro ⟨hi, ht⟩
  cases h with
  | identifier h => exact hi h
  | type _ he h => exact ht.elim he fun hn => hn h

namespace Classifier

variable (c : Classifier)

/-- A declaration that needs no annotation: a constructor, a constant, or one whose type never holds
null. -/
def Exempts (s : t.Node) : Prop :=
  IsExemptUntyped s ∨ ∃ type, (declaration s).type = some type ∧ type.tag ∈ c.neverNull

/-- A declaration carries an annotation whose name, without what stands before its last point, is
one of the two names. -/
def Accepts (s : t.Node) : Prop :=
  ∃ a ∈ (declaration s).annotations, Text.IsLastSegment '.' a.name c.names.nonNull ∨
    Text.IsLastSegment '.' a.name c.names.nullable

/-- A finding is about a declaration: it has its name and the position of its first token. -/
def IsAbout (f : Finding) (s : t.Node) : Prop :=
  (∃ i, (declaration s).identifier = some i ∧ f.subject = i.text) ∧
    (declaration s).StartsAt f.position

/-- What is found at a declaration: a missing annotation, a redundant one, or nothing. -/
inductive Verdict (s : t.Node) : Option Finding → Prop
  | missing (f : Finding) (hf : f.flaw = .missing) (hs : IsAbout f s) (he : ¬c.Exempts s)
    (ha : ¬c.Accepts s) : Verdict s (some f)
  | redundant (f : Finding) (hf : f.flaw = .redundant) (hs : IsAbout f s) (he : c.Exempts s)
    (ha : c.Accepts s) : Verdict s (some f)
  | nothing (h : c.Exempts s ↔ ¬c.Accepts s) : Verdict s none

variable {c}

theorem isAnnotated_iff : c.isAnnotated s = true ↔ c.Accepts s := by
  simp only [isAnnotated, Declaration.isAnnotatedWith, Bool.or_eq_true, List.any_eq_true,
    beq_iff_eq, Annotation.simpleName, Text.afterLast_eq_iff, Accepts]
  constructor
  · rintro (⟨a, ha, hn⟩ | ⟨a, ha, hn⟩)
    · exact ⟨a, ha, Or.inl hn⟩
    · exact ⟨a, ha, Or.inr hn⟩
  · rintro ⟨a, ha, hn | hn⟩
    · exact Or.inl ⟨a, ha, hn⟩
    · exact Or.inr ⟨a, ha, hn⟩

/-- A declaration that is exempt without a type. -/
theorem isExempt_of_untyped (h : IsExemptUntyped s) : c.isExempt s = .ok true := by
  rw [isExempt, if_pos (isExemptUntyped_iff.mpr h)]

/-- A declaration whose type decides. -/
theorem isExempt_of_type {type : DeclaredType} (h : ¬IsExemptUntyped s)
    (ht : (declaration s).type = some type) :
    c.isExempt s = .ok (c.neverNull.holds type.tag) := by
  rw [isExempt, if_neg (mt isExemptUntyped_iff.mp h), ht]

/-- A declaration whose type should decide but is missing. -/
theorem isExempt_of_no_type (h : ¬IsExemptUntyped s) (ht : (declaration s).type = none) :
    c.isExempt s = .error (lacks s .type) := by
  rw [isExempt, if_neg (mt isExemptUntyped_iff.mp h), ht]

/-- It is known whether a declaration is exempt unless it lacks a type that should decide. -/
theorem exists_isExempt_eq_ok (h : IsExemptUntyped s ∨ (declaration s).type ≠ none) :
    ∃ b, c.isExempt s = .ok b ∧ (b = true ↔ c.Exempts s) := by
  by_cases he : IsExemptUntyped s
  · exact ⟨true, isExempt_of_untyped he, by simp [Exempts, he]⟩
  · cases ht : (declaration s).type with
    | none => exact absurd ht (h.resolve_left he)
    | some type =>
      refine ⟨_, isExempt_of_type he ht, ?_⟩
      rw [Exempts, ht]
      simp [he, Membership.mem]

/-- The verdict on a declaration with an identifier, by whether it is exempt and whether it carries
an annotation. -/
theorem verdict_iff {b a : Bool} {i : Identifier} {v : Option Finding}
    (hb : b = true ↔ c.Exempts s) (ha : a = true ↔ c.Accepts s)
    (hi : (declaration s).identifier = some i) :
    c.Verdict s v ↔
      v = (flaw? b a).map fun flaw => ⟨(declaration s).firstPosition, flaw, i.text⟩ := by
  have habout : ∀ f, IsAbout f s ↔
      f = ⟨(declaration s).firstPosition, f.flaw, i.text⟩ := by
    rintro ⟨position, flaw, subject⟩
    simp [IsAbout, hi, Declaration.startsAt_iff, and_comm]
  constructor
  · intro h
    cases h with
    | missing f hf hs he hn =>
      rw [(habout f).mp hs, hf, Bool.eq_false_iff.mpr (mt hb.mp he),
        Bool.eq_false_iff.mpr (mt ha.mp hn)]
      rfl
    | redundant f hf hs he hn =>
      rw [(habout f).mp hs, hf, hb.mpr he, ha.mpr hn]
      rfl
    | nothing h =>
      rw [← hb, ← ha] at h
      rcases b with _ | _ <;> rcases a with _ | _
      · exact absurd (h.mpr Bool.false_ne_true) Bool.false_ne_true
      · rfl
      · rfl
      · exact absurd rfl (h.mp rfl)
  · rintro rfl
    rcases b with _ | _ <;> rcases a with _ | _
    · exact Verdict.missing _ rfl ((habout _).mpr rfl) (by simpa using hb) (by simpa using ha)
    · exact Verdict.nothing (by simp [← hb, ← ha])
    · exact Verdict.nothing (by simp [← hb, ← ha])
    · exact Verdict.redundant _ rfl ((habout _).mpr rfl) (hb.mp rfl) (ha.mp rfl)

/-- A complete declaration gets its verdict. -/
theorem exists_verdict (h : Complete s) :
    ∃ v, c.judge s = .ok v ∧ ∀ w, c.Verdict s w ↔ w = v := by
  obtain ⟨hi, ht⟩ := h
  obtain ⟨i, hi⟩ := Option.ne_none_iff_exists'.mp hi
  obtain ⟨b, hok, hb⟩ := exists_isExempt_eq_ok (c := c) ht
  refine ⟨_, ?_, fun w => verdict_iff hb isAnnotated_iff hi⟩
  rw [judge, hi, hok]
  rfl

/-- A declaration that is not complete is refused for the part that it lacks. -/
theorem exists_lacks (h : ¬Complete s) :
    ∃ m, c.judge s = .error m ∧ ∀ m', Lacks s m' ↔ m' = m := by
  cases hi : (declaration s).identifier with
  | none =>
    refine ⟨lacks s .identifier, by rw [judge, hi], fun m' => ⟨fun hl => ?_, ?_⟩⟩
    · cases hl with
      | identifier => rfl
      | type hi' => exact absurd hi hi'
    · rintro rfl
      exact Lacks.identifier hi
  | some i =>
    have hne : (declaration s).identifier ≠ none := by simp [hi]
    rw [Complete, not_and, not_or, not_not] at h
    obtain ⟨he, ht⟩ := h hne
    refine ⟨lacks s .type, ?_, fun m' => ⟨fun hl => ?_, ?_⟩⟩
    · rw [judge, hi, isExempt_of_no_type he ht]
      rfl
    · cases hl with
      | identifier hi' => exact absurd hi' hne
      | type => rfl
    · rintro rfl
      exact Lacks.type hne he ht

/-- The judgement of a declaration succeeds if the declaration is complete, with its verdict. -/
theorem judge_eq_ok_iff {v : Option Finding} :
    c.judge s = .ok v ↔ Complete s ∧ c.Verdict s v := by
  by_cases h : Complete s
  · obtain ⟨w, hw, hv⟩ := exists_verdict (c := c) h
    rw [hw, hv]
    simp [h, eq_comm]
  · obtain ⟨m, hm, -⟩ := exists_lacks (c := c) h
    rw [hm]
    simp [h]

/-- The judgement of a declaration fails if the declaration lacks a part. -/
theorem judge_eq_error_iff {m : Malformed} : c.judge s = .error m ↔ Lacks s m := by
  by_cases h : Complete s
  · obtain ⟨w, hw, -⟩ := exists_verdict (c := c) h
    rw [hw]
    simp only [reduceCtorEq, false_iff]
    exact fun hl => hl.not_complete h
  · obtain ⟨m', hm, hl⟩ := exists_lacks (c := c) h
    rw [hm, hl]
    simp [eq_comm]

/-- The judgement of a declaration succeeds if the declaration is complete. -/
theorem isOk_judge_iff : (c.judge s).isOk = true ↔ Complete s := by
  by_cases h : Complete s
  · obtain ⟨w, hw, -⟩ := exists_verdict (c := c) h
    simp [hw, h, Except.isOk, Except.toBool]
  · obtain ⟨m, hm, -⟩ := exists_lacks (c := c) h
    simp [hm, h, Except.isOk, Except.toBool]

/-- **What is found at a node.** The subjects of the node are those of its list of subjects. They
are judged in their order. If all of them are complete, what is found is what the verdicts on them
say, and otherwise the first one that is not complete is refused for the part that it lacks. -/
theorem classify_decides (c : Classifier) (n : t.Node) :
    (∀ ss, SubjectList n ss ↔ ss = subjects n) ∧
      ((∃ fs, c.classify n = .ok fs) ↔ ∀ s ∈ subjects n, Complete s) ∧
      (∀ fs, c.classify n = .ok fs ↔ (∀ s ∈ subjects n, Complete s) ∧
        ∃ vs, List.Forall₂ c.Verdict (subjects n) vs ∧ fs = vs.reduceOption) ∧
      ∀ m, c.classify n = .error m ↔ ∃ before s after, subjects n = before ++ s :: after ∧
        (∀ x ∈ before, Complete x) ∧ Lacks s m := by
  have hok : ∀ vs, (subjects n).mapM c.judge = .ok vs ↔
      (∀ s ∈ subjects n, Complete s) ∧ List.Forall₂ c.Verdict (subjects n) vs := by
    intro vs
    rw [mapM_eq_ok_iff, ← List.forall₂_and_left]
    simp only [judge_eq_ok_iff]
  have hfs : ∀ fs, c.classify n = .ok fs ↔ (∀ s ∈ subjects n, Complete s) ∧
      ∃ vs, List.Forall₂ c.Verdict (subjects n) vs ∧ fs = vs.reduceOption := by
    intro fs
    rw [classify, map_eq_ok_iff]
    constructor
    · rintro ⟨vs, hvs, rfl⟩
      obtain ⟨hc, hv⟩ := (hok vs).mp hvs
      exact ⟨hc, vs, hv, rfl⟩
    · rintro ⟨hc, vs, hv, rfl⟩
      exact ⟨vs, (hok vs).mpr ⟨hc, hv⟩, rfl⟩
  refine ⟨fun ss => subjectList_iff, ?_, hfs, fun m => ?_⟩
  · constructor
    · rintro ⟨fs, h⟩
      exact ((hfs fs).mp h).1
    · intro hc
      obtain ⟨vs, hvs⟩ := exists_mapM_eq_ok_iff.mpr fun s hs =>
        (exists_verdict (c := c) (hc s hs)).imp fun v hv => hv.1
      exact ⟨_, (hfs _).mpr ⟨hc, vs, ((hok vs).mp hvs).2, rfl⟩⟩
  · rw [classify, map_eq_error_iff, mapM_eq_error_iff]
    simp only [isOk_judge_iff, judge_eq_error_iff]

end Classifier

end NullLint.NullAnnotations
