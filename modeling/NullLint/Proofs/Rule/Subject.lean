import NullLint.Rule.NullAnnotations

set_option autoImplicit false
set_option relaxedAutoImplicit false

/-!
# The subjects of a node

Which declarations are judged when a node is visited, said by the kinds of the node, of its parent
and of its children: a field itself, a method or a constructor together with the declarations in its
first list of parameters, unless it is native.

## Main definitions

* `NullAnnotations.IsField` — a variable declared in the body of a type.
* `NullAnnotations.IsCallable` — a method or a constructor.
* `NullAnnotations.IsFirstParameters` — the first list of parameters of a node.
* `NullAnnotations.SubjectList` — the subjects of a node in their order.

## Main results

* `NullAnnotations.subjectList_iff` — each node has one list of subjects,
  `NullAnnotations.subjects`.
* `NullAnnotations.mem_subjects_iff` — the subjects of a node without their order.
-/

namespace NullLint.NullAnnotations

open Syntax Tree

section

variable {t : Tree} {n p s : t.Node}

/-- A variable declared directly in the body of a type. -/
def IsField (n : t.Node) : Prop :=
  kind n = .variableDef ∧ ∃ p, parent? n = some p ∧ (kind p).isTypeBody = true

/-- A method or a constructor. -/
def IsCallable (n : t.Node) : Prop :=
  kind n = .methodDef ∨ kind n = .constructorDef

/-- The node `p` is the first list of parameters among the children of `n`. -/
def IsFirstParameters (n p : t.Node) : Prop :=
  kind p = .parameters ∧ ∃ before after, children n = before ++ p :: after ∧
    ∀ c ∈ before, kind c ≠ .parameters

/-- The declarations that are judged when the node `n` is visited, in their order. -/
inductive SubjectList (n : t.Node) : List t.Node → Prop
  | field (h : IsField n) : SubjectList n [n]
  | localVariable (h : kind n = .variableDef) (hf : ¬IsField n) : SubjectList n []
  | native (h : IsCallable n) (hn : .isNative ∈ (declaration n).modifiers) : SubjectList n [n]
  | withoutParameters (h : IsCallable n) (hp : ∀ c ∈ children n, kind c ≠ .parameters) :
    SubjectList n [n]
  | withParameters (h : IsCallable n) (hn : .isNative ∉ (declaration n).modifiers) (p : t.Node)
    (hp : IsFirstParameters n p) :
    SubjectList n (n :: (children p).filter fun c => kind c = .parameterDef)
  | other (h : kind n ≠ .variableDef) (hc : ¬IsCallable n) : SubjectList n []

theorem isClassField_iff : isClassField n = true ↔ IsField n := by
  rw [isClassField, IsField, Bool.and_eq_true, beq_iff_eq]
  cases parent? n <;> simp

theorem hasModifier_iff {d : Declaration} {m : Modifier} :
    d.hasModifier m = true ↔ m ∈ d.modifiers :=
  List.contains_iff_mem

theorem firstChild?_eq_some_iff :
    firstChild? n .parameters = some p ↔ IsFirstParameters n p := by
  rw [firstChild?, List.find?_eq_some_iff_append, IsFirstParameters, beq_iff_eq]
  simp

theorem firstChild?_eq_none_iff :
    firstChild? n .parameters = none ↔ ∀ c ∈ children n, kind c ≠ .parameters := by
  rw [firstChild?, List.find?_eq_none]
  simp

theorem parameters_of_first (h : IsFirstParameters n p) :
    parameters n = (children p).filter fun c => kind c = .parameterDef := by
  rw [parameters, firstChild?_eq_some_iff.mpr h]
  rfl

theorem parameters_of_none (h : ∀ c ∈ children n, kind c ≠ .parameters) : parameters n = [] := by
  rw [parameters, firstChild?_eq_none_iff.mpr h]

/-- The subjects of a method or a constructor. -/
theorem subjects_of_callable (h : IsCallable n) :
    subjects n = n :: if (declaration n).hasModifier .isNative then [] else parameters n := by
  rcases h with h | h <;> rw [subjects, h]

/-- The subjects of a variable. -/
theorem subjects_of_variable (h : kind n = .variableDef) :
    subjects n = if isClassField n then [n] else [] := by
  rw [subjects, h]

/-- A node of another kind has no subjects. -/
theorem subjects_of_other (h : kind n ≠ .variableDef) (hc : ¬IsCallable n) : subjects n = [] := by
  rw [IsCallable, not_or] at hc
  rw [subjects]
  split
  · exact absurd ‹_› h
  · exact absurd ‹_› hc.1
  · exact absurd ‹_› hc.2
  · rfl

/-- Each node has one list of subjects.

**Proof sketch.** By the kind of the node; for a method or a constructor that is not native, by
whether it has a list of parameters. -/
theorem subjectList_iff {ss : List t.Node} : SubjectList n ss ↔ ss = subjects n := by
  constructor
  · intro h
    cases h with
    | field h => rw [subjects_of_variable h.1, if_pos (isClassField_iff.mpr h)]
    | localVariable h hf => rw [subjects_of_variable h, if_neg (mt isClassField_iff.mp hf)]
    | native h hn => rw [subjects_of_callable h, if_pos (hasModifier_iff.mpr hn)]
    | withoutParameters h hp =>
      rw [subjects_of_callable h, parameters_of_none hp]
      split <;> rfl
    | withParameters h hn p hp =>
      rw [subjects_of_callable h, if_neg (mt hasModifier_iff.mp hn), parameters_of_first hp]
    | other h hc => rw [subjects_of_other h hc]
  · rintro rfl
    by_cases hv : kind n = .variableDef
    · rw [subjects_of_variable hv]
      split
      · exact SubjectList.field (isClassField_iff.mp ‹_›)
      · exact SubjectList.localVariable hv (mt isClassField_iff.mpr ‹_›)
    · by_cases hc : IsCallable n
      · rw [subjects_of_callable hc]
        split
        · exact SubjectList.native hc (hasModifier_iff.mp ‹_›)
        · cases hp : firstChild? n .parameters with
          | none =>
            have hnone := firstChild?_eq_none_iff.mp hp
            rw [parameters_of_none hnone]
            exact SubjectList.withoutParameters hc hnone
          | some p =>
            have hfirst := firstChild?_eq_some_iff.mp hp
            rw [parameters_of_first hfirst]
            exact SubjectList.withParameters hc (mt hasModifier_iff.mpr ‹_›) p hfirst
      · rw [subjects_of_other hv hc]
        exact SubjectList.other hv hc

theorem not_isCallable_of_variable (h : kind n = .variableDef) : ¬IsCallable n := by
  rw [IsCallable, h]
  decide

/-- A node has at most one first list of parameters. -/
theorem IsFirstParameters.eq {p q : t.Node} (hp : IsFirstParameters n p)
    (hq : IsFirstParameters n q) : p = q := by
  rw [← firstChild?_eq_some_iff] at hp hq
  exact Option.some.inj (hp.symm.trans hq)

/-- The subjects of a node: itself, if it is a field, a method or a constructor, and the
declarations in the first list of parameters of a method or a constructor that is not native. -/
theorem mem_subjects_iff :
    s ∈ subjects n ↔ (s = n ∧ (IsField n ∨ IsCallable n)) ∨
      (IsCallable n ∧ .isNative ∉ (declaration n).modifiers ∧
        ∃ p, IsFirstParameters n p ∧ s ∈ children p ∧ kind s = .parameterDef) := by
  obtain ⟨ss, hss⟩ : ∃ ss, ss = subjects n := ⟨_, rfl⟩
  rw [← hss]
  cases subjectList_iff.mpr hss with
  | field h => simp [h, not_isCallable_of_variable h.1]
  | localVariable h hf => simp [hf, not_isCallable_of_variable h]
  | native h hn => simp [h, hn]
  | withoutParameters h hp =>
    have hnone : ∀ p, ¬IsFirstParameters n p := by
      rintro p ⟨hk, before, after, hc, -⟩
      exact hp p (by simp [hc]) hk
    simp [h, hnone]
  | withParameters h hn p hp =>
    have hfirst : ∀ q, IsFirstParameters n q ↔ q = p :=
      fun q => ⟨fun hq => hq.eq hp, fun hq => hq ▸ hp⟩
    simp [h, hn, hfirst]
  | other h hc =>
    have hf : ¬IsField n := fun hf => h hf.1
    simp [hf, hc]

end

end NullLint.NullAnnotations
