import NullLint.Proofs.Rule.Judged
import NullLint.Proofs.Rule.Session
import NullLint.Proofs.Syntax.Redeclare

set_option autoImplicit false
set_option relaxedAutoImplicit false

/-!
# Repairing what is reported

A missing annotation is repaired by adding one, with or without a package before its name, and a
redundant one by taking all of them away. What is reported about a tree after some of the
declarations were repaired is what was reported before, without what was reported about these.

## Main definitions

* `NullAnnotations.Names.Repairs` — what repairs a flaw of a declaration.
* `NullAnnotations.Classifier.findings` — what is found in a tree, and where.
* `NullAnnotations.Classifier.RepairsAt` — other declarations for a tree, which repair what is found
  at some of its nodes.

## Main results

* `NullAnnotations.candidates_redeclare` — which declarations are judged depends on the kinds and
  the modifiers only.
* `NullAnnotations.Classifier.assess_of_repairs` — nothing is found at a declaration that was
  repaired.
* `NullAnnotations.Session.dispatch_repaired` — **repairs are independent of each other**.

## Design

A repair changes neither the kind nor the modifiers nor the type of a declaration, so it neither
moves a declaration in or out of the judgement nor makes it exempt. That a package before the name
of an annotation does not matter needs a name without points, which the names of a session are.
-/

namespace NullLint.NullAnnotations

open Syntax Tree

/-! ## Trees with the same kinds and modifiers -/

section Redeclare

variable {t : Tree} {ds : Nat → Declaration}

/-- The declarations of a tree are replaced by others of the same kinds with the same modifiers. -/
structure KeepsForm (t : Tree) (ds : Nat → Declaration) : Prop where
  kind : ∀ n : t.Node, (ds n).kind = Tree.kind n
  modifiers : ∀ n : t.Node, (ds n).modifiers = (declaration n).modifiers

namespace KeepsForm

variable (h : KeepsForm t ds)

include h

theorem kind_twin (n : t.Node) : Tree.kind (twin ds n) = Tree.kind n := by
  rw [Tree.kind, declaration_twin, h.kind]

theorem hasModifier_twin (n : t.Node) (m : Modifier) :
    (declaration (twin ds n)).hasModifier m = (declaration n).hasModifier m := by
  rw [declaration_twin, Declaration.hasModifier, Declaration.hasModifier, h.modifiers]

theorem isClassField_twin (n : t.Node) : isClassField (twin ds n) = isClassField n := by
  rw [isClassField, isClassField, h.kind_twin, parent?_twin]
  cases parent? n with
  | none => rfl
  | some p =>
    rw [Option.map_some]
    dsimp only
    rw [h.kind_twin]

theorem isConstant_twin (n : t.Node) : isConstant (twin ds n) = isConstant n := by
  rw [isConstant, isConstant, h.isClassField_twin, h.hasModifier_twin, h.hasModifier_twin]

theorem isExemptUntyped_twin_iff (n : t.Node) :
    IsExemptUntyped (twin ds n) ↔ IsExemptUntyped n := by
  rw [← isExemptUntyped_iff, ← isExemptUntyped_iff, h.isConstant_twin, h.kind_twin]

/-- The parameters of a twin are the twins of the parameters. -/
theorem parameters_twin (n : t.Node) : parameters (twin ds n) = (parameters n).map (twin ds) := by
  have hkind : ∀ k : Kind, (fun c : (t.redeclare ds).Node => Tree.kind c == k) ∘ twin ds =
      fun c : t.Node => Tree.kind c == k := by
    intro k
    funext c
    rw [Function.comp_apply, h.kind_twin]
  rw [parameters, parameters, firstChild?, firstChild?, children_twin, List.find?_map, hkind]
  cases (children n).find? fun c => Tree.kind c == .parameters with
  | none => rfl
  | some p =>
    rw [Option.map_some]
    dsimp only
    rw [children_twin, List.filter_map, hkind]

/-- The subjects of a twin are the twins of the subjects. -/
theorem subjects_twin (n : t.Node) : subjects (twin ds n) = (subjects n).map (twin ds) := by
  by_cases hv : Tree.kind n = .variableDef
  · rw [subjects_of_variable hv, subjects_of_variable (by rw [h.kind_twin, hv]),
      h.isClassField_twin]
    cases isClassField n <;> rfl
  · by_cases hc : IsCallable n
    · have hc' : IsCallable (twin ds n) := by rwa [IsCallable, h.kind_twin]
      rw [subjects_of_callable hc, subjects_of_callable hc', h.hasModifier_twin,
        h.parameters_twin]
      cases (declaration n).hasModifier .isNative <;> rfl
    · have hc' : ¬IsCallable (twin ds n) := by rwa [IsCallable, h.kind_twin]
      rw [subjects_of_other hv hc, subjects_of_other (by rwa [h.kind_twin]) hc']
      rfl

/-- The candidates of a tree with other declarations are the twins of the candidates. -/
theorem candidates_redeclare (tokens : KindSet) :
    candidates tokens (t.redeclare ds) = (candidates tokens t).map (twin ds) := by
  have hkind : (fun n => tokens.holds (Tree.kind n)) ∘ twin ds =
      fun n : t.Node => tokens.holds (Tree.kind n) := by
    funext n
    rw [Function.comp_apply, h.kind_twin]
  rw [candidates, candidates, ← twin_root, descendants_twin, List.filter_map, hkind,
    List.flatMap_map, List.map_flatMap]
  exact List.flatMap_congr fun n _ => h.subjects_twin n

end KeepsForm

end Redeclare

/-! ## Repairs -/

/-- What repairs a flaw of a declaration. A missing annotation is added anywhere among the others;
its name is one of the two names, perhaps with a package and a point before it. Redundant ones are
taken away, and all others are kept. -/
inductive Names.Repairs (names : Names) (d : Declaration) : Flaw → Declaration → Prop
  | annotate (before after : List Annotation) (a : Annotation) (name : String)
      (hd : d.annotations = before ++ after) (hname : name = names.nonNull ∨ name = names.nullable)
      (ha : a.name = name ∨ ∃ package, a.name = package ++ "." ++ name) :
      Repairs names d .missing { d with annotations := before ++ a :: after }
  | strip :
      Repairs names d .redundant
        { d with
          annotations := d.annotations.filter fun a =>
            a.simpleName ≠ names.nonNull ∧ a.simpleName ≠ names.nullable }

namespace Names.Repairs

variable {names : Names} {d d' : Declaration} {flaw : Flaw} (h : names.Repairs d flaw d')

include h

theorem kind_eq : d'.kind = d.kind := by
  cases h <;> rfl

theorem modifiers_eq : d'.modifiers = d.modifiers := by
  cases h <;> rfl

theorem identifier_eq : d'.identifier = d.identifier := by
  cases h <;> rfl

theorem type_eq : d'.type = d.type := by
  cases h <;> rfl

end Names.Repairs

namespace Classifier

variable {c : Classifier} {t : Tree} {ds : Nat → Declaration} {s : t.Node} {f : Finding}

/-- A declaration is exempt if it was exempt before with the same type. -/
theorem exempts_twin_iff (h : KeepsForm t ds) (ht : (ds s).type = (declaration s).type) :
    c.Exempts (twin ds s) ↔ c.Exempts s := by
  rw [Exempts, Exempts, h.isExemptUntyped_twin_iff, declaration_twin, ht]

/-- A declaration with the same identifier and the same type has all parts if it had them before. -/
theorem complete_twin_iff (h : KeepsForm t ds)
    (hi : (ds s).identifier = (declaration s).identifier)
    (ht : (ds s).type = (declaration s).type) : Complete (twin ds s) ↔ Complete s := by
  rw [Complete, Complete, h.isExemptUntyped_twin_iff, declaration_twin, hi, ht]

/-- A declaration that stays as it is gets the same judgement. -/
theorem judge_twin_of_eq (h : KeepsForm t ds) (hs : ds s = declaration s) :
    c.judge (twin ds s) = c.judge s := by
  rw [judge_eq_assess, judge_eq_assess, h.isConstant_twin, declaration_twin, hs]

/-- A declaration carries one of the names of the rule if one of them was added, since there is no
point in them. -/
theorem accepts_of_named {a : Annotation} {name : String} (hc : c.IsUsual)
    (hmem : a ∈ (declaration s).annotations)
    (hname : name = c.names.nonNull ∨ name = c.names.nullable)
    (ha : a.name = name ∨ ∃ package, a.name = package ++ "." ++ name) : c.Accepts s := by
  have hid : IsIdentifier name := by
    rcases hname with rfl | rfl
    · exact hc.nonNull
    · exact hc.nullable
  have hsegment : Text.IsLastSegment '.' a.name name :=
    ⟨fun hdot => (hid.plain '.' hdot).2.2 rfl, ha⟩
  refine ⟨a, hmem, ?_⟩
  rcases hname with rfl | rfl
  · exact Or.inl hsegment
  · exact Or.inr hsegment

/-- A declaration carries none of the names of the rule if no annotation has one as its simple
name. -/
theorem not_accepts_of_forall (h : ∀ a ∈ (declaration s).annotations,
    a.simpleName ≠ c.names.nonNull ∧ a.simpleName ≠ c.names.nullable) : ¬c.Accepts s := by
  rintro ⟨a, ha, hsegment | hsegment⟩
  · exact (h a ha).1 (Text.afterLast_eq_iff.mpr hsegment)
  · exact (h a ha).2 (Text.afterLast_eq_iff.mpr hsegment)

/-- Nothing is found at a declaration after what was found there is repaired.

**Proof sketch.** The declaration is exempt if it was. What was missing on a declaration that is not
exempt is there now, and what was redundant on an exempt one is gone. -/
theorem judge_twin_of_repairs (h : KeepsForm t ds) (hc : c.IsUsual)
    (hs : c.judge s = .ok (some f)) (hr : c.names.Repairs (declaration s) f.flaw (ds s)) :
    c.judge (twin ds s) = .ok none := by
  obtain ⟨hcomplete, hverdict⟩ := judge_eq_ok_iff.mp hs
  have hexempts := exempts_twin_iff (c := c) h hr.type_eq
  refine judge_eq_ok_iff.mpr
    ⟨(complete_twin_iff h hr.identifier_eq hr.type_eq).mpr hcomplete, Verdict.nothing ?_⟩
  rw [hexempts]
  -- The flaw that was found says which of the two repairs was made.
  cases hverdict with
  | missing _ hf _ he _ =>
    rw [hf] at hr
    generalize hd : ds s = d at hr
    cases hr with
    | annotate before after a name _ hname ha =>
      have hmem : a ∈ (declaration (twin ds s)).annotations := by
        rw [declaration_twin, hd]
        exact List.mem_append_right before List.mem_cons_self
      exact iff_of_false he (not_not_intro (accepts_of_named hc hmem hname ha))
  | redundant _ hf _ he _ =>
    rw [hf] at hr
    generalize hd : ds s = d at hr
    cases hr with
    | strip =>
      refine iff_of_true he (not_accepts_of_forall fun a ha => ?_)
      rw [declaration_twin, hd] at ha
      simpa using (List.mem_filter.mp ha).2

/-! ## Repairs in a tree -/

/-- What is found in a tree, each with the declaration at which it is found. -/
def findings (c : Classifier) (tokens : KindSet) (t : Tree) : List (t.Node × Finding) :=
  (candidates tokens t).filterMap fun s => (c.judge s).toOption.join.map fun f => (s, f)

/-- Other declarations for a tree, which repair what is found at the nodes of `S` and leave all
other nodes as they are. -/
structure RepairsAt (c : Classifier) (tokens : KindSet) (t : Tree) (S : Finset t.Node)
    (ds : Nat → Declaration) : Prop where
  found : ∀ s ∈ S, ∃ f, (s, f) ∈ c.findings tokens t
  repaired : ∀ s ∈ S, ∀ f, (s, f) ∈ c.findings tokens t →
    c.names.Repairs (declaration s) f.flaw (ds s)
  kept : ∀ n : t.Node, n ∉ S → ds n = declaration n

theorem mem_findings_iff {tokens : KindSet} :
    (s, f) ∈ c.findings tokens t ↔ s ∈ candidates tokens t ∧ c.judge s = .ok (some f) := by
  have hjoin : ∀ {x : t.Node}, (c.judge x).toOption.join = some f ↔ c.judge x = .ok (some f) := by
    intro x
    rw [Option.join_eq_some_iff, toOption_eq_some_iff]
  rw [findings, List.mem_filterMap]
  constructor
  · rintro ⟨x, hx, hf⟩
    obtain ⟨g, hg, heq⟩ := Option.map_eq_some_iff.mp hf
    obtain ⟨rfl, rfl⟩ := Prod.mk.inj heq
    exact ⟨hx, hjoin.mp hg⟩
  · rintro ⟨hs, hf⟩
    exact ⟨s, hs, by rw [hjoin.mpr hf, Option.map_some]⟩

/-- Repairs keep the kinds and the modifiers. -/
theorem RepairsAt.keepsForm {tokens : KindSet} {S : Finset t.Node}
    (h : c.RepairsAt tokens t S ds) : KeepsForm t ds := by
  have hsame : ∀ n : t.Node,
      (ds n).kind = (declaration n).kind ∧ (ds n).modifiers = (declaration n).modifiers := by
    intro n
    by_cases hn : n ∈ S
    · obtain ⟨f, hf⟩ := h.found n hn
      have hr := h.repaired n hn f hf
      exact ⟨hr.kind_eq, hr.modifiers_eq⟩
    · rw [h.kept n hn]
      exact ⟨rfl, rfl⟩
  exact ⟨fun n => (hsame n).1, fun n => (hsame n).2⟩

/-- The judgement of a declaration after the repairs. -/
theorem RepairsAt.judge_twin {tokens : KindSet} {S : Finset t.Node} (hc : c.IsUsual)
    (h : c.RepairsAt tokens t S ds) (s : t.Node) :
    c.judge (twin ds s) = if s ∈ S then .ok none else c.judge s := by
  by_cases hs : s ∈ S
  · obtain ⟨f, hf⟩ := h.found s hs
    rw [if_pos hs]
    exact judge_twin_of_repairs h.keepsForm hc (mem_findings_iff.mp hf).2 (h.repaired s hs f hf)
  · rw [if_neg hs]
    exact judge_twin_of_eq h.keepsForm (h.kept s hs)

/-- What is reported about a tree is what is found in it. -/
theorem eq_map_findings_of_ok {tokens : KindSet} {reported : List Diagnostic}
    (h : (c.shownTo tokens).dispatch t = .ok reported) :
    reported = (c.findings tokens t).map fun x => c.names.diagnostic x.2 := by
  rw [(c.judged_of_ok h).2, findings, List.map_filterMap]
  refine List.filterMap_congr fun s _ => ?_
  rw [report?, Option.map_map]
  rfl

/-- What is reported about a tree after some repairs: the same as before, without what was reported
about the declarations that were repaired.

**Proof sketch.** The same declarations are judged, in the same order. Those that were repaired are
faultless now, and all others are judged as before. -/
theorem dispatch_of_repairsAt {tokens : KindSet} {S : Finset t.Node} {reported : List Diagnostic}
    (hc : c.IsUsual) (h : c.RepairsAt tokens t S ds)
    (hok : (c.shownTo tokens).dispatch t = .ok reported) :
    (c.shownTo tokens).dispatch (t.redeclare ds) =
      .ok (((c.findings tokens t).filter fun x => x.1 ∉ S).map fun x =>
        c.names.diagnostic x.2) := by
  have hjudged : ∀ s ∈ candidates tokens t, (c.judge ∘ twin ds) s =
      .ok (if s ∈ S then none else (c.judge s).toOption.join) := by
    intro s hs
    rw [dispatch_eq_mapM_judge, mapError_eq_ok_iff, map_eq_ok_iff] at hok
    obtain ⟨found, hfound, -⟩ := hok
    obtain ⟨v, hv⟩ := exists_mapM_eq_ok_iff.mp ⟨found, hfound⟩ s hs
    rw [Function.comp_apply, h.judge_twin hc, hv]
    split <;> rfl
  rw [dispatch_eq_mapM_judge, h.keepsForm.candidates_redeclare, List.mapM_map,
    mapM_eq_ok_map hjudged]
  change Except.ok (List.map _ (List.filterMap id (List.map _ _))) = Except.ok _
  -- Both sides go over the same candidates, so that it is enough to compare them at each of these.
  rw [List.filterMap_map, findings, List.filter_filterMap, List.map_filterMap, List.map_filterMap]
  congr 1
  refine List.filterMap_congr fun s _ => ?_
  simp only [Function.comp_apply, id]
  by_cases hs : s ∈ S
  · rw [if_pos hs]
    cases (c.judge s).toOption.join <;> simp [hs]
  · rw [if_neg hs]
    cases (c.judge s).toOption.join <;> simp [hs]

/-- Each declaration is found faulty at most once. -/
theorem nodup_findings (c : Classifier) (tokens : KindSet) (dump : Dump) :
    ((c.findings tokens (ofDump dump)).map Prod.fst).Nodup := by
  have hfst : (c.findings tokens (ofDump dump)).map Prod.fst =
      (candidates tokens (ofDump dump)).filter fun s => (c.judge s).toOption.join.isSome := by
    rw [findings, List.map_filterMap, ← List.filterMap_eq_filter]
    refine List.filterMap_congr fun s _ => ?_
    cases h : (c.judge s).toOption.join <;> simp [Option.guard, h]
  rw [hfst]
  exact (nodup_candidates dump tokens).filter _

end Classifier

/-- **Repairs are independent of each other.** Let the rule be in a state that it comes to by some
steps, and let it succeed on the tree of a dump. What it reports is what it finds there, at each
declaration at most once and as the verdict on that declaration says. If some of the declarations
are repaired at which something was found, the rule succeeds again and reports what it reported
before, in the same order, without what was reported about these. If all are repaired, nothing is
left. -/
theorem Session.dispatch_repaired (steps : List Step) (tokens : KindSet) (dump : Dump)
    (reported : List Diagnostic)
    (hreported : ((after steps).classifier.shownTo tokens).dispatch (ofDump dump) = .ok reported)
    (S : Finset (ofDump dump).Node) (ds : Nat → Declaration)
    (hrepairs : (after steps).classifier.RepairsAt tokens (ofDump dump) S ds) :
    let c := (after steps).classifier
    let found := c.findings tokens (ofDump dump)
    reported = found.map (fun x => c.names.diagnostic x.2) ∧ (found.map Prod.fst).Nodup ∧
      (∀ x ∈ found, c.Verdict x.1 (some x.2)) ∧
      (c.shownTo tokens).dispatch (ofDump (dump.redeclare ds)) =
        .ok ((found.filter fun x => x.1 ∉ S).map fun x => c.names.diagnostic x.2) ∧
      ((∀ x ∈ found, x.1 ∈ S) →
        (c.shownTo tokens).dispatch (ofDump (dump.redeclare ds)) = .ok []) := by
  intro c found
  have hdispatch : (c.shownTo tokens).dispatch (ofDump (dump.redeclare ds)) =
      .ok ((found.filter fun x => x.1 ∉ S).map fun x => c.names.diagnostic x.2) := by
    rw [ofDump_redeclare]
    exact Classifier.dispatch_of_repairsAt (isUsual_after steps) hrepairs hreported
  refine ⟨Classifier.eq_map_findings_of_ok hreported, c.nodup_findings tokens dump, ?_, hdispatch,
    fun hall => ?_⟩
  · intro x hx
    exact (Classifier.judge_eq_ok_iff.mp (Classifier.mem_findings_iff.mp hx).2).2
  · have hnone : (found.filter fun x => x.1 ∉ S) = [] := by
      rw [List.filter_eq_nil_iff]
      intro x hx
      simpa using hall x hx
    rw [hdispatch, hnone]
    rfl

/-- A body of a type with two fields: one that lacks an annotation, and one that has one in vain. -/
def twoFields : Dump where
  path := "House.java"
  root := .node ⟨.objectBlock, ⟨1, 13⟩, none, none, [], []⟩ [
    .node ⟨.variableDef, ⟨2, 5⟩, some ⟨"owner", ⟨2, 12⟩⟩,
      some ⟨.reference, some "String", ⟨2, 5⟩⟩, [], [⟨"Deprecated", ⟨2, 1⟩⟩]⟩ [],
    .node ⟨.variableDef, ⟨3, 5⟩, some ⟨"rooms", ⟨3, 18⟩⟩,
      some ⟨.int, some "int", ⟨3, 14⟩⟩, [], [⟨"NonNull", ⟨3, 5⟩⟩]⟩ []]

/-- The declarations of these nodes by their numbers, with an annotation more for the first
field. -/
def firstFieldRepaired : Nat → Declaration
  | 0 => ⟨.objectBlock, ⟨1, 13⟩, none, none, [], []⟩
  | 1 => ⟨.variableDef, ⟨2, 5⟩, some ⟨"owner", ⟨2, 12⟩⟩, some ⟨.reference, some "String", ⟨2, 5⟩⟩,
      [], [⟨"Deprecated", ⟨2, 1⟩⟩, ⟨"org.house.MaybeNull", ⟨2, 3⟩⟩]⟩
  | _ => ⟨.variableDef, ⟨3, 5⟩, some ⟨"rooms", ⟨3, 18⟩⟩, some ⟨.int, some "int", ⟨3, 14⟩⟩, [],
      [⟨"NonNull", ⟨3, 5⟩⟩]⟩

/-- A session in which the rule got another name for values that may be null. -/
def renamed : List Step := [.configure [("nullableAnnotation", "@MaybeNull")]]

/-- Both fields are faulty. -/
theorem findings_twoFields :
    (Session.after renamed).classifier.findings (KindSet.ofList rule.defaultTokens)
      (layOut twoFields) =
      [(⟨1, by decide⟩, ⟨⟨2, 1⟩, .missing, "owner"⟩),
        (⟨2, by decide⟩, ⟨⟨3, 5⟩, .redundant, "rooms"⟩)] := by
  decide +kernel

/-- The annotation that the first field gets is one that repairs it. -/
theorem repairsAt_twoFields :
    (Session.after renamed).classifier.RepairsAt (KindSet.ofList rule.defaultTokens)
      (layOut twoFields) {⟨1, by decide⟩} firstFieldRepaired := by
  refine ⟨?_, ?_, by decide +kernel⟩
  · rw [findings_twoFields]
    simp
  · rw [findings_twoFields]
    intro s hs f hf
    rw [Finset.mem_singleton] at hs
    subst hs
    have hf : f = ⟨⟨2, 1⟩, .missing, "owner"⟩ := by simpa using hf
    subst hf
    exact Names.Repairs.annotate [_] [] ⟨"org.house.MaybeNull", ⟨2, 3⟩⟩ "MaybeNull" rfl
      (Or.inr (by decide +kernel)) (Or.inr ⟨"org.house", by decide⟩)

/-- Two things are reported about the two fields, and one is left after the first field is
repaired. -/
theorem Session.dispatch_twoFields :
    ∃ S, (after renamed).classifier.RepairsAt (KindSet.ofList rule.defaultTokens)
        (ofDump twoFields) S firstFieldRepaired ∧
      ((after renamed).classifier.shownTo (KindSet.ofList rule.defaultTokens)).dispatch
        (ofDump twoFields) = .ok [
          ⟨⟨2, 1⟩, "null.annotations.missing",
            "Missing @NonNull or @MaybeNull annotation on 'owner'", "owner"⟩,
          ⟨⟨3, 5⟩, "null.annotations.redundant",
            "Redundant @NonNull/@MaybeNull annotation on 'rooms'", "rooms"⟩] ∧
      ((after renamed).classifier.shownTo (KindSet.ofList rule.defaultTokens)).dispatch
        (ofDump (twoFields.redeclare firstFieldRepaired)) = .ok [
          ⟨⟨3, 5⟩, "null.annotations.redundant",
            "Redundant @NonNull/@MaybeNull annotation on 'rooms'", "rooms"⟩] := by
  have hreported : ((after renamed).classifier.shownTo
      (KindSet.ofList rule.defaultTokens)).dispatch (ofDump twoFields) = .ok [
        ⟨⟨2, 1⟩, "null.annotations.missing",
          "Missing @NonNull or @MaybeNull annotation on 'owner'", "owner"⟩,
        ⟨⟨3, 5⟩, "null.annotations.redundant",
          "Redundant @NonNull/@MaybeNull annotation on 'rooms'", "rooms"⟩] := by
    rw [ofDump_eq_layOut]
    rfl
  obtain ⟨S, hS, hleft⟩ : ∃ S, (after renamed).classifier.RepairsAt
      (KindSet.ofList rule.defaultTokens) (ofDump twoFields) S firstFieldRepaired ∧
      (((after renamed).classifier.findings (KindSet.ofList rule.defaultTokens)
        (ofDump twoFields)).filter fun x => x.1 ∉ S).map
          (fun x => (after renamed).classifier.names.diagnostic x.2) =
        [⟨⟨3, 5⟩, "null.annotations.redundant",
          "Redundant @NonNull/@MaybeNull annotation on 'rooms'", "rooms"⟩] := by
    rw [ofDump_eq_layOut]
    refine ⟨_, repairsAt_twoFields, ?_⟩
    rw [findings_twoFields]
    decide +kernel
  refine ⟨S, hS, hreported, ?_⟩
  rw [(dispatch_repaired renamed _ twoFields _ hreported S _ hS).2.2.2.1, hleft]

end NullLint.NullAnnotations
