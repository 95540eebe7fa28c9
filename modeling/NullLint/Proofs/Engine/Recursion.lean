import NullLint.Engine.Dispatch
import NullLint.Proofs.Progress
import NullLint.Proofs.Syntax.Preorder

set_option autoImplicit false
set_option relaxedAutoImplicit false

/-!
# A rule as a recursion over the dump

A rule that looks at no more of a node than what is below it, and whether it is a member of a type,
can be applied to the nested tree of a dump by recursion: first to the node itself, then to its
children from left to right. Showing it the nodes of the numbered tree comes to the same.

## Main definitions

* `Syntax.Nested.gather` — the recursion.
* `Syntax.Nested.shown` — the nested trees that a rule is shown, in the order of the recursion.

## Main results

* `Syntax.Nested.gather_eq_gatherEach` — the recursion attempts one nested tree after the other.
* `ConfiguredRule.dispatch_eq_gather` — applying a rule to a tree is the recursion.
-/

namespace NullLint

open Syntax

namespace Syntax.Nested

section

variable {ε α : Type} (visit : Bool → Nested → Except ε (List α)) (tokens : KindSet)

mutual

/-- What comes of a nested tree: first of its root, if it is among those that are shown, then of its
children. The recursion carries down whether the parent is the body of a type. -/
def gather (member : Bool) : Nested → Except ε (List α)
  | .node d cs =>
    (if tokens.holds d.kind then visit member (.node d cs) else .ok []).bind fun own =>
      (gatherBelow d.kind.isTypeBody cs).map fun below => own ++ below

/-- What comes of several nested trees with the same parent, from left to right. -/
def gatherBelow (member : Bool) : List Nested → Except ε (List α)
  | [] => .ok []
  | c :: cs =>
    (gather member c).bind fun first => (gatherBelow member cs).map fun rest => first ++ rest

end

/-- Those of some nested trees that are shown. -/
def shown (xs : List (Bool × Nested)) : List (Bool × Nested) :=
  xs.filter fun x => tokens.holds x.2.declaration.kind

/-- What comes of some nested trees one after the other. -/
def gatherEach (xs : List (Bool × Nested)) : Except ε (List α) :=
  ((shown tokens xs).mapM fun x => visit x.1 x.2).map List.flatten

theorem gatherEach_append (xs ys : List (Bool × Nested)) :
    gatherEach visit tokens (xs ++ ys) =
      (gatherEach visit tokens xs).bind fun first =>
        (gatherEach visit tokens ys).map fun rest => first ++ rest := by
  rw [gatherEach, shown, List.filter_append, mapM_append_eq_bind, gatherEach, gatherEach, shown,
    shown]
  cases (xs.filter _).mapM fun x => visit x.1 x.2 with
  | error e => rfl
  | ok as =>
    cases (ys.filter _).mapM fun x => visit x.1 x.2 with
    | error e => rfl
    | ok bs =>
      simp [Except.map, Except.bind]

theorem gatherEach_singleton (x : Bool × Nested) :
    gatherEach visit tokens [x] =
      if tokens.holds x.2.declaration.kind then visit x.1 x.2 else .ok [] := by
  rw [gatherEach, shown, List.filter_cons, List.filter_nil]
  by_cases ht : tokens.holds x.2.declaration.kind = true
  · rw [if_pos ht, if_pos ht, mapM_singleton_eq_map]
    cases visit x.1 x.2 with
    | error e => rfl
    | ok as => exact congrArg Except.ok (List.append_nil as)
  · rw [if_neg ht, if_neg ht]
    rfl

/-- Nested trees at which the same is found give the same one after the other, if they are of the
same kinds. -/
theorem gatherEach_congr {xs ys : List (Bool × Nested)}
    (h : List.Forall₂ (fun x y => y.2.declaration = x.2.declaration ∧
      visit y.1 y.2 = visit x.1 x.2) xs ys) :
    gatherEach visit tokens ys = gatherEach visit tokens xs := by
  have hshown : List.Forall₂ (fun x y => y.2.declaration = x.2.declaration ∧
      visit y.1 y.2 = visit x.1 x.2) (shown tokens xs) (shown tokens ys) := by
    refine List.rel_filter (fun x y hxy => ?_) h
    change tokens.holds x.2.declaration.kind = true ↔ tokens.holds y.2.declaration.kind = true
    rw [hxy.1]
  rw [gatherEach, gatherEach, mapM_eq_mapM_of_forall₂ (hshown.imp fun x y hxy => hxy.2.symm)]

/-- The recursion attempts the nested trees in pre-order.

**Proof sketch.** Induction on the nested tree, and on the list of its children. -/
theorem gather_eq_gatherEach (s : Nested) (member : Bool) :
    gather visit tokens member s = gatherEach visit tokens (s.occurrences member) := by
  induction s generalizing member with
  | node d cs ih =>
    have hbelow : ∀ member, gatherBelow visit tokens member cs =
        gatherEach visit tokens (occurrencesBelow member cs) := by
      intro member
      induction cs with
      | nil => rfl
      | cons c cs ihcs =>
        rw [gatherBelow, occurrencesBelow, gatherEach_append, ih c List.mem_cons_self,
          ihcs fun x hx => ih x (List.mem_cons_of_mem c hx)]
    rw [gather, occurrences, ← List.singleton_append, gatherEach_append, gatherEach_singleton,
      hbelow]
    rfl

/-- The recursion fails if one of the attempts does. -/
theorem exists_gather_eq_error_iff {s : Nested} {member : Bool} :
    (∃ e, gather visit tokens member s = .error e) ↔
      ∃ x ∈ shown tokens (s.occurrences member), ∃ e, visit x.1 x.2 = .error e := by
  simp only [gather_eq_gatherEach, gatherEach, map_eq_error_iff]
  exact exists_mapM_eq_error_iff

end

end Syntax.Nested

namespace ConfiguredRule

open Tree

variable (rule : ConfiguredRule) (dump : Dump)

/-- The nodes that a rule is shown are copies of the nested trees that are shown. -/
theorem forall₂_shown :
    List.Forall₂ IsCopy (rule.shown (ofDump dump))
      (Nested.shown rule.tokens (dump.root.occurrences false)) := by
  refine List.rel_filter (fun n x hx => ?_) (forall₂_descendants_root dump)
  change rule.tokens.holds (kind n) = true ↔ _
  rw [hx.kind_eq]

/-- **Applying a rule to a tree is the recursion.**

**Proof sketch.** The nodes that the rule is shown are copies of the nested trees that the recursion
comes to, in the same order, and the rule sees the same at a node and at the nested tree. -/
theorem dispatch_eq_gather (visit : Bool → Nested → Except Malformed (List Diagnostic))
    (h : ∀ (n : (ofDump dump).Node) (x : Bool × Nested), IsCopy n x →
      (rule.visit (ofDump dump) n).result = visit x.1 x.2) :
    rule.dispatch (ofDump dump) =
      (Nested.gather visit rule.tokens false dump.root).mapError fun cause =>
        ⟨rule.info.id, dump.path, cause⟩ := by
  have hvisits : ((rule.shown (ofDump dump)).mapM fun n =>
      (rule.visit (ofDump dump) n).result) =
      (Nested.shown rule.tokens (dump.root.occurrences false)).mapM fun x => visit x.1 x.2 :=
    mapM_eq_mapM_of_forall₂ ((rule.forall₂_shown dump).imp h)
  rw [Nested.gather_eq_gatherEach, Nested.gatherEach, ← hvisits]
  rfl

end ConfiguredRule

end NullLint
