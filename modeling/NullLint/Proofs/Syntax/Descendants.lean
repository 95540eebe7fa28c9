import NullLint.Proofs.Syntax.Mirror

set_option autoImplicit false
set_option relaxedAutoImplicit false

/-!
# The nodes below a node

A walk that starts with one node on its stack ends by itself, wherever in the tree it starts. It
gives out the nodes below the start, and no others: a run of consecutive numbers that is as long as
the nested tree at the start is large.

## Main definitions

* `Syntax.Tree.Yields` — what is given out until the stack is empty, without a bound.
* `Syntax.Tree.Enumerates` — what makes a walk from a node complete and orderly.

## Main results

* `Syntax.Tree.Yields.eq_flatMap` — the nodes of a stack are walked over one after the other.
* `Syntax.Tree.mem_descendants_iff` — the nodes below a node are those from which steps to parents
  lead to it.
* `Syntax.Tree.descendants_enumerates` — the walk from any node of the tree of a dump.
-/

namespace NullLint.Syntax.Tree

section

variable {t : Tree} {n m : t.Node} {stack out : List t.Node}

/-- One step more leads to a node if the parent has one step less to it. -/
theorem iterate_stepUp_succ_eq_some_iff {j : Nat} :
    stepUp^[j + 1] (some m) = some n ↔ ∃ p, parent? m = some p ∧ stepUp^[j] (some p) = some n := by
  rw [Function.iterate_succ_apply, stepUp, Option.bind_some]
  cases parent? m with
  | none => simp [iterate_stepUp_none]
  | some p => simp

/-! ## Walks that end -/

/-- What is given out until the stack is empty: a node is taken from the stack, and its children are
put on it in its place. -/
inductive Yields : List t.Node → List t.Node → Prop
  | done : Yields [] []
  | next {n : t.Node} {stack out : List t.Node} (h : Yields (children n ++ stack) out) :
    Yields (n :: stack) (n :: out)

namespace Yields

/-- A stack gives out one list of nodes only. -/
theorem unique {out' : List t.Node} (h : Yields stack out) (h' : Yields stack out') :
    out = out' := by
  induction h generalizing out' with
  | done =>
    cases h'
    rfl
  | next _ ih =>
    cases h' with
    | next h' => rw [ih h']

/-- The lower part of a stack waits until the upper part is done. -/
theorem append {stack' out' : List t.Node} (h : Yields stack out) (h' : Yields stack' out') :
    Yields (stack ++ stack') (out ++ out') := by
  induction h with
  | done => exact h'
  | next _ ih =>
    rw [List.append_assoc] at ih
    exact .next ih

/-- The nodes of the stack are given out. -/
theorem mem_of_mem (h : Yields stack out) (hn : n ∈ stack) : n ∈ out := by
  induction h with
  | done => cases hn
  | next _ ih =>
    rcases List.mem_cons.mp hn with rfl | hn
    · exact List.mem_cons_self
    · exact List.mem_cons_of_mem _ (ih (List.mem_append_right _ hn))

/-- With a node its children are given out. -/
theorem mem_of_mem_children (h : Yields stack out) (hn : n ∈ out) (hm : m ∈ children n) :
    m ∈ out := by
  induction h with
  | done => cases hn
  | next h ih =>
    apply List.mem_cons_of_mem
    rcases List.mem_cons.mp hn with rfl | hn
    · exact h.mem_of_mem (List.mem_append_left _ hm)
    · exact ih hn

/-- A walk that gives out fewer nodes than it is allowed to has come to its end. -/
theorem walk_of_length_lt {fuel : Nat} (h : (walk fuel stack).length < fuel) :
    Yields stack (walk fuel stack) := by
  induction fuel generalizing stack with
  | zero => exact absurd h (Nat.not_lt_zero _)
  | succ fuel ih =>
    cases stack with
    | nil => exact .done
    | cons n stack => exact .next (ih (Nat.lt_of_succ_lt_succ h))

end Yields

/-- From a node that is given out, steps to parents lead to a node of the stack, where the children
of a node have it as their parent. -/
theorem Yields.exists_iterate_stepUp
    (hparent : ∀ {c p : t.Node}, c ∈ children p → parent? c = some p) (h : Yields stack out)
    (hm : m ∈ out) : ∃ n ∈ stack, ∃ j, stepUp^[j] (some m) = some n := by
  induction h with
  | done => cases hm
  | @next n stack out _ ih =>
    rcases List.mem_cons.mp hm with rfl | hm
    · exact ⟨m, List.mem_cons_self, 0, rfl⟩
    · obtain ⟨p, hp, j, hj⟩ := ih hm
      rcases List.mem_append.mp hp with hp | hp
      · refine ⟨n, List.mem_cons_self, j + 1, ?_⟩
        rw [Function.iterate_succ_apply', hj, stepUp, Option.bind_some, hparent hp]
      · exact ⟨p, List.mem_cons_of_mem n hp, j, hj⟩

end

section Dump

variable {dump : Dump} {n m : (ofDump dump).Node} {stack out : List (ofDump dump).Node}

/-! ## Walks over the tree of a dump -/

/-- The walk from a node ends by itself.

**Proof sketch.** A walk that may give out one node more than there are gives out the same nodes,
since their numbers are those of the nested tree at the start; and it is not stopped. -/
theorem yields_descendants (n : (ofDump dump).Node) : Yields [n] (descendants n) := by
  obtain ⟨x, hx⟩ := exists_isCopy dump n
  obtain ⟨⟨parent, hheld⟩, -⟩ := id hx
  have hsize := hheld.size_le
  have hlonger := (walk_of_copies ((ofDump dump).entries.size + 1) n.val [n] [x] (.cons hx .nil)
    rfl (by simp only [List.map_cons, List.map_nil, Nested.sizes]; omega)).2
  simp only [List.map_cons, List.map_nil, Nested.sizes, Nat.add_zero] at hlonger
  have hsame : descendants n = walk ((ofDump dump).entries.size + 1) [n] := by
    apply List.map_injective_iff.mpr Fin.val_injective
    rw [hx.descendants.2, hlonger]
  rw [hsame]
  apply Yields.walk_of_length_lt
  rw [← List.length_map Fin.val, hlonger, List.length_range']
  omega

/-- The nodes of a stack are walked over one after the other. -/
theorem yields_flatMap (stack : List (ofDump dump).Node) :
    Yields stack (stack.flatMap descendants) := by
  induction stack with
  | nil => exact .done
  | cons n stack ih => exact (yields_descendants n).append ih

theorem Yields.eq_flatMap (h : Yields stack out) : out = stack.flatMap descendants :=
  h.unique (yields_flatMap stack)

/-- The walk from a node goes on with the walks from its children. -/
theorem descendants_eq_cons (n : (ofDump dump).Node) :
    descendants n = n :: (children n).flatMap descendants := by
  apply (yields_descendants n).unique
  apply Yields.next
  rw [List.append_nil]
  exact yields_flatMap (children n)

/-- With a node, the nodes below it are given out without a gap.

**Proof sketch.** Induction on what is given out. The first node is followed by the rest of its own
walk, and what comes of the other nodes of the stack behind it. -/
theorem Yields.isInfix_descendants (h : Yields stack out) (hm : m ∈ out) :
    descendants m <:+: out := by
  induction h with
  | done => cases hm
  | @next n stack out h ih =>
    rcases List.mem_cons.mp hm with rfl | hm
    · have hout := (Yields.next h).eq_flatMap
      rw [List.flatMap_cons] at hout
      rw [hout]
      exact (List.prefix_append _ _).isInfix
    · exact (ih hm).trans (List.suffix_cons n out).isInfix

/-- Nothing but the nodes below a node is given out, and all of them are.

**Proof sketch.** From each node that is given out, steps to parents lead to the start. Conversely
the parent of a node is given out if steps lead from it to the start, and the node with it. -/
theorem mem_descendants_iff : m ∈ descendants n ↔ ∃ j, stepUp^[j] (some m) = some n := by
  have hyields := yields_descendants n
  constructor
  · intro hm
    obtain ⟨p, hp, hj⟩ := hyields.exists_iterate_stepUp (mem_children_iff dump).mp hm
    rw [List.mem_singleton.mp hp] at hj
    exact hj
  · rintro ⟨j, hj⟩
    induction j generalizing m with
    | zero =>
      obtain rfl : m = n := Option.some.inj hj
      exact hyields.mem_of_mem List.mem_cons_self
    | succ j ih =>
      obtain ⟨p, hp, hj⟩ := iterate_stepUp_succ_eq_some_iff.mp hj
      exact hyields.mem_of_mem_children (ih hj) ((mem_children_iff dump).mpr hp)

/-- Steps to parents lead to smaller numbers. -/
theorem le_of_iterate_stepUp {j : Nat} (h : stepUp^[j] (some m) = some n) : n ≤ m := by
  induction j generalizing m with
  | zero =>
    obtain rfl : m = n := Option.some.inj h
    exact le_refl _
  | succ j ih =>
    obtain ⟨p, hp, hj⟩ := iterate_stepUp_succ_eq_some_iff.mp h
    exact (ih hj).trans (lt_of_parent?_eq hp).le

end Dump

/-! ## The walk from a node -/

/-- The walk from a node at which a nested tree stands at some depth is complete and orderly.

* `ends_iff`: it ends by itself.
* `numbers`: it comes to consecutive numbers, as many as the nested tree has nodes.
* `nested`: what is read from the nodes downwards are the nested trees inside the nested tree, in
  pre-order.
* `mem_iff`: it comes to the nodes from which steps to parents lead to the start, and to no others.
* `pairwise`: no node comes twice, and none before a node to which steps lead from it.
* `children`, `eq_cons`: the start comes first, then what the walks from its children come to, which
  are in the order of the children of the nested tree.
* `contiguous`: what is below a node comes without a gap. -/
structure Enumerates {t : Tree} (n : t.Node) (depth : Nat) (s : Nested) : Prop where
  ends_iff : ∀ out, Yields [n] out ↔ out = descendants n
  numbers : (descendants n).map Fin.val = List.range' n.val s.size
  nested : (descendants n).map nested = (s.outline depth).map Prod.snd
  mem_iff : ∀ m, m ∈ descendants n ↔ ∃ j, stepUp^[j] (some m) = some n
  pairwise : (descendants n).Pairwise fun a b => ∀ j, stepUp^[j] (some a) ≠ some b
  children : (Tree.children n).map Tree.nested = s.children
  eq_cons : descendants n = n :: (Tree.children n).flatMap descendants
  contiguous : ∀ m ∈ descendants n, descendants m <:+: descendants n

/-- **The walk from any node.** At the number of a node stands the nested tree at that place of the
pre-order of the dump, and the walk from the node comes to what is inside it, completely and in
order.

**Proof sketch.** The walk ends by itself, so it is what its stack yields: the start, and then what
the stack of its children yields. Parents and children know each other, so steps to parents lead
back along the walk; they lead to smaller numbers, while the numbers on the walk increase. -/
theorem descendants_enumerates (dump : Dump) (n : (ofDump dump).Node) :
    ∃ depth s, (dump.root.outline 0)[n.val]? = some (depth, s) ∧ Enumerates n depth s := by
  obtain ⟨⟨depth, s⟩, hget, m, hm, ⟨parent, hs⟩, hclimbs⟩ := exists_stands dump n
  obtain rfl : n = m := (Fin.ext hm).symm
  have hnumbers : (descendants n).map Fin.val = List.range' n.val s.size :=
    (IsCopy.descendants (x := (isMember n, s)) ⟨⟨parent, hs⟩, rfl⟩).2
  have hincreasing : (descendants n).Pairwise (· < ·) := by
    have hpairwise : ((descendants n).map Fin.val).Pairwise (· < ·) := by
      rw [hnumbers]
      exact List.pairwise_lt_range'
    rwa [List.pairwise_map] at hpairwise
  refine ⟨depth, s, hget, ?_⟩
  constructor
  case ends_iff =>
    intro out
    constructor
    · exact fun h => h.unique (yields_descendants n)
    · rintro rfl
      exact yields_descendants n
  case numbers => exact hnumbers
  case nested =>
    have hcopies := hs.forall₂_outline hclimbs
    rw [← hnumbers, List.forall₂_map_left_iff] at hcopies
    rw [← List.forall₂_eq_eq_eq, List.forall₂_map_left_iff, List.forall₂_map_right_iff]
    exact hcopies.imp fun m x hx => hx.nested_eq
  case mem_iff => exact fun m => mem_descendants_iff
  case pairwise =>
    refine hincreasing.imp fun hab j hj => ?_
    exact absurd (le_of_iterate_stepUp hj) (not_le_of_gt hab)
  case children =>
    rw [← List.forall₂_eq_eq_eq, List.forall₂_map_left_iff]
    refine hs.forall₂_children.imp fun c x hx => ?_
    exact hx.nestedUpTo_eq ((Nat.le_add_left _ _).trans hx.size_le)
  case eq_cons => exact descendants_eq_cons n
  case contiguous => exact fun m hm => (yields_descendants n).isInfix_descendants hm

end NullLint.Syntax.Tree
