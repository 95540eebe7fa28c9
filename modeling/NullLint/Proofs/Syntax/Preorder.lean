import Mathlib.Data.Fin.Basic
import Mathlib.Data.List.FinRange
import NullLint.Proofs.Syntax.Block

set_option autoImplicit false
set_option relaxedAutoImplicit false

/-!
# Walking over a tree

A walk with a stack of nodes comes to the nested trees in pre-order: what a recursion over the
nested tree meets one after the other, the walk meets in the same order, and the numbers of the
nodes it meets are consecutive. From the root it comes to every node once.

## Main definitions

* `Syntax.Nested.occurrences` — the nested trees inside a nested tree in pre-order, each with the
  answer to whether it is a member of a type.
* `Syntax.Tree.isMember`, `Syntax.Tree.IsCopy` — the same answer for a node, and a node at which a
  nested tree stands.

## Main results

* `Syntax.Tree.walk_of_copies` — a walk follows the recursion.
* `Syntax.Tree.descendants_root` — the walk from the root comes to the nodes in the order of their
  numbers.
* `Syntax.Tree.forall₂_descendants_root` — and meets the nested trees of the dump in pre-order.
* `Syntax.Tree.mem_children_iff` — the children of a node are the nodes whose parent it is.
-/

namespace NullLint.Syntax

namespace Nested

mutual

/-- A nested tree and all nested trees inside it, each before those inside it and the children in
their order. With each goes the answer to whether its parent is the body of a type. -/
def occurrences (member : Bool) : Nested → List (Bool × Nested)
  | .node d cs => (member, .node d cs) :: occurrencesBelow d.kind.isTypeBody cs

/-- The nested trees inside several ones with the same parent. -/
def occurrencesBelow (member : Bool) : List Nested → List (Bool × Nested)
  | [] => []
  | c :: cs => c.occurrences member ++ occurrencesBelow member cs

end

theorem flatMap_occurrences (member : Bool) (cs : List Nested) :
    ((cs.map fun c => (member, c)).flatMap fun x => x.2.occurrences x.1) =
      occurrencesBelow member cs := by
  induction cs with
  | nil => rfl
  | cons c cs ih => rw [List.map_cons, List.flatMap_cons, ih, occurrencesBelow]

theorem occurrencesBelow_append (member : Bool) (cs ds : List Nested) :
    occurrencesBelow member (cs ++ ds) =
      occurrencesBelow member cs ++ occurrencesBelow member ds := by
  simp only [← flatMap_occurrences, List.map_append, List.flatMap_append]

end Nested

namespace Tree

variable {t : Tree}

/-- Whether the parent of a node is the body of a type. -/
def isMember (n : t.Node) : Bool :=
  match parent? n with
  | none => false
  | some p => (kind p).isTypeBody

/-- A node at which a nested tree stands, which is a member of a type or is not. -/
def IsCopy (n : t.Node) (x : Bool × Nested) : Prop :=
  (∃ parent, t.Holds n.val parent x.2) ∧ isMember n = x.1

theorem IsCopy.declaration_eq {n : t.Node} {x : Bool × Nested} (h : IsCopy n x) :
    declaration n = x.2.declaration := by
  obtain ⟨⟨parent, hx⟩, -⟩ := h
  exact hx.declaration_eq

theorem IsCopy.kind_eq {n : t.Node} {x : Bool × Nested} (h : IsCopy n x) :
    kind n = x.2.declaration.kind := by
  rw [kind, h.declaration_eq]

/-- The children of a node are copies of the children of the nested tree that stands there. -/
theorem IsCopy.forall₂_children {n : t.Node} {x : Bool × Nested} (h : IsCopy n x) :
    List.Forall₂ IsCopy (children n)
      (x.2.children.map fun c => (x.2.declaration.kind.isTypeBody, c)) := by
  obtain ⟨⟨parent, hx⟩, -⟩ := h
  rw [List.forall₂_map_right_iff]
  refine hx.forall₂_children.imp fun c y hy => ⟨⟨_, hy⟩, ?_⟩
  rw [isMember, hy.parent?_of_some, ← hx.kind_eq]

/-- **A walk follows the recursion.** If nested trees stand one behind the other at the nodes of a
stack, the walk meets what is inside them in pre-order, at nodes with consecutive numbers.

**Proof sketch.** Induction on the fuel. The node that is taken from the stack is the first one of
the first nested tree; its children go on the stack in front of the others, and the nested trees
that stand there are what is left of the first one. As the block of the first nested tree starts
with its root, the numbers stay consecutive. Each step uses up one node of the nested trees, so the
fuel lasts. -/
theorem walk_of_copies (fuel i : Nat) (stack : List t.Node) (xs : List (Bool × Nested))
    (h : List.Forall₂ IsCopy stack xs)
    (hi : stack.map Fin.val = Nested.numbers i (xs.map Prod.snd))
    (hfuel : Nested.sizes (xs.map Prod.snd) ≤ fuel) :
    List.Forall₂ IsCopy (walk fuel stack) (xs.flatMap fun x => x.2.occurrences x.1) ∧
      (walk fuel stack).map Fin.val = List.range' i (Nested.sizes (xs.map Prod.snd)) := by
  induction fuel generalizing i stack xs with
  | zero =>
    cases h with
    | nil => exact ⟨List.Forall₂.nil, rfl⟩
    | @cons n x stack xs _ _ =>
      have hx := x.2.size_pos
      rw [List.map_cons, Nested.sizes] at hfuel
      omega
  | succ fuel ih =>
    cases h with
    | nil => exact ⟨List.Forall₂.nil, rfl⟩
    | @cons n x stack xs hx hxs =>
      obtain ⟨b, d, cs⟩ := x
      have hchildren := hx.forall₂_children
      obtain ⟨⟨parent, hheld⟩, -⟩ := id hx
      obtain ⟨hn, hstack⟩ := List.cons.inj hi
      have hsize : (Nested.node d cs).size = 1 + Nested.sizes cs := by rw [Nested.size]
      rw [List.map_cons, Nested.sizes, hsize] at hfuel
      rw [hsize] at hstack
      have hsnd : (cs.map fun c => (d.kind.isTypeBody, c)).map Prod.snd = cs := by
        rw [List.map_map]
        exact List.map_id cs
      obtain ⟨ihc, ihn⟩ := ih (i + 1) (children n ++ stack)
        ((cs.map fun c => (d.kind.isTypeBody, c)) ++ xs) (List.rel_append hchildren hxs)
        (by
          rw [List.map_append, List.map_append, hheld.map_val_children, hn, hstack, hsnd,
            Nested.numbers_append, Nat.add_assoc]
          rfl)
        (by rw [List.map_append, hsnd, Nested.sizes_append]; omega)
      rw [List.map_append, hsnd, Nested.sizes_append] at ihn
      rw [List.flatMap_append, Nested.flatMap_occurrences] at ihc
      constructor
      · rw [walk, List.flatMap_cons, Nested.occurrences]
        exact List.Forall₂.cons hx ihc
      · rw [walk, List.map_cons, ihn, hn, List.map_cons, Nested.sizes, hsize,
          show 1 + Nested.sizes cs + Nested.sizes (xs.map Prod.snd) =
            Nested.sizes cs + Nested.sizes (xs.map Prod.snd) + 1 by omega,
          List.range'_succ]

/-- The nodes from a node on at which a nested tree stands. -/
theorem IsCopy.descendants {n : t.Node} {x : Bool × Nested} (h : IsCopy n x) :
    List.Forall₂ IsCopy (descendants n) (x.2.occurrences x.1) ∧
      (Tree.descendants n).map Fin.val = List.range' n.val x.2.size := by
  obtain ⟨⟨parent, hx⟩, -⟩ := id h
  have hsize := hx.size_le
  have hw := walk_of_copies t.entries.size n.val [n] [x] (List.Forall₂.cons h List.Forall₂.nil)
    rfl (by simp only [List.map_cons, List.map_nil, Nested.sizes]; omega)
  simpa only [Tree.descendants, List.flatMap_cons, List.flatMap_nil, List.append_nil,
    List.map_cons, List.map_nil, Nested.sizes, Nat.add_zero] using hw

section Dump

variable (dump : Dump)

/-- The root has no parent. -/
theorem parent?_root : parent? (ofDump dump).root = none :=
  Holds.parent?_eq (n := (ofDump dump).root) (holds_root dump)

/-- The root of the tree of a dump is a copy of the dump. -/
theorem isCopy_root : IsCopy (ofDump dump).root (false, dump.root) := by
  refine ⟨⟨none, holds_root dump⟩, ?_⟩
  rw [isMember, parent?_root]

/-- The tree of a dump has as many nodes as the dump. -/
theorem size_entries_ofDump : (ofDump dump).entries.size = dump.root.size := by
  rw [← Array.length_toList, toList_entries_ofDump, Nested.length_entries]

/-- The walk from the root comes to all nodes in the order of their numbers. -/
theorem descendants_root : descendants (ofDump dump).root = (ofDump dump).nodes := by
  apply List.map_injective_iff.mpr Fin.val_injective
  rw [(isCopy_root dump).descendants.2, nodes, List.map_coe_finRange_eq_range]
  change List.range' 0 dump.root.size = _
  rw [size_entries_ofDump, List.range_eq_range']

/-- The walk from the root meets the nested trees of the dump in pre-order. -/
theorem forall₂_descendants_root :
    List.Forall₂ IsCopy (descendants (ofDump dump).root) (dump.root.occurrences false) :=
  (isCopy_root dump).descendants.1

/-- At every node of the tree of a dump stands a nested tree. -/
theorem exists_isCopy (n : (ofDump dump).Node) : ∃ x, IsCopy n x := by
  have hf := (forall₂_descendants_root dump).imp fun m x hx =>
    And.intro (Exists.intro (p := IsCopy m) x hx) hx
  rw [descendants_root] at hf
  exact ((List.forall₂_and_left _ _).mp hf).1 n (List.mem_finRange n)

/-- No node of the tree of a dump is a child twice. -/
theorem nodup_children (p : (ofDump dump).Node) : (children p).Nodup := by
  obtain ⟨x, ⟨parent, hx⟩, -⟩ := exists_isCopy dump p
  exact hx.nodup_children

/-- A walk comes to nothing but the nodes of its stack and children of nodes. -/
theorem mem_stack_or_child_of_mem_walk {t : Tree} {c : t.Node} (fuel : Nat) (stack : List t.Node)
    (h : c ∈ walk fuel stack) : c ∈ stack ∨ ∃ p : t.Node, c ∈ children p := by
  induction fuel generalizing stack with
  | zero => cases h
  | succ fuel ih =>
    cases stack with
    | nil => cases h
    | cons n stack =>
      rcases List.mem_cons.mp h with rfl | h
      · exact Or.inl List.mem_cons_self
      · rcases ih _ h with h | h
        · rcases List.mem_append.mp h with h | h
          · exact Or.inr ⟨n, h⟩
          · exact Or.inl (List.mem_cons_of_mem n h)
        · exact Or.inr h

/-- The children of a node are the nodes whose parent it is.

**Proof sketch.** A child knows its parent, since a nested tree stands at every node. Conversely the
walk from the root comes to every node, and it comes to nothing but the root, which has no parent,
and children of nodes; a child of another node would have that one as its parent. -/
theorem mem_children_iff {c p : (ofDump dump).Node} :
    c ∈ children p ↔ parent? c = some p := by
  have hchild : ∀ {c q : (ofDump dump).Node}, c ∈ children q → parent? c = some q := by
    intro c q hc
    obtain ⟨x, ⟨parent, hx⟩, -⟩ := exists_isCopy dump q
    exact hx.parent?_of_mem_children hc
  refine ⟨hchild, fun hp => ?_⟩
  have hc : c ∈ descendants (ofDump dump).root := by
    rw [descendants_root]
    exact List.mem_finRange c
  rcases mem_stack_or_child_of_mem_walk _ _ hc with hc | ⟨q, hq⟩
  · rw [List.mem_singleton.mp hc, parent?_root] at hp
    cases hp
  · have hpq := hchild hq
    rw [hp] at hpq
    cases hpq
    exact hq

end Dump

end Tree

end NullLint.Syntax
