import Mathlib.Logic.Function.Iterate
import NullLint.Proofs.Syntax.Preorder

set_option autoImplicit false
set_option relaxedAutoImplicit false

/-!
# Trees that mirror a nested tree

The tree of a dump says neither more nor less than the dump. Its nodes are numbered in pre-order,
parents and children know each other, a node is as many steps away from the root as it lies deep in
the dump, and reading the tree along its lists of children gives the dump back.

## Main definitions

* `Syntax.Nested.outline` — the nested trees inside a nested tree in pre-order, with their depths.
* `Syntax.Tree.nested` — the nested tree that is read from a node downwards.
* `Syntax.Tree.stepUp`, `Syntax.Tree.Climbs` — steps to the parent, and how many lead to the root.
* `Syntax.Tree.Mirrors` — what makes a tree a faithful copy of a nested tree.

## Main results

* `Syntax.Tree.Holds.nestedUpTo_eq` — reading from the node at which a nested tree stands.
* `Syntax.Tree.Holds.forall₂_outline` — pre-order numbers and depths.
* `Syntax.Tree.mirrors_ofDump` — the tree of a dump mirrors the dump.
-/

namespace NullLint.Syntax

namespace Nested

mutual

/-- A nested tree at some depth and all nested trees inside it, each before those inside it and the
children in their order. With each goes its depth. -/
def outline (depth : Nat) : Nested → List (Nat × Nested)
  | .node d cs => (depth, .node d cs) :: outlineBelow (depth + 1) cs

/-- The nested trees inside several ones at the same depth. -/
def outlineBelow (depth : Nat) : List Nested → List (Nat × Nested)
  | [] => []
  | c :: cs => c.outline depth ++ outlineBelow depth cs

end

theorem size_le_sizes_of_mem {c : Nested} {cs : List Nested} (h : c ∈ cs) : c.size ≤ sizes cs := by
  induction cs with
  | nil => cases h
  | cons x cs ih =>
    rw [sizes]
    rcases List.mem_cons.mp h with rfl | h
    · omega
    · have := ih h
      omega

end Nested

namespace Tree

variable {t : Tree}

/-! ## Reading a tree downwards -/

/-- What is read from a node downwards, at most `fuel` levels deep. -/
def nestedUpTo : Nat → t.Node → Nested
  | 0, n => .node (declaration n) []
  | fuel + 1, n => .node (declaration n) ((children n).map (nestedUpTo fuel))

/-- The nested tree that is read from a node along the lists of children. A tree has at most as many
levels as nodes. -/
def nested (n : t.Node) : Nested := nestedUpTo t.entries.size n

/-- Reading from the node at which a nested tree stands gives the nested tree.

**Proof sketch.** Induction on the number of levels that may still be read. The children of the
nested tree stand at the children of the node, and each of them is smaller. -/
theorem Holds.nestedUpTo_eq {fuel : Nat} {n : t.Node} {parent : Option Nat} {s : Nested}
    (h : t.Holds n.val parent s) (hfuel : s.size ≤ fuel) : nestedUpTo fuel n = s := by
  induction fuel generalizing n parent s with
  | zero =>
    have := s.size_pos
    omega
  | succ fuel ih =>
    obtain ⟨d, cs⟩ := s
    rw [Nested.size] at hfuel
    have hchildren : cs = (children n).map (nestedUpTo fuel) := by
      rw [← List.forall₂_eq_eq_eq, List.forall₂_map_right_iff]
      have hmem := (List.forall₂_and_left _ _).mpr
        ⟨fun x (hx : x ∈ cs) => hx, h.forall₂_children.flip⟩
      refine hmem.imp fun x c hx => (ih hx.2 ?_).symm
      have := Nested.size_le_sizes_of_mem hx.1
      omega
    rw [nestedUpTo, ← hchildren, h.declaration_eq]
    rfl

/-! ## Steps to the parent -/

/-- A step from a node to its parent, if there is one. -/
def stepUp (n : Option t.Node) : Option t.Node := n.bind parent?

/-- So many steps from a node to its parent lead to the root. -/
inductive Climbs : t.Node → Nat → Prop
  | root : Climbs t.root 0
  | child {c p : t.Node} {k : Nat} (hp : parent? c = some p) (h : Climbs p k) : Climbs c (k + 1)

theorem iterate_stepUp_none (j : Nat) : stepUp^[j] (none : Option t.Node) = none := by
  induction j with
  | zero => rfl
  | succ j ih => rw [Function.iterate_succ_apply, stepUp, Option.bind_none, ih]

/-- The first step from a child leads to its parent. -/
theorem iterate_stepUp_succ {c p : t.Node} (hp : parent? c = some p) (j : Nat) :
    stepUp^[j + 1] (some c) = stepUp^[j] (some p) := by
  rw [Function.iterate_succ_apply, stepUp, Option.bind_some, hp]

namespace Climbs

variable {n : t.Node} {k : Nat}

theorem iterate_stepUp (h : Climbs n k) : stepUp^[k] (some n) = some t.root := by
  induction h with
  | root => rfl
  | child hp _ ih => rw [iterate_stepUp_succ hp, ih]

/-- Where the root has no parent, there are no more steps than lead to the root. -/
theorem isSome_iterate_stepUp (h : Climbs n k) (hroot : parent? t.root = none) (j : Nat) :
    (stepUp^[j] (some n)).isSome = true ↔ j ≤ k := by
  induction h generalizing j with
  | root =>
    cases j with
    | zero => simp
    | succ j =>
      rw [Function.iterate_succ_apply, stepUp, Option.bind_some, hroot, iterate_stepUp_none]
      simp
  | child hp _ ih =>
    cases j with
    | zero => simp
    | succ j => rw [iterate_stepUp_succ hp, ih, Nat.add_le_add_iff_right]

/-- Where the root has no parent, a node has as many ancestors as steps lead to the root. -/
theorem length_ancestorsUpTo (h : Climbs n k) (hroot : parent? t.root = none) {fuel : Nat}
    (hfuel : k ≤ fuel) : (ancestorsUpTo fuel n).length = k := by
  induction h generalizing fuel with
  | root => cases fuel <;> simp [ancestorsUpTo, hroot]
  | child hp _ ih =>
    obtain ⟨fuel, rfl⟩ : ∃ f, fuel = f + 1 := ⟨fuel - 1, by omega⟩
    rw [ancestorsUpTo, hp]
    simp [ih (Nat.le_of_succ_le_succ hfuel)]

end Climbs

/-! ## Numbers and depths -/

/-- At a number stands a nested tree, as many steps below the root as its depth says. -/
def Stands (t : Tree) (i : Nat) (x : Nat × Nested) : Prop :=
  ∃ n : t.Node, n.val = i ∧ (∃ parent, t.Holds i parent x.2) ∧ Climbs n x.1

/-- The nested trees inside several ones stand at consecutive numbers, if those inside each do. -/
theorem HoldsBelow.forall₂_outlineBelow {cs : List Nested} {i k : Nat} {p : t.Node}
    (hcs : ∀ c ∈ cs, ∀ (n : t.Node), t.Holds n.val (some p.val) c → Climbs n (k + 1) →
      List.Forall₂ t.Stands (List.range' n.val c.size) (c.outline (k + 1)))
    (hp : Climbs p k) (h : t.HoldsBelow i p.val cs) :
    List.Forall₂ t.Stands (List.range' i (Nested.sizes cs)) (Nested.outlineBelow (k + 1) cs) := by
  induction cs generalizing i with
  | nil => exact List.Forall₂.nil
  | cons c cs ih =>
    obtain ⟨hc, hbelow⟩ := h.cons
    have hi : i < t.entries.size := by
      have hl := hc.size_le
      have hs := c.size_pos
      omega
    let n : t.Node := ⟨i, hi⟩
    have hn : Climbs n (k + 1) := Climbs.child (Holds.parent?_of_some (n := n) hc) hp
    rw [Nested.sizes, Nested.outlineBelow, ← List.range'_append_1]
    exact List.rel_append (hcs c (by simp) n hc hn)
      (ih (fun x hx => hcs x (by simp [hx])) hbelow)

/-- **Pre-order numbers.** The nested trees inside one that stands at a node stand at the numbers
from the number of the node on, in pre-order, and each is as many steps away from the root as it
lies deep.

**Proof sketch.** Induction on the nested tree. Its root comes first; the blocks of its children
follow one after the other, and each child is one step further away from the root. -/
theorem Holds.forall₂_outline {s : Nested} {n : t.Node} {parent : Option Nat} {k : Nat}
    (h : t.Holds n.val parent s) (hk : Climbs n k) :
    List.Forall₂ t.Stands (List.range' n.val s.size) (s.outline k) := by
  induction s generalizing n parent k with
  | node d cs ih =>
    rw [Nested.size, Nested.outline, Nat.add_comm, List.range'_succ]
    refine List.Forall₂.cons ⟨n, rfl, ⟨parent, h⟩, hk⟩ ?_
    exact HoldsBelow.forall₂_outlineBelow (fun c hc m hm hkm => ih c hc hm hkm) hk h.holdsBelow

/-! ## Faithful copies -/

/-- A tree mirrors a nested tree.

* `size_eq`: it has one node for each node of the nested tree.
* `numbered`: the number of a node is its place in the pre-order of the nested tree, and what is
  read from the node downwards is the nested tree at that place.
* `bounded`: all numbers in its entries are numbers of nodes.
* `parent_eq_none_iff`: only the root has no parent.
* `mem_children_iff`, `nodup_children`: the children of a node are the nodes whose parent it is,
  each once.
* `lt_of_parent`, `sorted_children`: a child comes after its parent and after the children before
  it.
* `nested_root`: reading from the root gives the nested tree.
* `climbs`: from a node as many steps to parents can be made as the node lies deep, and they end at
  the root. -/
structure Mirrors (t : Tree) (s : Nested) : Prop where
  size_eq : t.entries.size = s.size
  numbered : ∀ n : t.Node, ∃ k, (s.outline 0)[n.val]? = some (k, nested n)
  bounded : ∀ n : t.Node, (∀ p, t.entries[n].parent = some p → p < t.entries.size) ∧
    ∀ c ∈ t.entries[n].children, c < t.entries.size
  parent_eq_none_iff : ∀ n : t.Node, t.entries[n].parent = none ↔ n = t.root
  mem_children_iff : ∀ c p : t.Node, c ∈ children p ↔ parent? c = some p
  nodup_children : ∀ p : t.Node, (children p).Nodup
  lt_of_parent : ∀ c p : t.Node, parent? c = some p → p < c
  sorted_children : ∀ p : t.Node, (children p).Pairwise (· < ·)
  nested_root : nested t.root = s
  climbs : ∀ (n : t.Node) (k : Nat) (x : Nested), (s.outline 0)[n.val]? = some (k, x) →
    stepUp^[k] (some n) = some t.root ∧ (ancestors n).length = k ∧
      ∀ j, (stepUp^[j] (some n)).isSome = true ↔ j ≤ k

section Dump

variable (dump : Dump)

/-- At the number of a node stands the nested tree at that place of the pre-order. -/
theorem exists_stands (n : (ofDump dump).Node) :
    ∃ x, (dump.root.outline 0)[n.val]? = some x ∧ (ofDump dump).Stands n.val x := by
  have hall := Holds.forall₂_outline (n := (ofDump dump).root) (holds_root dump) Climbs.root
  have hlength := hall.length_eq
  rw [List.length_range'] at hlength
  have hn : n.val < dump.root.size := by
    rw [← size_entries_ofDump]
    exact n.isLt
  refine ⟨_, List.getElem?_eq_getElem (hlength ▸ hn), ?_⟩
  have hget := hall.get (i := n.val) (by rwa [List.length_range']) (by omega)
  simpa [root] using hget

variable {dump}

/-- What stands at a node is what is read from it downwards. -/
theorem Stands.nested_eq {n : (ofDump dump).Node} {x : Nat × Nested}
    (h : (ofDump dump).Stands n.val x) : nested n = x.2 := by
  obtain ⟨m, hm, ⟨parent, hx⟩, -⟩ := h
  exact hx.nestedUpTo_eq (Nat.le_trans (Nat.le_add_left _ _) hx.size_le)

/-- What stands at a node tells how far it is from the root. -/
theorem Stands.climbs {n : (ofDump dump).Node} {x : Nat × Nested}
    (h : (ofDump dump).Stands n.val x) : Climbs n x.1 := by
  obtain ⟨m, hm, -, hk⟩ := h
  rwa [Fin.ext hm] at hk

/-- A child comes after its parent. -/
theorem lt_of_parent?_eq {c p : (ofDump dump).Node} (h : parent? c = some p) : p < c := by
  obtain ⟨x, ⟨parent, hx⟩, -⟩ := exists_isCopy dump p
  have hc := List.mem_map_of_mem (f := Fin.val) ((mem_children_iff dump).mpr h)
  rw [hx.map_val_children] at hc
  exact Nested.le_of_mem_numbers hc

/-- A node is at most as many steps away from the root as nodes come before it. -/
theorem Climbs.le_val {n : (ofDump dump).Node} {k : Nat} (h : Climbs n k) : k ≤ n.val := by
  induction h with
  | root => exact Nat.zero_le _
  | child hp _ ih => exact Nat.lt_of_le_of_lt ih (lt_of_parent?_eq hp)

/-- The parent in the entry of a node is a node, if there is one. -/
theorem Climbs.parent_entry {n : (ofDump dump).Node} {k : Nat} (h : Climbs n k) :
    (ofDump dump).entries[n].parent = (parent? n).map Fin.val := by
  cases h with
  | root =>
    rw [Holds.entry_eq (n := (ofDump dump).root) (holds_root dump) (ofDump dump).root.isLt,
      parent?_root]
    rfl
  | child hp _ =>
    obtain ⟨q, hq, hnode⟩ := Option.bind_eq_some_iff.mp hp
    rw [hp, hq]
    rw [node?] at hnode
    split at hnode
    · cases hnode
      rfl
    · cases hnode

variable (dump)

/-- **The tree of a dump is a faithful copy of the dump.** It has the path of the dump, and its
nodes mirror the nested tree of the dump.

**Proof sketch.** At the number of a node stands the nested tree at that place of the pre-order. So
the node knows the numbers of its children, which are those of nodes, and steps to parents lead from
it to the root. Parents and children know each other, because the walk from the root comes to every
node and to nothing but children. -/
theorem mirrors_ofDump : (ofDump dump).path = dump.path ∧ (ofDump dump).Mirrors dump.root := by
  have hclimbs : ∀ n : (ofDump dump).Node, ∃ k, Climbs n k := fun n => by
    obtain ⟨x, -, hx⟩ := exists_stands dump n
    exact ⟨x.1, hx.climbs⟩
  refine ⟨rfl, ?_⟩
  constructor
  case size_eq => exact size_entries_ofDump dump
  case numbered =>
    intro n
    obtain ⟨x, hget, hx⟩ := exists_stands dump n
    exact ⟨x.1, by rw [hget, hx.nested_eq]⟩
  case bounded =>
    intro n
    obtain ⟨k, hk⟩ := hclimbs n
    constructor
    · intro p hp
      rw [hk.parent_entry] at hp
      obtain ⟨q, -, rfl⟩ := Option.map_eq_some_iff.mp hp
      exact q.isLt
    · obtain ⟨x, ⟨parent, hx⟩, -⟩ := exists_isCopy dump n
      intro c hc
      rw [hx.entry_eq n.isLt] at hc
      rw [← hx.map_val_children] at hc
      obtain ⟨m, -, rfl⟩ := List.mem_map.mp hc
      exact m.isLt
  case parent_eq_none_iff =>
    intro n
    obtain ⟨k, hk⟩ := hclimbs n
    rw [hk.parent_entry, Option.map_eq_none_iff]
    constructor
    · intro hnone
      cases hk with
      | root => rfl
      | child hp _ =>
        rw [hnone] at hp
        cases hp
    · rintro rfl
      exact parent?_root dump
  case mem_children_iff => exact fun c p => mem_children_iff dump
  case nodup_children => exact nodup_children dump
  case lt_of_parent => exact fun c p => lt_of_parent?_eq
  case sorted_children =>
    intro p
    obtain ⟨x, ⟨parent, hx⟩, -⟩ := exists_isCopy dump p
    have hsorted := Nested.pairwise_numbers (p.val + 1) x.2.children
    rw [← hx.map_val_children, List.pairwise_map] at hsorted
    exact hsorted
  case nested_root =>
    exact (holds_root dump).nestedUpTo_eq (n := (ofDump dump).root)
      (Nat.le_of_eq (size_entries_ofDump dump).symm)
  case climbs =>
    intro n k x hget
    obtain ⟨y, hy, hstands⟩ := exists_stands dump n
    obtain rfl : y = (k, x) := Option.some.inj (hy.symm.trans hget)
    have hk := hstands.climbs
    exact ⟨hk.iterate_stepUp,
      hk.length_ancestorsUpTo (parent?_root dump) (Nat.le_trans hk.le_val (Nat.le_of_lt n.isLt)),
      hk.isSome_iterate_stepUp (parent?_root dump)⟩

end Dump

end Tree

end NullLint.Syntax
