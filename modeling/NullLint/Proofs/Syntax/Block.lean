import Mathlib.Data.List.Forall2
import Mathlib.Data.List.Nodup
import NullLint.Proofs.Syntax.Layout

set_option autoImplicit false
set_option relaxedAutoImplicit false

/-!
# Nested trees inside a tree

A nested tree stands in a tree where its block does. The node at the start of the block says what
the root of the nested tree says, has the parent that the block was laid out with, and its children
are the nodes at the starts of the blocks of the children.

## Main definitions

* `Syntax.Tree.Holds` — a nested tree stands in a tree from a number on.

## Main results

* `Syntax.Tree.Holds.declaration_eq`, `Syntax.Tree.Holds.parent?_eq`,
  `Syntax.Tree.Holds.map_val_children`, `Syntax.Tree.Holds.forall₂_children` — the node at which a
  nested tree stands.
* `Syntax.Tree.holds_root` — the tree of a dump holds the whole dump at its root.
-/

namespace NullLint.Syntax

namespace Nested

/-- Every nested tree has a node. -/
theorem size_pos (s : Nested) : 0 < s.size := by
  cases s
  rw [size]
  omega

theorem sizes_append (cs ds : List Nested) : sizes (cs ++ ds) = sizes cs + sizes ds := by
  induction cs with
  | nil => simp [sizes]
  | cons c cs ih => rw [List.cons_append, sizes, sizes, ih, Nat.add_assoc]

theorem numbers_append (i : Nat) (cs ds : List Nested) :
    numbers i (cs ++ ds) = numbers i cs ++ numbers (i + sizes cs) ds := by
  induction cs generalizing i with
  | nil => simp [numbers, sizes]
  | cons c cs ih =>
    rw [List.cons_append, numbers, numbers, sizes, ih, List.cons_append, Nat.add_assoc]

/-- The numbers of children lie from `i` on. -/
theorem le_of_mem_numbers {i k : Nat} {cs : List Nested} (h : k ∈ numbers i cs) : i ≤ k := by
  induction cs generalizing i with
  | nil => cases h
  | cons c cs ih =>
    rcases List.mem_cons.mp h with rfl | h
    · exact Nat.le_refl _
    · exact Nat.le_trans (Nat.le_add_right i c.size) (ih h)

/-- The numbers of children increase. -/
theorem pairwise_numbers (i : Nat) (cs : List Nested) : (numbers i cs).Pairwise (· < ·) := by
  induction cs generalizing i with
  | nil => exact List.Pairwise.nil
  | cons c cs ih =>
    refine List.pairwise_cons.mpr ⟨fun k hk => ?_, ih _⟩
    have hc := c.size_pos
    have hi := le_of_mem_numbers hk
    omega

/-- The blocks of several nested trees are as long as the trees are large, if each of them is. -/
theorem length_entriesBelow_of {cs : List Nested}
    (h : ∀ c ∈ cs, ∀ i parent, (c.entries i parent).length = c.size) (i p : Nat) :
    (entriesBelow i p cs).length = sizes cs := by
  induction cs generalizing i with
  | nil => rfl
  | cons c cs ih =>
    rw [entriesBelow, List.length_append, h c (by simp), ih fun x hx => h x (by simp [hx]), sizes]

/-- The block of a nested tree is as long as the tree is large. -/
theorem length_entries (s : Nested) (i : Nat) (parent : Option Nat) :
    (s.entries i parent).length = s.size := by
  induction s generalizing i parent with
  | node d cs ih => rw [entries, List.length_cons, length_entriesBelow_of ih, size, Nat.add_comm]

end Nested

namespace Tree

/-- A nested tree stands in a tree from the number `i` on: its block does. -/
def Holds (t : Tree) (i : Nat) (parent : Option Nat) (s : Nested) : Prop :=
  s.entries i parent <+: t.entries.toList.drop i

/-- Several nested trees stand in a tree from the number `i` on, as children of `p`. -/
def HoldsBelow (t : Tree) (i p : Nat) (cs : List Nested) : Prop :=
  Nested.entriesBelow i p cs <+: t.entries.toList.drop i

/-- The tree of a dump holds the dump. -/
theorem holds_root (dump : Dump) : (ofDump dump).Holds 0 none dump.root := by
  rw [Holds, toList_entries_ofDump]
  exact List.prefix_rfl

variable {t : Tree} {i p : Nat} {parent : Option Nat} {s : Nested}

/-- A nested tree ends before the entries do. -/
theorem Holds.size_le (h : t.Holds i parent s) : i + s.size ≤ t.entries.size := by
  have hl := h.length_le
  have hs := s.size_pos
  rw [Nested.length_entries, List.length_drop, Array.length_toList] at hl
  omega

/-- Where a nested tree stands, its root and its children do. -/
theorem Holds.node {d : Declaration} {cs : List Nested} (h : t.Holds i parent (.node d cs)) :
    t.entries[i]? = some ⟨d, parent, Nested.numbers (i + 1) cs⟩ ∧ t.HoldsBelow (i + 1) i cs := by
  obtain ⟨rest, hr⟩ := h
  rw [Nested.entries, List.cons_append] at hr
  refine ⟨?_, rest, ?_⟩
  · rw [← Array.getElem?_toList, ← Nat.add_zero i, ← List.getElem?_drop, ← hr]
    rfl
  · rw [← List.drop_drop, ← hr]
    rfl

/-- Where several nested trees stand, the first one does, and the others do behind it. -/
theorem HoldsBelow.cons {c : Nested} {cs : List Nested} (h : t.HoldsBelow i p (c :: cs)) :
    t.Holds i (some p) c ∧ t.HoldsBelow (i + c.size) p cs := by
  obtain ⟨rest, hr⟩ := h
  rw [Nested.entriesBelow, List.append_assoc] at hr
  refine ⟨⟨_, hr⟩, rest, ?_⟩
  rw [← List.drop_drop, ← hr, ← Nested.length_entries c i (some p), List.drop_left]

theorem node?_val (n : t.Node) : t.node? n.val = some n := by
  simp [node?]

/-- The nodes at which several nested trees stand. -/
theorem HoldsBelow.forall₂_nodes {cs : List Nested} (h : t.HoldsBelow i p cs) :
    List.Forall₂ (fun (c : t.Node) x => t.Holds c.val (some p) x)
        ((Nested.numbers i cs).filterMap t.node?) cs ∧
      ((Nested.numbers i cs).filterMap t.node?).map Fin.val = Nested.numbers i cs := by
  induction cs generalizing i with
  | nil => exact ⟨List.Forall₂.nil, rfl⟩
  | cons c cs ih =>
    obtain ⟨hc, hcs⟩ := h.cons
    obtain ⟨hf, hm⟩ := ih hcs
    have hi : i < t.entries.size := by
      have hl := hc.size_le
      have hs := c.size_pos
      omega
    have hn : t.node? i = some ⟨i, hi⟩ := node?_val (⟨i, hi⟩ : t.Node)
    rw [Nested.numbers, List.filterMap_cons, hn]
    exact ⟨List.Forall₂.cons hc hf, by rw [List.map_cons, hm]⟩

section Node

variable {n : t.Node}

/-- The entry of the node at which a nested tree stands. -/
theorem Holds.entry_eq (h : t.Holds n.val parent s) (hn : n.val < t.entries.size) :
    t.entries[n] = ⟨s.declaration, parent, Nested.numbers (n.val + 1) s.children⟩ := by
  cases s
  have he := h.node.1
  rw [Array.getElem?_eq_getElem hn] at he
  exact Option.some.inj he

/-- The node at which a nested tree stands says what the root of the nested tree says. -/
theorem Holds.declaration_eq (h : t.Holds n.val parent s) : declaration n = s.declaration := by
  rw [declaration, h.entry_eq n.isLt]

theorem Holds.kind_eq (h : t.Holds n.val parent s) : kind n = s.declaration.kind := by
  rw [kind, h.declaration_eq]

/-- The parent of the node at which a nested tree stands. -/
theorem Holds.parent?_eq (h : t.Holds n.val parent s) : parent? n = parent.bind t.node? := by
  rw [parent?, h.entry_eq n.isLt]

/-- A nested tree that stands below a node stands at one of its children. -/
theorem Holds.parent?_of_some {q : t.Node} (h : t.Holds n.val (some q.val) s) :
    parent? n = some q := by
  rw [h.parent?_eq, Option.bind_some, node?_val]

theorem Holds.holdsBelow (h : t.Holds n.val parent s) :
    t.HoldsBelow (n.val + 1) n.val s.children := by
  cases s
  exact h.node.2

/-- The numbers of the children of the node at which a nested tree stands. -/
theorem Holds.map_val_children (h : t.Holds n.val parent s) :
    (children n).map Fin.val = Nested.numbers (n.val + 1) s.children := by
  rw [children, h.entry_eq n.isLt]
  exact h.holdsBelow.forall₂_nodes.2

/-- The children of a nested tree stand at the children of the node at which it stands. -/
theorem Holds.forall₂_children (h : t.Holds n.val parent s) :
    List.Forall₂ (fun (c : t.Node) x => t.Holds c.val (some n.val) x) (children n) s.children := by
  rw [children, h.entry_eq n.isLt]
  exact h.holdsBelow.forall₂_nodes.1

/-- A child knows its parent. -/
theorem Holds.parent?_of_mem_children (h : t.Holds n.val parent s) {c : t.Node}
    (hc : c ∈ children n) : parent? c = some n := by
  have hf := h.forall₂_children.imp fun c x hx => And.intro hx.parent?_of_some hx
  exact ((List.forall₂_and_left _ _).mp hf).1 c hc

/-- No node is a child twice. -/
theorem Holds.nodup_children (h : t.Holds n.val parent s) : (children n).Nodup := by
  apply List.Nodup.of_map Fin.val
  rw [h.map_val_children]
  exact (Nested.pairwise_numbers _ _).imp Nat.ne_of_lt

end Node

end Tree

end NullLint.Syntax
