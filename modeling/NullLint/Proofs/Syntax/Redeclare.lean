import NullLint.Proofs.Syntax.Preorder

set_option autoImplicit false
set_option relaxedAutoImplicit false

/-!
# Trees with other declarations

A nested tree in which every node gets another declaration keeps its shape. So does the numbered
tree: the nodes have the same numbers, the same parents and the same children, and each of them says
what its new declaration says.

## Main definitions

* `Syntax.Nested.redeclare`, `Syntax.Dump.redeclare` — a nested tree, and a dump, with other
  declarations.
* `Syntax.Tree.redeclare` — a numbered tree with other declarations.
* `Syntax.Tree.twin` — the node with the same number in the tree with other declarations.

## Main results

* `Syntax.Tree.ofDump_redeclare` — numbering a dump with other declarations gives the numbered tree
  with other declarations.
* `Syntax.Tree.declaration_twin`, `Syntax.Tree.parent?_twin`, `Syntax.Tree.children_twin` — what a
  node has in common with its twin.
-/

namespace NullLint.Syntax

namespace Nested

mutual

/-- A nested tree of the same shape. The declaration of each node is the one of its number in
pre-order, and the root has the number `i`. -/
def redeclare (ds : Nat → Declaration) (i : Nat) : Nested → Nested
  | .node _ cs => .node (ds i) (redeclareBelow ds (i + 1) cs)

/-- Nested trees of the same shapes, of which the first one has the number `i` at its root. -/
def redeclareBelow (ds : Nat → Declaration) (i : Nat) : List Nested → List Nested
  | [] => []
  | c :: cs => c.redeclare ds i :: redeclareBelow ds (i + c.size) cs

end

variable (ds : Nat → Declaration)

theorem sizes_redeclareBelow_of {cs : List Nested}
    (h : ∀ c ∈ cs, ∀ i, (c.redeclare ds i).size = c.size) (i : Nat) :
    sizes (redeclareBelow ds i cs) = sizes cs := by
  induction cs generalizing i with
  | nil => rfl
  | cons c cs ih =>
    rw [redeclareBelow, sizes, sizes, h c List.mem_cons_self,
      ih fun x hx => h x (List.mem_cons_of_mem c hx)]

/-- A nested tree keeps its size. -/
theorem size_redeclare (s : Nested) (i : Nat) : (s.redeclare ds i).size = s.size := by
  induction s generalizing i with
  | node d cs ih => rw [redeclare, size, size, sizes_redeclareBelow_of ds ih]

/-- Children keep their numbers. -/
theorem numbers_redeclareBelow (cs : List Nested) (i j : Nat) :
    numbers i (redeclareBelow ds j cs) = numbers i cs := by
  induction cs generalizing i j with
  | nil => rfl
  | cons c cs ih => rw [redeclareBelow, numbers, numbers, size_redeclare, ih]

/-- Entries with other declarations, of which the first one has the number `i`. -/
def redeclared (i : Nat) (es : List Entry) : List Entry :=
  es.mapIdx fun k e => { e with declaration := ds (i + k) }

theorem redeclared_cons (i : Nat) (e : Entry) (es : List Entry) :
    redeclared ds i (e :: es) = { e with declaration := ds i } :: redeclared ds (i + 1) es := by
  rw [redeclared, List.mapIdx_cons, redeclared]
  simp only [Nat.add_zero, Nat.add_assoc, Nat.add_comm 1]

theorem redeclared_append (i : Nat) (es fs : List Entry) :
    redeclared ds i (es ++ fs) = redeclared ds i es ++ redeclared ds (i + es.length) fs := by
  rw [redeclared, List.mapIdx_append, redeclared, redeclared]
  simp only [Nat.add_assoc, Nat.add_comm es.length]

theorem entriesBelow_redeclareBelow_of {cs : List Nested}
    (h : ∀ c ∈ cs, ∀ i parent,
      (c.redeclare ds i).entries i parent = redeclared ds i (c.entries i parent)) (i p : Nat) :
    entriesBelow i p (redeclareBelow ds i cs) = redeclared ds i (entriesBelow i p cs) := by
  induction cs generalizing i with
  | nil => rfl
  | cons c cs ih =>
    rw [redeclareBelow, entriesBelow, entriesBelow, redeclared_append, length_entries,
      size_redeclare, h c List.mem_cons_self, ih fun x hx => h x (List.mem_cons_of_mem c hx)]

/-- The block of a nested tree with other declarations.

**Proof sketch.** Induction on the nested tree. Children keep their sizes, so the blocks lie where
they lay before. -/
theorem entries_redeclare (s : Nested) (i : Nat) (parent : Option Nat) :
    (s.redeclare ds i).entries i parent = redeclared ds i (s.entries i parent) := by
  induction s generalizing i parent with
  | node d cs ih =>
    rw [redeclare, entries, entries, redeclared_cons, numbers_redeclareBelow,
      entriesBelow_redeclareBelow_of ds ih]

end Nested

/-- A dump of the same shape and with the same path. The declaration of each node is the one of its
number in pre-order. -/
def Dump.redeclare (ds : Nat → Declaration) (dump : Dump) : Dump :=
  { dump with root := dump.root.redeclare ds 0 }

namespace Tree

/-- A tree of the same shape. The declaration of each node is the one of its number. -/
def redeclare (ds : Nat → Declaration) (t : Tree) : Tree where
  path := t.path
  entries := t.entries.mapIdx fun k e => { e with declaration := ds k }
  nonempty := by
    rw [Array.size_mapIdx]
    exact t.nonempty

variable (ds : Nat → Declaration)

theorem size_redeclare (t : Tree) : (t.redeclare ds).entries.size = t.entries.size :=
  Array.size_mapIdx

/-- Numbering a dump with other declarations. -/
theorem ofDump_redeclare (dump : Dump) :
    ofDump (dump.redeclare ds) = (ofDump dump).redeclare ds := by
  refine Tree.ext rfl (Array.toList_inj.mp ?_)
  rw [toList_entries_ofDump, redeclare, Array.toList_mapIdx, toList_entries_ofDump]
  change (dump.root.redeclare ds 0).entries 0 none = _
  rw [Nested.entries_redeclare, Nested.redeclared]
  simp only [Nat.zero_add]

variable {t : Tree}

/-- The node with the same number in the tree with other declarations. -/
def twin (n : t.Node) : (t.redeclare ds).Node :=
  Fin.cast (size_redeclare ds t).symm n

theorem entry_twin (n : t.Node) :
    getElem (t.redeclare ds).entries (twin ds n) (twin ds n).isLt =
      { getElem t.entries n n.isLt with declaration := ds n } :=
  Array.getElem_mapIdx (twin ds n).isLt

/-- A twin says what its new declaration says. -/
@[simp]
theorem declaration_twin (n : t.Node) : declaration (twin ds n) = ds n := by
  rw [declaration, entry_twin]

theorem node?_twin (i : Nat) : (t.redeclare ds).node? i = (t.node? i).map (twin ds) := by
  rw [node?, node?]
  by_cases h : i < t.entries.size
  · rw [dif_pos h, dif_pos (by rwa [size_redeclare])]
    rfl
  · rw [dif_neg h, dif_neg (by rwa [size_redeclare])]
    rfl

/-- The parent of a twin is the twin of the parent. -/
theorem parent?_twin (n : t.Node) : parent? (twin ds n) = (parent? n).map (twin ds) := by
  rw [parent?, parent?, entry_twin]
  cases t.entries[n].parent with
  | none => rfl
  | some p => exact node?_twin ds p

/-- The children of a twin are the twins of the children. -/
theorem children_twin (n : t.Node) : children (twin ds n) = (children n).map (twin ds) := by
  rw [children, children, entry_twin, List.map_filterMap]
  exact List.filterMap_congr fun i _ => node?_twin ds i

/-- The twin of the root is the root. -/
theorem twin_root (t : Tree) : twin ds t.root = (t.redeclare ds).root := rfl

/-- A walk over a tree with other declarations comes to the twins. -/
theorem walk_twin (fuel : Nat) (stack : List t.Node) :
    walk fuel (stack.map (twin ds)) = (walk fuel stack).map (twin ds) := by
  induction fuel generalizing stack with
  | zero => rfl
  | succ fuel ih =>
    cases stack with
    | nil => rfl
    | cons n stack =>
      rw [List.map_cons, walk, walk, children_twin, ← List.map_append, ih, List.map_cons]

theorem descendants_twin (n : t.Node) :
    descendants (twin ds n) = (descendants n).map (twin ds) := by
  rw [descendants, descendants, size_redeclare]
  exact walk_twin ds t.entries.size [n]

end Tree

end NullLint.Syntax
