import NullLint.Syntax.Tree

set_option autoImplicit false
set_option relaxedAutoImplicit false

/-!
# The layout of a tree

The entries of the tree of a dump, written down by recursion on the nested tree: the root comes
first, then the trees of its children one after the other, each as a block of consecutive entries.
The numbers in the entries follow from the sizes of the blocks alone.

## Main definitions

* `Syntax.Nested.numbers` — the numbers of the children of a node.
* `Syntax.Nested.entries`, `Syntax.Nested.entriesBelow` — the block of one nested tree, and the
  blocks of several.
* `Syntax.Tree.layOut` — the tree of a dump by that recursion.

## Main results

* `Syntax.getElem?_grow` — numbering pending nodes lays out their blocks in their order.
* `Syntax.Tree.toList_entries_ofDump`, `Syntax.Tree.ofDump_eq_layOut` — the entries of the tree of a
  dump.

## Design

While nodes are numbered, the entries that exist already lack some of their children: those that
still wait. So the law about `grow` says what each entry has yet to adopt, by the numbers that the
waiting nodes are going to get (`Syntax.Pending.adopted`). A waiting node has a parent with a number
already, which keeps the blocks to come apart from the entries that grow.
-/

namespace NullLint.Syntax

namespace Nested

/-- Whatever holds of a node if it holds of all its children holds of every nested tree. -/
@[induction_eliminator]
theorem induction {P : Nested → Prop}
    (node : ∀ declaration children, (∀ c ∈ children, P c) → P (.node declaration children)) :
    ∀ s, P s
  | .node d cs => node d cs fun c _ => induction node c

/-- The numbers of the children of a node, of which the first one has the number `i`. -/
def numbers (i : Nat) : List Nested → List Nat
  | [] => []
  | c :: cs => i :: numbers (i + c.size) cs

mutual

/-- The block of a nested tree whose root has the number `i`. -/
def entries (i : Nat) (parent : Option Nat) : Nested → List Entry
  | .node d cs => ⟨d, parent, numbers (i + 1) cs⟩ :: entriesBelow (i + 1) i cs

/-- The blocks of the children of the node `parent`, the first one from the number `i` on. -/
def entriesBelow (i parent : Nat) : List Nested → List Entry
  | [] => []
  | c :: cs => c.entries i (some parent) ++ entriesBelow (i + c.size) parent cs

end

end Nested

namespace Pending

/-- The numbers that the children of the node `p` get among pending nodes, of which the first one
gets the number `i`. -/
def adopted (p i : Nat) : Pending → List Nat
  | [] => []
  | w :: ws => (if w.2 = some p then [i] else []) ++ adopted p (i + w.1.size) ws

/-- The blocks of pending nodes, the first one from the number `i` on. -/
def blocks (i : Nat) : Pending → List Entry
  | [] => []
  | w :: ws => w.1.entries i w.2 ++ blocks (i + w.1.size) ws

/-- The children of a node are adopted by that node. -/
theorem adopted_ofChildren_self (p i : Nat) (cs : List Nested) (ws : Pending) :
    adopted p i (ofChildren p cs ++ ws) =
      Nested.numbers i cs ++ adopted p (i + Nested.sizes cs) ws := by
  induction cs generalizing i with
  | nil => rfl
  | cons c cs ih =>
    change (if some p = some p then [i] else []) ++
      adopted p (i + c.size) (ofChildren p cs ++ ws) = _
    rw [if_pos rfl, ih, Nested.numbers, Nested.sizes, Nat.add_assoc]
    rfl

/-- The children of a node are adopted by no other node. -/
theorem adopted_ofChildren_of_ne {p q : Nat} (h : p ≠ q) (i : Nat) (cs : List Nested)
    (ws : Pending) :
    adopted p i (ofChildren q cs ++ ws) = adopted p (i + Nested.sizes cs) ws := by
  induction cs generalizing i with
  | nil => rfl
  | cons c cs ih =>
    change (if some q = some p then [i] else []) ++
      adopted p (i + c.size) (ofChildren q cs ++ ws) = _
    rw [if_neg (by simpa using h.symm), ih, Nested.sizes, Nat.add_assoc]
    rfl

/-- A node that is no parent of a pending node adopts none. -/
theorem adopted_eq_nil {p : Nat} {ws : Pending} (h : ∀ w ∈ ws, w.2 ≠ some p) (i : Nat) :
    adopted p i ws = [] := by
  induction ws generalizing i with
  | nil => rfl
  | cons w ws ih =>
    rw [adopted, if_neg (h w (by simp)), ih fun x hx => h x (by simp [hx])]
    rfl

/-- The blocks of the children of a node. -/
theorem blocks_ofChildren (p i : Nat) (cs : List Nested) (ws : Pending) :
    blocks i (ofChildren p cs ++ ws) =
      Nested.entriesBelow i p cs ++ blocks (i + Nested.sizes cs) ws := by
  induction cs generalizing i with
  | nil => rfl
  | cons c cs ih =>
    change c.entries i (some p) ++ blocks (i + c.size) (ofChildren p cs ++ ws) = _
    rw [ih, Nested.entriesBelow, Nested.sizes, List.append_assoc, Nat.add_assoc]

end Pending

/-- An entry that gets more children. -/
def Entry.adopt (e : Entry) (numbers : List Nat) : Entry :=
  { e with children := e.children ++ numbers }

/-- Attaching a child, entry by entry. -/
theorem getElem?_attach (entries : Array Entry) (parent : Option Nat) (child k : Nat) :
    (attach entries parent child)[k]? =
      entries[k]?.map fun e => e.adopt (if parent = some k then [child] else []) := by
  cases parent with
  | none => simp [attach, Entry.adopt]
  | some p =>
    rw [attach, Array.getElem?_modify]
    by_cases h : p = k
    · simp [h, Entry.adopt]
    · simp [h, Entry.adopt]

/-- **Numbering lays out blocks.** The entries that exist adopt the waiting nodes whose parents
they are, and the blocks of the waiting nodes follow in their order.

**Proof sketch.** Induction along `grow`. The node that is taken from the stack becomes the entry
with the number `entries.size`. It has no children yet, but they are the first ones on the stack, so
the induction hypothesis gives it their numbers, and their blocks follow it. An older entry adopts
the new node if it is its parent, and of the nodes that waited behind what it adopts anyway. -/
theorem getElem?_grow (entries : Array Entry) (pending : Pending)
    (h : ∀ w ∈ pending, ∀ p, w.2 = some p → p < entries.size) (k : Nat) :
    (grow entries pending)[k]? =
      if k < entries.size then
        entries[k]?.map fun e => e.adopt (Pending.adopted k entries.size pending)
      else (Pending.blocks entries.size pending)[k - entries.size]? := by
  fun_induction grow entries pending with
  | case1 entries =>
    by_cases hk : k < entries.size
    · simp [hk, Pending.adopted, Entry.adopt]
    · simp [hk, Pending.blocks]
  | case2 entries declaration children parent pending id ih =>
    have hparent : ∀ p, parent = some p → p < id := h (_, parent) List.mem_cons_self
    have hpending : ∀ w ∈ pending, ∀ p, w.2 = some p → p < id :=
      fun w hw => h w (List.mem_cons_of_mem _ hw)
    have hsize : (Nested.node declaration children).size = 1 + Nested.sizes children := by
      rw [Nested.size]
    rw [ih ?wait, size_attach, Array.size_push, getElem?_attach, Pending.blocks,
      Pending.blocks_ofChildren, Nested.entries, hsize, ← Nat.add_assoc]
    case wait =>
      intro w hw p hp
      rw [size_attach, Array.size_push]
      rcases List.mem_append.mp hw with hw | hw
      · obtain ⟨c, -, rfl⟩ := List.mem_map.mp hw
        cases hp
        exact Nat.lt_succ_self _
      · exact Nat.lt_succ_of_lt (hpending w hw p hp)
    rcases Nat.lt_trichotomy k entries.size with hk | hk | hk
    · -- an older entry
      rw [if_pos (Nat.lt_succ_of_lt hk), if_pos hk, Array.getElem?_push_lt hk,
        Pending.adopted_ofChildren_of_ne (Nat.ne_of_lt hk), Pending.adopted, hsize]
      simp [Entry.adopt, Nat.add_assoc, hk, id]
    · -- the entry of the node itself
      have hnone : Pending.adopted id (id + 1 + Nested.sizes children) pending = [] :=
        Pending.adopted_eq_nil (fun w hw hp => Nat.lt_irrefl _ (hpending w hw id hp)) _
      subst hk
      rw [if_pos (Nat.lt_succ_self _), if_neg (Nat.lt_irrefl _), Array.getElem?_push_size,
        Pending.adopted_ofChildren_self, hnone,
        if_neg fun hp => Nat.lt_irrefl _ (hparent id hp), Nat.sub_self]
      simp [Entry.adopt]
    · -- an entry that comes later
      rw [if_neg (by omega), if_neg (by omega),
        show k - entries.size = (k - (entries.size + 1)) + 1 by omega]
      rfl

attribute [ext] Tree

/-- The entries of the tree of a dump are the block of its root. -/
theorem Tree.toList_entries_ofDump (dump : Dump) :
    (Tree.ofDump dump).entries.toList = dump.root.entries 0 none := by
  apply List.ext_getElem?
  intro k
  rw [Array.getElem?_toList]
  change (grow #[] [(dump.root, none)])[k]? = _
  rw [getElem?_grow _ _ (by simp) k]
  simp [Pending.blocks]

/-- The tree of a dump, laid out by recursion on the nested tree. -/
def Tree.layOut (dump : Dump) : Tree where
  path := dump.path
  entries := (dump.root.entries 0 none).toArray
  nonempty := by
    cases dump.root
    simp [Nested.entries]

/-- Numbering comes to the same tree as the recursion. -/
theorem Tree.ofDump_eq_layOut (dump : Dump) : ofDump dump = layOut dump :=
  Tree.ext rfl (Array.toList_inj.mp (toList_entries_ofDump dump))

end NullLint.Syntax
