import Mathlib.Data.List.Forall2
import Mathlib.Data.List.Nodup
import Mathlib.Data.List.Perm.Basic
import NullLint.Telemetry.Recorder

set_option autoImplicit false
set_option relaxedAutoImplicit false

/-!
# Forests of spans

Spans are recorded one by one, each with the number of its parent, and in the order in which they
end. Which trees they make up is read off these numbers afterwards. A plan says of some trees which
of their spans have been opened, under which numbers, and what is still to be opened; so it ties the
recorded spans to the trees they are meant to make up.

## Main definitions

* `Telemetry.SpanTree.Alike`, `Telemetry.SpanTree.AlikeForests` — trees and forests that are the
  same but for the order of siblings.
* `Telemetry.Plan` — trees of which some spans have been opened.
* `Telemetry.Plan.trees`, `Telemetry.Plan.spans`, `Telemetry.Plan.todos` — the trees of a plan, the
  spans that have been opened, and what is still to be opened.

## Main results

* `Telemetry.Plan.exists_open` — opening a span that is still to be opened.
* `Telemetry.Plan.alikeForests_treesBelow` — **the trees are read back** from the spans of a plan of
  which nothing is left to be opened.
-/

namespace NullLint.Telemetry

/-! ## Trees up to the order of siblings -/

namespace SpanTree

/-- Two trees are the same but for the order of siblings, at any level. -/
inductive Alike : SpanTree → SpanTree → Prop
  | node {name : String} {attributes : Attributes} {ts us vs : List SpanTree} (hp : ts.Perm us)
      (h : List.Forall₂ Alike us vs) :
    Alike (.node name attributes ts) (.node name attributes vs)

/-- Two forests are the same but for the order of siblings, at any level. -/
def AlikeForests (ts vs : List SpanTree) : Prop :=
  ∃ us, ts.Perm us ∧ List.Forall₂ Alike us vs

theorem AlikeForests.node {name : String} {attributes : Attributes} {ts vs : List SpanTree}
    (h : AlikeForests ts vs) : Alike (.node name attributes ts) (.node name attributes vs) := by
  obtain ⟨us, hp, hus⟩ := h
  exact Alike.node hp hus

/-- Trees that are the same but for the order of siblings have the same outermost span. -/
theorem Alike.exists_node {name : String} {attributes : Attributes} {ts : List SpanTree}
    {t : SpanTree} (h : Alike (.node name attributes ts) t) :
    ∃ vs, t = .node name attributes vs := by
  cases h with
  | node hp h => exact ⟨_, rfl⟩

mutual

/-- The number of spans of a tree. -/
def size : SpanTree → Nat
  | .node _ _ ts => sizes ts + 1

/-- The number of spans of some trees. -/
def sizes : List SpanTree → Nat
  | [] => 0
  | t :: ts => t.size + sizes ts

end

end SpanTree

open SpanTree

/-! ## Plans -/

/-- Some trees with the same parent, from left to right. A tree is still to be opened, or its
outermost span has been opened under a number and there is a plan for the trees below it. -/
inductive Plan where
  | nil
  | todo (tree : SpanTree) (rest : Plan)
  | opened (id : Nat) (name : String) (attributes : Attributes) (below rest : Plan)

namespace Plan

/-- The plan for some trees of which nothing has been opened. -/
def ofTrees : List SpanTree → Plan
  | [] => nil
  | t :: ts => todo t (ofTrees ts)

/-- The trees that a plan is for. -/
def trees : Plan → List SpanTree
  | nil => []
  | todo tree rest => tree :: rest.trees
  | opened _ name attributes below rest => .node name attributes below.trees :: rest.trees

/-- The numbers of the spans that have been opened. -/
def ids : Plan → List Nat
  | nil => []
  | todo _ rest => rest.ids
  | opened id _ _ below rest => id :: (below.ids ++ rest.ids)

/-- The outermost spans that have been opened. -/
def roots (parent : Option Nat) : Plan → List Span
  | nil => []
  | todo _ rest => rest.roots parent
  | opened id name attributes _ rest => ⟨id, parent, name, attributes⟩ :: rest.roots parent

/-- All spans that have been opened. -/
def spans (parent : Option Nat) : Plan → List Span
  | nil => []
  | todo _ rest => rest.spans parent
  | opened id name attributes below rest =>
    ⟨id, parent, name, attributes⟩ :: (below.spans (some id) ++ rest.spans parent)

/-- The trees that are still to be opened, each with the number of its parent. -/
def todos (parent : Option Nat) : Plan → List (Option Nat × SpanTree)
  | nil => []
  | todo tree rest => (parent, tree) :: rest.todos parent
  | opened id _ _ below rest => below.todos (some id) ++ rest.todos parent

/-- The number of levels of the spans that have been opened. -/
def height : Plan → Nat
  | nil => 0
  | todo _ rest => rest.height
  | opened _ _ _ below rest => max (below.height + 1) rest.height

@[simp]
theorem trees_ofTrees (ts : List SpanTree) : (ofTrees ts).trees = ts := by
  induction ts with
  | nil => rfl
  | cons t ts ih => rw [ofTrees, trees, ih]

@[simp]
theorem spans_ofTrees (parent : Option Nat) (ts : List SpanTree) :
    (ofTrees ts).spans parent = [] := by
  induction ts with
  | nil => rfl
  | cons t ts ih => rw [ofTrees, spans, ih]

@[simp]
theorem todos_ofTrees (parent : Option Nat) (ts : List SpanTree) :
    (ofTrees ts).todos parent = ts.map fun t => (parent, t) := by
  induction ts with
  | nil => rfl
  | cons t ts ih => rw [ofTrees, todos, ih, List.map_cons]

theorem map_id_spans (plan : Plan) (parent : Option Nat) :
    (plan.spans parent).map (·.id) = plan.ids := by
  induction plan generalizing parent with
  | nil => rfl
  | todo tree rest ih => rw [spans, ids, ih]
  | opened id name attributes below rest ihb ihr =>
    rw [spans, ids, List.map_cons, List.map_append, ihb, ihr]

/-- A span that has been opened has the parent of the plan, or one that has been opened. -/
theorem parent_mem {plan : Plan} {parent : Option Nat} {s : Span} (h : s ∈ plan.spans parent) :
    s.parent = parent ∨ ∃ i ∈ plan.ids, s.parent = some i := by
  induction plan generalizing parent with
  | nil => cases h
  | todo tree rest ih => exact ih h
  | opened id name attributes below rest ihb ihr =>
    rw [spans, List.mem_cons, List.mem_append] at h
    rcases h with rfl | h | h
    · exact Or.inl rfl
    · rcases ihb h with h | ⟨i, hi, h⟩
      · exact Or.inr ⟨id, by simp [ids], h⟩
      · exact Or.inr ⟨i, by simp [ids, hi], h⟩
    · rcases ihr h with h | ⟨i, hi, h⟩
      · exact Or.inl h
      · exact Or.inr ⟨i, by simp [ids, hi], h⟩

/-- What is opened is no longer to be opened, but the trees below it are.

**Proof sketch.** Induction on the plan, by where the tree is in it. -/
theorem exists_open {plan : Plan} {parent p : Option Nat} {name : String} {attributes : Attributes}
    {ts : List SpanTree} (id : Nat) (h : (p, .node name attributes ts) ∈ plan.todos parent) :
    ∃ (plan' : Plan) (rest : List (Option Nat × SpanTree)), plan'.trees = plan.trees ∧
      (plan'.spans parent).Perm (⟨id, p, name, attributes⟩ :: plan.spans parent) ∧
      (plan.todos parent).Perm ((p, .node name attributes ts) :: rest) ∧
      (plan'.todos parent).Perm ((ts.map fun t => (some id, t)) ++ rest) := by
  induction plan generalizing parent with
  | nil => cases h
  | todo tree rest ih =>
    rw [todos, List.mem_cons] at h
    rcases h with h | h
    · cases h
      exact ⟨opened id name attributes (ofTrees ts) rest, rest.todos p, by simp [trees],
        by simp [spans], by simp [todos], by simp [todos]⟩
    · obtain ⟨plan', others, htrees, hspans, htodos, htodos'⟩ := ih h
      refine ⟨todo tree plan', (parent, tree) :: others, by rw [trees, trees, htrees], hspans, ?_,
        ?_⟩
      · exact (htodos.cons _).trans (List.Perm.swap _ _ _)
      · exact (htodos'.cons _).trans List.perm_middle.symm
  | opened i n a below rest ihb ihr =>
    rw [todos, List.mem_append] at h
    rcases h with h | h
    · obtain ⟨plan', others, htrees, hspans, htodos, htodos'⟩ := ihb h
      refine ⟨opened i n a plan' rest, others ++ rest.todos parent, by rw [trees, trees, htrees],
        ?_, htodos.append_right _, ?_⟩
      · rw [spans, spans]
        exact ((hspans.append_right _).cons _).trans (List.Perm.swap _ _ _)
      · rw [todos, ← List.append_assoc]
        exact htodos'.append_right _
    · obtain ⟨plan', others, htrees, hspans, htodos, htodos'⟩ := ihr h
      refine ⟨opened i n a below plan', below.todos (some i) ++ others,
        by rw [trees, trees, htrees], ?_, ?_, ?_⟩
      · rw [spans, spans]
        exact ((hspans.append_left _).trans List.perm_middle).cons _ |>.trans
          (List.Perm.swap _ _ _)
      · rw [todos]
        exact (htodos.append_left _).trans List.perm_middle
      · rw [todos]
        refine (htodos'.append_left _).trans ?_
        rw [← List.append_assoc, ← List.append_assoc]
        exact List.perm_append_comm.append_right _

/-! ## Reading the trees back -/

/-- The spans below a span are those that a plan says, at all levels, and nothing is left to be
opened. -/
def Hangs (recorded : List Span) : Plan → Prop
  | nil => True
  | todo _ _ => False
  | opened id _ _ below rest =>
    (recorded.filter fun s => s.parent == some id).Perm (below.roots (some id)) ∧
      below.Hangs recorded ∧ rest.Hangs recorded

/-- No span of a plan has a parent that is neither the one of the plan nor in it. -/
theorem filter_spans_eq_nil {plan : Plan} {parent p : Option Nat} (hparent : parent ≠ p)
    (hids : ∀ i ∈ plan.ids, some i ≠ p) :
    (plan.spans parent).filter (fun s => s.parent == p) = [] := by
  refine List.filter_eq_nil_iff.mpr fun s hs heq => ?_
  have heq : s.parent = p := eq_of_beq heq
  rcases parent_mem hs with hs | ⟨i, hi, hs⟩
  · exact hparent (hs.symm.trans heq)
  · exact hids i hi (hs.symm.trans heq)

/-- Of the spans of a plan those with its parent are the outermost ones. -/
theorem filter_spans_eq_roots {plan : Plan} {parent : Option Nat}
    (h : ∀ i ∈ plan.ids, parent ≠ some i) :
    (plan.spans parent).filter (fun s => s.parent == parent) = plan.roots parent := by
  induction plan with
  | nil => rfl
  | todo tree rest ih => exact ih h
  | opened id name attributes below rest _ ih =>
    have hbelow : (below.spans (some id)).filter (fun s => s.parent == parent) = [] :=
      filter_spans_eq_nil (h id (by simp [ids])).symm fun i hi => (h i (by simp [ids, hi])).symm
    rw [spans, roots, List.filter_cons_of_pos (by simp), List.filter_append, hbelow,
      List.nil_append, ih fun i hi => h i (by simp [ids, hi])]

/-- If the recorded spans below each span of a plan are those of the plan, they hang together as the
plan says.

**Proof sketch.** Induction on the plan. The spans below a span are among the spans of the plan
below it, since the numbers of all spans are different. -/
theorem hangs_of_filter {recorded : List Span} {plan : Plan} {parent : Option Nat}
    (htodos : plan.todos parent = []) (hn : plan.ids.Nodup) (hp : ∀ i ∈ plan.ids, parent ≠ some i)
    (h : ∀ i ∈ plan.ids, (recorded.filter fun s => s.parent == some i).Perm
      ((plan.spans parent).filter fun s => s.parent == some i)) :
    plan.Hangs recorded := by
  induction plan generalizing parent with
  | nil => trivial
  | todo tree rest ih => cases htodos
  | opened id name attributes below rest ihb ihr =>
    rw [todos, List.append_eq_nil_iff] at htodos
    rw [ids, List.nodup_cons, List.mem_append, not_or, List.nodup_append] at hn
    obtain ⟨⟨hidb, hidr⟩, hnb, hnr, hdisjoint⟩ := hn
    have hall : ∀ i ∈ id :: (below.ids ++ rest.ids),
        (recorded.filter fun s => s.parent == some i).Perm
        ((below.spans (some id)).filter (fun s => s.parent == some i) ++
          (rest.spans parent).filter fun s => s.parent == some i) := by
      intro i hi
      have hi' := h i hi
      rwa [spans, List.filter_cons_of_neg (by simpa using hp i hi), List.filter_append] at hi'
    -- No span of the rest is below a span of this tree, and the other way round.
    have hown : ∀ i ∈ id :: below.ids, (recorded.filter fun s => s.parent == some i).Perm
        ((below.spans (some id)).filter fun s => s.parent == some i) := by
      intro i hi
      have hmem : i ∈ id :: (below.ids ++ rest.ids) := List.mem_append_left _ hi
      have hrest : (rest.spans parent).filter (fun s => s.parent == some i) = [] := by
        refine filter_spans_eq_nil (hp i hmem) fun j hj heq => ?_
        cases heq
        rcases List.mem_cons.mp hi with rfl | hi
        · exact hidr hj
        · exact hdisjoint i hi i hj rfl
      have hi' := hall i hmem
      rwa [hrest, List.append_nil] at hi'
    have hothers : ∀ i ∈ rest.ids, (recorded.filter fun s => s.parent == some i).Perm
        ((rest.spans parent).filter fun s => s.parent == some i) := by
      intro i hi
      have hbelow : (below.spans (some id)).filter (fun s => s.parent == some i) = [] := by
        refine filter_spans_eq_nil (fun heq => ?_) fun j hj heq => ?_
        · cases heq
          exact hidr hi
        · cases heq
          exact hdisjoint i hj i hi rfl
      have hi' := hall i (List.mem_cons_of_mem _ (List.mem_append_right _ hi))
      rwa [hbelow, List.nil_append] at hi'
    have hid : ∀ i ∈ below.ids, some id ≠ some i := by
      rintro i hi heq
      cases heq
      exact hidb hi
    refine ⟨?_, ihb htodos.1 hnb hid fun i hi => hown i (List.mem_cons_of_mem _ hi),
      ihr htodos.2 hnr (fun i hi => hp i (by simp [ids, hi])) hothers⟩
    rw [← filter_spans_eq_roots hid]
    exact hown id List.mem_cons_self

/-- A span with all that is recorded below it. -/
def treeOf (recorded : List Span) (fuel : Nat) (s : Span) : SpanTree :=
  .node s.name s.attributes (treesBelow recorded fuel (some s.id))

/-- Spans that hang together as a plan says make up its trees.

**Proof sketch.** Induction on the plan. The spans below the first one are the outermost ones of the
plan below it, in some order, and those make up its trees. -/
theorem forall₂_alike {recorded : List Span} {plan : Plan} {parent : Option Nat} {fuel : Nat}
    (h : plan.Hangs recorded) (hfuel : plan.height ≤ fuel + 1) :
    List.Forall₂ Alike ((plan.roots parent).map (treeOf recorded fuel)) plan.trees := by
  induction plan generalizing parent fuel with
  | nil => exact List.Forall₂.nil
  | todo tree rest ih => exact absurd h id
  | opened id name attributes below rest ihb ihr =>
    obtain ⟨hbelow, hb, hr⟩ := h
    rw [height, Nat.max_le] at hfuel
    refine List.Forall₂.cons ?_ (ihr hr hfuel.2)
    refine AlikeForests.node ?_
    cases fuel with
    | zero =>
      cases below with
      | nil => exact ⟨[], List.Perm.refl _, List.Forall₂.nil⟩
      | todo tree rest => exact False.elim hb
      | opened => simp [height] at hfuel
    | succ fuel =>
      exact ⟨_, hbelow.map _, ihb hb (by omega)⟩

theorem height_le_length_spans (plan : Plan) (parent : Option Nat) :
    plan.height ≤ (plan.spans parent).length := by
  induction plan generalizing parent with
  | nil => exact Nat.zero_le _
  | todo tree rest ih => exact ih parent
  | opened id name attributes below rest ihb ihr =>
    have hb := ihb (some id)
    have hr := ihr parent
    rw [height, spans, List.length_cons, List.length_append]
    omega

theorem length_spans {plan : Plan} {parent : Option Nat} (h : plan.todos parent = []) :
    (plan.spans parent).length = sizes plan.trees := by
  induction plan generalizing parent with
  | nil => rfl
  | todo tree rest ih => cases h
  | opened id name attributes below rest ihb ihr =>
    rw [todos, List.append_eq_nil_iff] at h
    rw [spans, trees, sizes, size, List.length_cons, List.length_append, ihb h.1, ihr h.2]
    omega

/-- **The trees are read back.** The recorded spans of a plan of which nothing is left to be opened
make up its trees, whatever the order in which they were recorded. -/
theorem alikeForests_treesBelow {recorded : List Span} {plan : Plan}
    (h : recorded.Perm (plan.spans none)) (hn : plan.ids.Nodup) (htodos : plan.todos none = []) :
    AlikeForests (treesBelow recorded recorded.length none) plan.trees := by
  have hangs : plan.Hangs recorded :=
    hangs_of_filter htodos hn (fun i _ heq => by cases heq) fun i _ => h.filter _
  have hroots : (recorded.filter fun s => s.parent == none).Perm (plan.roots none) := by
    rw [← filter_spans_eq_roots fun i _ heq => by cases heq]
    exact h.filter _
  have hheight := plan.height_le_length_spans none
  rw [← h.length_eq] at hheight
  cases hlength : recorded.length with
  | zero =>
    have hsizes := length_spans htodos
    rw [← h.length_eq, hlength] at hsizes
    cases htrees : plan.trees with
    | nil => exact ⟨[], List.Perm.refl _, List.Forall₂.nil⟩
    | cons t ts =>
      obtain ⟨name, attributes, below⟩ := t
      rw [htrees, sizes, size] at hsizes
      omega
  | succ fuel => exact ⟨_, hroots.map _, forall₂_alike hangs (by omega)⟩

end Plan

end NullLint.Telemetry
