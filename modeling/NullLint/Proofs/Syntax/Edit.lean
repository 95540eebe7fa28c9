import NullLint.Proofs.Syntax.Preorder

set_option autoImplicit false
set_option relaxedAutoImplicit false

/-!
# Editing nested trees

A place in a nested tree is given by a path, the numbers of the children that lead to it. What
stands there can be replaced, and a new child can be put anywhere. In pre-order a new child is one
block: what comes behind it stays as it is, and of what comes before it only the trees around the
new child are changed.

## Main definitions

* `Syntax.Nested.at?` — what stands at the end of a path.
* `Syntax.Nested.modifyAt`, `Syntax.Nested.insertAt` — a nested tree with a change at the end of a
  path, and with a new child there.
* `Syntax.Nested.Inserts` — a new child stands somewhere in a nested tree.

## Main results

* `Syntax.Nested.inserts_insertAt` — putting a new child at a place.
* `Syntax.Nested.Inserts.occurrences_split` — the new child in pre-order.
-/

namespace NullLint.Syntax.Nested

/-! ## Places -/

/-- The nested tree to which a path leads. -/
def at? (s : Nested) : List Nat → Option Nested
  | [] => some s
  | i :: path => s.children[i]?.bind fun c => c.at? path

/-- The nested tree with a change of what stands at the end of a path. -/
def modifyAt (f : Nested → Nested) : List Nat → Nested → Nested
  | [], s => f s
  | i :: path, s => .node s.declaration (s.children.modify i (modifyAt f path))

/-- The nested tree with a new child of what stands at the end of a path; as many children come
before it as its number says. -/
def insertAt (s : Nested) (path : List Nat) (i : Nat) (new : Nested) : Nested :=
  modifyAt (fun p => .node p.declaration (p.children.insertIdx i new)) path s

/-- A nested tree becomes another one by a new child of a node of the given kind. -/
inductive Inserts (new : Nested) (k : Kind) : Nested → Nested → Prop
  | child {d : Declaration} {before after : List Nested} (hk : d.kind = k) :
    Inserts new k (.node d (before ++ after)) (.node d (before ++ new :: after))
  | inside {d : Declaration} {before after : List Nested} {c c' : Nested} (h : Inserts new k c c') :
    Inserts new k (.node d (before ++ c :: after)) (.node d (before ++ c' :: after))

variable {new p s s' : Nested} {k : Kind}

/-- Putting a new child at a place is an insertion below what stands there.

**Proof sketch.** Induction on the path. At its end the children are split where the new one is put;
before that they are split at the child to which the path leads. -/
theorem inserts_insertAt {path : List Nat} {i : Nat} (hp : s.at? path = some p)
    (hi : i ≤ p.children.length) : Inserts new p.declaration.kind s (s.insertAt path i new) := by
  induction path generalizing s with
  | nil =>
    obtain rfl : s = p := Option.some.inj hp
    obtain ⟨d, cs⟩ := s
    obtain ⟨before, after, hcs, -, hnew⟩ := List.exists_of_modifyTailIdx (List.cons new) hi
    change Inserts new _ _ (.node d (cs.modifyTailIdx i (List.cons new)))
    change cs = _ at hcs
    change cs.modifyTailIdx i _ = _ at hnew
    rw [hnew, hcs]
    exact .child rfl
  | cons j path ih =>
    obtain ⟨d, cs⟩ := s
    obtain ⟨c, hc, hpath⟩ := Option.bind_eq_some_iff.mp hp
    change cs[j]? = some c at hc
    have hj : j < cs.length := (List.getElem?_eq_some_iff.mp hc).1
    obtain ⟨before, c', after, hcs, hlength, hmodify⟩ :=
      List.exists_of_modify (fun c => c.insertAt path i new) hj
    obtain rfl : c' = c := by
      rw [hcs, ← hlength, List.getElem?_append_right le_rfl, Nat.sub_self] at hc
      exact Option.some.inj hc
    change Inserts new _ _ (.node d (cs.modify j fun c => c.insertAt path i new))
    rw [hmodify, hcs]
    exact .inside (ih hpath)

namespace Inserts

/-- What the root says does not change. -/
theorem declaration_eq (h : Inserts new k s s') : s'.declaration = s.declaration := by
  cases h <;> rfl

/-- The new child in pre-order is one block. What comes behind it is the same as before, and what
comes before it corresponds to what was there, if a nested tree corresponds to itself and to the one
that it becomes.

**Proof sketch.** Induction on the insertion. The root comes before the new child and is changed,
the children before it are not, and those behind it come behind it. -/
theorem occurrences_split {R : Bool × Nested → Bool × Nested → Prop} (hrefl : ∀ x, R x x)
    (hinserts : ∀ member s s', Inserts new k s s' → R (member, s) (member, s'))
    (h : Inserts new k s s') (member : Bool) :
    ∃ before before' after, s.occurrences member = before ++ after ∧
      s'.occurrences member = before' ++ new.occurrences k.isTypeBody ++ after ∧
      List.Forall₂ R before before' := by
  have hsame : ∀ xs, List.Forall₂ R xs xs := fun xs => List.forall₂_same.mpr fun x _ => hrefl x
  induction h generalizing member with
  | @child d before after hk =>
    have hroot := hinserts member _ _ (.child hk : Inserts new k (.node d (before ++ after)) _)
    refine ⟨(member, .node d (before ++ after)) :: occurrencesBelow d.kind.isTypeBody before,
      (member, .node d (before ++ new :: after)) :: occurrencesBelow d.kind.isTypeBody before,
      occurrencesBelow d.kind.isTypeBody after, ?_, ?_, .cons hroot (hsame _)⟩
    · rw [occurrences, occurrencesBelow_append, List.cons_append]
    · rw [occurrences, occurrencesBelow_append, occurrencesBelow, hk]
      simp only [List.cons_append, List.append_assoc]
  | @inside d before after c c' h ih =>
    have hroot := hinserts member _ _
      (.inside h : Inserts new k (.node d (before ++ c :: after)) _)
    obtain ⟨xs, xs', ys, hc, hc', hxs⟩ := ih d.kind.isTypeBody
    refine ⟨(member, .node d (before ++ c :: after)) ::
        (occurrencesBelow d.kind.isTypeBody before ++ xs),
      (member, .node d (before ++ c' :: after)) ::
        (occurrencesBelow d.kind.isTypeBody before ++ xs'),
      ys ++ occurrencesBelow d.kind.isTypeBody after, ?_, ?_,
      .cons hroot (List.rel_append (hsame _) hxs)⟩
    · rw [occurrences, occurrencesBelow_append, occurrencesBelow, hc]
      simp only [List.cons_append, List.append_assoc]
    · rw [occurrences, occurrencesBelow_append, occurrencesBelow, hc']
      simp only [List.cons_append, List.append_assoc]

end Inserts

end NullLint.Syntax.Nested

namespace NullLint.Syntax.Dump

/-- A dump with a new child of the node to which a path leads. -/
def insertAt (dump : Dump) (path : List Nat) (i : Nat) (new : Nested) : Dump where
  path := dump.path
  root := dump.root.insertAt path i new

end NullLint.Syntax.Dump
