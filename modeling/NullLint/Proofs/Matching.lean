import Mathlib.Data.List.Forall2
import Mathlib.Data.List.Nodup
import Mathlib.Data.String.Basic

set_option autoImplicit false
set_option relaxedAutoImplicit false

/-!
# Lists that match

Two lists match when their items are related one by one. Each item has a partner then, and what is
found first in one list is matched by what is found first in the other. Lists in strict order match
already if they have the same members, and are equal; what comes first in such a list is what is
least. Sorting by distinct keys gives such a list.

## Main results

* `exists_of_forall₂_of_mem`, `exists_forall₂_iff` — partners.
* `forall₂_concat_left_iff` — the last items of matching lists.
* `find?_of_forall₂` — what is found first.
* `eq_of_pairwise_of_mem_iff`, `exists_first_iff` — lists in strict order.
* `pairwise_mergeSort_le`, `pairwise_lt_mergeSort` — lists that are sorted.
-/

namespace NullLint

variable {α β : Type} {R : α → β → Prop} {as : List α} {bs : List β}

/-- Whatever stands in a list of partners has a partner. -/
theorem exists_of_forall₂_of_mem (h : List.Forall₂ R as bs) {b : β} (hb : b ∈ bs) :
    ∃ a ∈ as, R a b := by
  induction h with
  | nil => cases hb
  | @cons a _ as _ ha _ ih =>
    rcases List.mem_cons.mp hb with rfl | hb
    · exact ⟨a, List.mem_cons_self, ha⟩
    · obtain ⟨a', ha', hrelated⟩ := ih hb
      exact ⟨a', List.mem_cons_of_mem _ ha', hrelated⟩

/-- A list has a list of partners if each of its items has a partner. -/
theorem exists_forall₂_iff : (∃ bs, List.Forall₂ R as bs) ↔ ∀ a ∈ as, ∃ b, R a b := by
  induction as with
  | nil => simp
  | cons a as ih =>
    rw [List.forall_mem_cons, ← ih]
    constructor
    · rintro ⟨bs, h⟩
      obtain ⟨b, bs', hb, hbs, -⟩ := List.forall₂_cons_left_iff.mp h
      exact ⟨⟨b, hb⟩, bs', hbs⟩
    · rintro ⟨⟨b, hb⟩, bs, hbs⟩
      exact ⟨b :: bs, .cons hb hbs⟩

/-- The partner of the last item is the last partner. -/
theorem forall₂_concat_left_iff {a : α} :
    List.Forall₂ R (as ++ [a]) bs ↔
      ∃ bs' b, List.Forall₂ R as bs' ∧ R a b ∧ bs = bs' ++ [b] := by
  induction as generalizing bs with
  | nil => simp [List.forall₂_cons_left_iff]
  | cons x as ih =>
    rw [List.cons_append, List.forall₂_cons_left_iff]
    constructor
    · rintro ⟨y, ys, hy, hys, rfl⟩
      obtain ⟨bs', b, hbs, hb, rfl⟩ := ih.mp hys
      exact ⟨y :: bs', b, .cons hy hbs, hb, rfl⟩
    · rintro ⟨bs', b, hbs, hb, rfl⟩
      obtain ⟨y, ys, hy, hys, rfl⟩ := List.forall₂_cons_left_iff.mp hbs
      exact ⟨y, ys ++ [b], hy, ih.mpr ⟨ys, b, hys, hb, rfl⟩, rfl⟩

/-- What is found first in two lists whose items correspond. -/
theorem find?_of_forall₂ {p : α → Bool} {q : β → Bool} (h : List.Forall₂ R as bs)
    (hpq : ∀ a b, R a b → p a = q b) :
    (as.find? p = none ∧ bs.find? q = none) ∨
      ∃ a b, R a b ∧ as.find? p = some a ∧ bs.find? q = some b := by
  induction h with
  | nil => exact Or.inl ⟨rfl, rfl⟩
  | @cons a b as bs hab _ ih =>
    rw [List.find?_cons, List.find?_cons, ← hpq a b hab]
    cases p a with
    | true => exact Or.inr ⟨a, b, hab, rfl, rfl⟩
    | false => exact ih

/-- Two lists in the same strict order are equal if they have the same members. -/
theorem eq_of_pairwise_of_mem_iff {S : α → α → Prop} (hasymm : ∀ a b, S a b → ¬S b a)
    {as bs : List α} (has : as.Pairwise S) (hbs : bs.Pairwise S) (h : ∀ a, a ∈ as ↔ a ∈ bs) :
    as = bs := by
  have hne : ∀ a b, S a b → a ≠ b := by
    rintro a b hab rfl
    exact hasymm a a hab hab
  have hperm : as.Perm bs :=
    (List.perm_ext_iff_of_nodup (has.imp (hne _ _)) (hbs.imp (hne _ _))).mpr h
  exact hperm.eq_of_pairwise (fun a b _ _ hab hba => absurd hba (hasymm a b hab)) has hbs

/-- The first item of its sort in a list in strict order is the least one. -/
theorem exists_first_iff {S : α → α → Prop} (hasymm : ∀ a b, S a b → ¬S b a) {as : List α}
    (has : as.Pairwise S) {P Q : α → Prop} :
    (∃ before a after, as = before ++ a :: after ∧ (∀ b ∈ before, P b) ∧ Q a) ↔
      ∃ a ∈ as, (∀ b ∈ as, S b a → P b) ∧ Q a := by
  constructor
  · rintro ⟨before, a, after, rfl, hbefore, ha⟩
    refine ⟨a, by simp, fun b hb hlt => ?_, ha⟩
    obtain ⟨-, hafter, -⟩ := List.pairwise_append.mp has
    rcases List.mem_append.mp hb with hb | hb
    · exact hbefore b hb
    · rcases List.mem_cons.mp hb with rfl | hb
      · exact absurd hlt (hasymm b b hlt)
      · exact absurd hlt (hasymm a b (List.rel_of_pairwise_cons hafter hb))
  · rintro ⟨a, hmem, hbefore, ha⟩
    obtain ⟨before, after, rfl⟩ := List.append_of_mem hmem
    refine ⟨before, a, after, rfl, fun b hb => hbefore b (by simp [hb]) ?_, ha⟩
    exact (List.pairwise_append.mp has).2.2 b hb a List.mem_cons_self

/-! ## Sorting -/

/-- A list in order whose items have distinct keys is in the strict order of the keys. -/
theorem pairwise_lt_of_nodup {α : Type} {f : α → String} {as : List α}
    (hle : as.Pairwise fun a b => f a ≤ f b) (hne : (as.map f).Nodup) :
    as.Pairwise fun a b => f a < f b := by
  rw [List.nodup_iff_pairwise_ne, List.pairwise_map] at hne
  exact hle.imp₂ (fun a b hab hne => lt_of_le_of_ne hab hne) hne

/-- Sorting by a key puts the items in the order of their keys. -/
theorem pairwise_mergeSort_le {α : Type} (f : α → String) (as : List α) :
    (as.mergeSort fun a b => decide (f a ≤ f b)).Pairwise fun a b => f a ≤ f b := by
  have h : (as.mergeSort fun a b => decide (f a ≤ f b)).Pairwise
      fun a b => decide (f a ≤ f b) = true := by
    refine List.pairwise_mergeSort ?_ ?_ as
    · intro a b c hab hbc
      rw [decide_eq_true_eq] at hab hbc ⊢
      exact le_trans hab hbc
    · intro a b
      rw [Bool.or_eq_true, decide_eq_true_eq, decide_eq_true_eq]
      exact le_total (f a) (f b)
  exact h.imp fun hab => of_decide_eq_true hab

/-- Sorting by distinct keys puts the items in the strict order of their keys. -/
theorem pairwise_lt_mergeSort {α : Type} {f : α → String} {as : List α} (h : (as.map f).Nodup) :
    (as.mergeSort fun a b => decide (f a ≤ f b)).Pairwise fun a b => f a < f b :=
  pairwise_lt_of_nodup (pairwise_mergeSort_le f as)
    (((List.mergeSort_perm as _).map f).nodup_iff.mpr h)

end NullLint
