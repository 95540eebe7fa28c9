import NullLint.Syntax.Dump

set_option autoImplicit false
set_option relaxedAutoImplicit false

/-!
# The order of positions

Positions are ordered by line and then by column, and this order is linear. So the first position of
a declaration is the one position among those of the declaration and of its parts that comes before
all others.

## Main definitions

* `Syntax.Declaration.HasTokenAt` — the positions of a declaration and of its parts.
* `Syntax.Declaration.StartsAt` — the first one of them.

## Main results

* `Syntax.Declaration.startsAt_iff` — a declaration starts at its first position.
-/

namespace NullLint.Syntax

namespace Position

variable {p q r : Position}

/-- Positions are ordered by line, those of one line by column. -/
theorem le_iff : p ≤ q ↔ p.line < q.line ∨ p.line = q.line ∧ p.column ≤ q.column := by
  change p.le q = true ↔ _
  simp [le]

/-- The order of positions in terms of numbers. -/
theorem le_iff_toNat : p ≤ q ↔ p.line.toNat < q.line.toNat ∨
    p.line.toNat = q.line.toNat ∧ p.column.toNat ≤ q.column.toNat := by
  rw [le_iff, UInt32.lt_iff_toNat_lt, UInt32.le_iff_toNat_le, ← UInt32.toNat_inj]

theorem le_refl (p : Position) : p ≤ p := by
  rw [le_iff_toNat]
  omega

theorem le_total (p q : Position) : p ≤ q ∨ q ≤ p := by
  rw [le_iff_toNat, le_iff_toNat]
  omega

theorem le_trans (hpq : p ≤ q) (hqr : q ≤ r) : p ≤ r := by
  rw [le_iff_toNat] at *
  omega

theorem le_antisymm (hpq : p ≤ q) (hqp : q ≤ p) : p = q := by
  rw [le_iff_toNat] at *
  obtain ⟨hl, hc⟩ : p.line.toNat = q.line.toNat ∧ p.column.toNat = q.column.toNat := by omega
  obtain ⟨l, c⟩ := p
  obtain ⟨l', c'⟩ := q
  have hline : l = l' := UInt32.toNat_inj.mp hl
  have hcolumn : c = c' := UInt32.toNat_inj.mp hc
  rw [hline, hcolumn]

theorem min_le_left (p q : Position) : min p q ≤ p := by
  change (if p ≤ q then p else q) ≤ p
  split
  · exact le_refl p
  · exact (le_total p q).resolve_left ‹_›

theorem min_le_right (p q : Position) : min p q ≤ q := by
  change (if p ≤ q then p else q) ≤ q
  split
  · assumption
  · exact le_refl q

theorem min_eq_or (p q : Position) : min p q = p ∨ min p q = q := by
  change (if p ≤ q then p else q) = p ∨ (if p ≤ q then p else q) = q
  split
  · exact Or.inl rfl
  · exact Or.inr rfl

/-- The minimum of some positions is one of them. -/
theorem foldl_min_mem (p : Position) (ps : List Position) : ps.foldl min p ∈ p :: ps := by
  induction ps generalizing p with
  | nil => exact List.mem_cons_self
  | cons q ps ih =>
    rcases List.mem_cons.mp (ih (min p q)) with h | h
    · rw [List.foldl_cons, h]
      rcases min_eq_or p q with hm | hm
      · rw [hm]
        exact List.mem_cons_self
      · rw [hm]
        exact List.mem_cons_of_mem p List.mem_cons_self
    · exact List.mem_cons_of_mem p (List.mem_cons_of_mem q h)

/-- The minimum of some positions comes before all of them. -/
theorem foldl_min_le (p : Position) (ps : List Position) : ∀ q ∈ p :: ps, ps.foldl min p ≤ q := by
  induction ps generalizing p with
  | nil =>
    intro q hq
    rw [List.mem_singleton.mp hq]
    exact le_refl p
  | cons q ps ih =>
    have hmin := ih (min p q) (min p q) List.mem_cons_self
    intro r hr
    rcases List.mem_cons.mp hr with rfl | hr
    · exact le_trans hmin (min_le_left _ q)
    · rcases List.mem_cons.mp hr with rfl | hr
      · exact le_trans hmin (min_le_right p _)
      · exact ih _ r (List.mem_cons_of_mem _ hr)

end Position

namespace Declaration

variable {d : Declaration} {p : Position}

/-- The positions of a declaration, of its annotations, of its type and of its identifier. -/
inductive HasTokenAt (d : Declaration) : Position → Prop
  | own : HasTokenAt d d.position
  | annotation (a : Annotation) (h : a ∈ d.annotations) : HasTokenAt d a.position
  | type (ty : DeclaredType) (h : d.type = some ty) : HasTokenAt d ty.position
  | identifier (i : Identifier) (h : d.identifier = some i) : HasTokenAt d i.position

/-- A declaration starts at the position of one of its tokens, and all others come behind it: on a
later line, or on the same line and not before it. -/
def StartsAt (d : Declaration) (p : Position) : Prop :=
  d.HasTokenAt p ∧ ∀ q, d.HasTokenAt q →
    p.line < q.line ∨ p.line = q.line ∧ p.column ≤ q.column

theorem hasTokenAt_iff : d.HasTokenAt p ↔ p ∈ d.position :: d.partPositions := by
  constructor
  · intro h
    cases h with
    | own => exact List.mem_cons_self
    | annotation a h => simp [partPositions, List.mem_map_of_mem h]
    | type ty h => simp [partPositions, h]
    | identifier i h => simp [partPositions, h]
  · intro h
    simp only [partPositions, List.mem_cons, List.mem_append, List.mem_map, Option.mem_toList,
      Option.map_eq_some_iff] at h
    rcases h with rfl | (⟨a, ha, rfl⟩ | ⟨ty, hty, rfl⟩) | ⟨i, hi, rfl⟩
    · exact HasTokenAt.own
    · exact HasTokenAt.annotation a ha
    · exact HasTokenAt.type ty hty
    · exact HasTokenAt.identifier i hi

/-- A declaration starts at its first position and nowhere else.

**Proof sketch.** The first position is the minimum over the positions of all tokens, which is one
of them and comes before all of them. Two positions that both come before all others are equal. -/
theorem startsAt_iff : d.StartsAt p ↔ p = d.firstPosition := by
  have hfirst : d.StartsAt d.firstPosition := by
    refine ⟨hasTokenAt_iff.mpr (Position.foldl_min_mem _ _), fun q hq => Position.le_iff.mp ?_⟩
    exact Position.foldl_min_le _ _ q (hasTokenAt_iff.mp hq)
  constructor
  · rintro ⟨hp, hle⟩
    exact Position.le_antisymm (Position.le_iff.mpr (hle _ hfirst.1))
      (Position.le_iff.mpr (hfirst.2 p hp))
  · rintro rfl
    exact hfirst

end Declaration

end NullLint.Syntax
