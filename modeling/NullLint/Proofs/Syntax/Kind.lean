import NullLint.Syntax.Kind

set_option autoImplicit false
set_option relaxedAutoImplicit false

/-!
# Names and sets of kinds

No two kinds have the same name, so a name in a dump or in a property stands for at most one kind. A
set of kinds is determined by its members.

## Main results

* `Syntax.Kind.named?_eq_some_iff`, `Syntax.Kind.named?_eq_none_iff` — the kind of a name.
* `Syntax.KindSet.mem_ofList_iff`, `Syntax.KindSet.eq_of_mem_iff` — the members of a set.
-/

namespace NullLint.Syntax

theorem Kind.named?_eq_some_iff {name : String} {k : Kind} :
    Kind.named? name = some k ↔ k ∈ Kind.named ∧ k.name = name := by
  constructor
  · intro h
    exact ⟨List.mem_of_find?_eq_some h, by simpa using List.find?_some h⟩
  · rintro ⟨hk, rfl⟩
    revert k
    decide

theorem Kind.named?_eq_none_iff {name : String} :
    Kind.named? name = none ↔ ∀ k ∈ Kind.named, k.name ≠ name := by
  rw [named?, List.find?_eq_none]
  simp

namespace KindSet

variable {k : Kind} {ks : List Kind} {s s' : KindSet}

theorem mem_iff : k ∈ s ↔ s.holds k = true := Iff.rfl

@[simp]
theorem mem_ofList_iff : k ∈ ofList ks ↔ k ∈ ks := by
  rw [mem_iff, ofList]
  exact List.contains_iff_mem

/-- A set of kinds is determined by its members. -/
theorem eq_of_mem_iff (h : ∀ k, k ∈ s ↔ k ∈ s') : s = s' := by
  obtain ⟨holds⟩ := s
  obtain ⟨holds'⟩ := s'
  congr 1
  funext k
  exact Bool.eq_iff_iff.mpr (h k)

end KindSet

end NullLint.Syntax
