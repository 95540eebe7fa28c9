set_option autoImplicit false
set_option relaxedAutoImplicit false

/-!
# How far a sequence of attempts gets

Attempts are made one after the other until one fails. What they came to is a value or the first
error, and `List.mapM` gives it. What was attempted at all, the failing attempt included, matters
to those who watch.

## Main definitions

* `through` — the part of a list that ends with the first item that stops it.
-/

namespace NullLint

/-- The items up to and including the first one that stops. -/
def through {α : Type} (stops : α → Bool) : List α → List α
  | [] => []
  | a :: as => if stops a then [a] else a :: through stops as

/-- If the first item stops, it is the only one. -/
theorem through_cons_of_stops {α : Type} {stops : α → Bool} {a : α} {as : List α}
    (h : stops a = true) : through stops (a :: as) = [a] := by
  simp [through, h]

/-- If no item stops, all of them are kept. -/
theorem through_eq_self {α : Type} {stops : α → Bool} {as : List α}
    (h : ∀ a ∈ as, stops a = false) : through stops as = as := by
  induction as with
  | nil => rfl
  | cons a as ih =>
    rw [through, h a (by simp), ih fun b hb => h b (by simp [hb])]
    simp

end NullLint
