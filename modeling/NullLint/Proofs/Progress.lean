import Mathlib.Data.List.Forall2
import Mathlib.Data.List.Induction
import NullLint.Progress

set_option autoImplicit false
set_option relaxedAutoImplicit false

/-!
# Laws of sequences of attempts

What `List.mapM` comes to in `Except`, said without monads: it gives the values of all attempts, or
the error of the first one that fails. Two sequences whose attempts agree one by one come to the
same, and a sequence of sequences comes to what the long sequence comes to.

## Main results

* `bind_eq_ok_iff`, `bind_eq_error_iff` — when two attempts in a row succeed or fail.
* `mapM_eq_ok_iff`, `mapM_eq_error_iff` — when a sequence of attempts succeeds or fails, and with
  what.
* `mapM_eq_some_iff` — when a sequence of searches finds something each time.
* `mapM_flatMap` — attempts in groups.
* `foldlM_eq_ok_iff`, `foldlM_eq_error_iff` — what a loop of attempts comes to.
* `prefix_through`, `through_of_first_stop`, `mapM_through_eq_mapM` — how far a sequence gets.
-/

namespace NullLint

section

variable {ε α β γ : Type}

/-- A changed outcome is a value if the outcome was. -/
theorem map_eq_ok_iff {f : α → β} {x : Except ε α} {b : β} :
    x.map f = .ok b ↔ ∃ a, x = .ok a ∧ f a = b := by
  cases x <;> simp [Except.map]

/-- A changed outcome is an error if the outcome was. -/
theorem map_eq_error_iff {f : α → β} {x : Except ε α} {e : ε} :
    x.map f = .error e ↔ x = .error e := by
  cases x <;> simp [Except.map]

/-- A changed outcome is a success if the outcome was. -/
theorem isOk_map (f : α → β) (x : Except ε α) : (x.map f).isOk = x.isOk := by
  cases x <;> rfl

/-- The value of an outcome, if it is a success. -/
theorem toOption_eq_some_iff {x : Except ε α} {a : α} : x.toOption = some a ↔ x = .ok a := by
  cases x <;> simp [Except.toOption]

/-- An outcome whose errors are renamed is a value if the outcome was. -/
theorem mapError_eq_ok_iff {f : ε → γ} {x : Except ε α} {a : α} :
    x.mapError f = .ok a ↔ x = .ok a := by
  cases x <;> simp [Except.mapError]

/-- An outcome whose errors are renamed is an error if the outcome was. -/
theorem mapError_eq_error_iff {f : ε → γ} {x : Except ε α} {e : γ} :
    x.mapError f = .error e ↔ ∃ e', x = .error e' ∧ f e' = e := by
  cases x <;> simp [Except.mapError]

/-- Two attempts in a row succeed if both do. -/
theorem bind_eq_ok_iff {x : Except ε α} {f : α → Except ε β} {b : β} :
    x.bind f = .ok b ↔ ∃ a, x = .ok a ∧ f a = .ok b := by
  cases x <;> simp [Except.bind]

/-- Two attempts in a row fail if the first one fails, or if it succeeds and the second one
fails. -/
theorem bind_eq_error_iff {x : Except ε α} {f : α → Except ε β} {e : ε} :
    x.bind f = .error e ↔ x = .error e ∨ ∃ a, x = .ok a ∧ f a = .error e := by
  cases x <;> simp [Except.bind]

/-- A sequence that starts with a success. -/
theorem mapM_cons_of_ok {f : α → Except ε β} {a : α} {b : β} (as : List α) (h : f a = .ok b) :
    (a :: as).mapM f = (as.mapM f).map (b :: ·) := by
  rw [List.mapM_cons, h]
  cases as.mapM f <;> rfl

/-- A sequence that starts with a failure. -/
theorem mapM_cons_of_error {f : α → Except ε β} {a : α} {e : ε} (as : List α)
    (h : f a = .error e) : (a :: as).mapM f = .error e := by
  rw [List.mapM_cons, h]
  rfl

/-- A sequence of one attempt. -/
theorem mapM_singleton_eq_map (f : α → Except ε β) (a : α) :
    [a].mapM f = (f a).map fun b => [b] := by
  rw [List.mapM_cons]
  cases f a <;> rfl

/-- A sequence of attempts succeeds with the values of all of them.

**Proof sketch.** Induction on the sequence. If the first attempt fails neither side can hold;
otherwise its value is the first one on both sides. -/
theorem mapM_eq_ok_iff {f : α → Except ε β} {as : List α} {bs : List β} :
    as.mapM f = .ok bs ↔ List.Forall₂ (fun a b => f a = .ok b) as bs := by
  induction as generalizing bs with
  | nil =>
    rw [List.forall₂_nil_left_iff]
    constructor
    · intro h
      cases h
      rfl
    · rintro rfl
      rfl
  | cons a as ih =>
    rw [List.forall₂_cons_left_iff]
    cases h : f a with
    | error e =>
      rw [mapM_cons_of_error as h]
      simp
    | ok b =>
      rw [mapM_cons_of_ok as h]
      constructor
      · intro hm
        cases hs : as.mapM f with
        | error e =>
          rw [hs] at hm
          cases hm
        | ok cs =>
          rw [hs] at hm
          cases hm
          exact ⟨b, cs, rfl, ih.mp hs, rfl⟩
      · rintro ⟨b', cs, hb, hcs, rfl⟩
        rw [ih.mpr hcs]
        cases hb
        rfl

/-- A sequence of attempts fails with the error of the first attempt that fails.

**Proof sketch.** Induction on the sequence, by what the first attempt comes to: if it fails it is
the first failure; if it succeeds it belongs to the part before the first failure. -/
theorem mapM_eq_error_iff {f : α → Except ε β} {as : List α} {e : ε} :
    as.mapM f = .error e ↔ ∃ before a after, as = before ++ a :: after ∧
      (∀ x ∈ before, (f x).isOk = true) ∧ f a = .error e := by
  induction as with
  | nil =>
    constructor
    · intro h
      cases h
    · rintro ⟨before, a, after, h, -⟩
      cases before <;> cases h
  | cons a as ih =>
    cases h : f a with
    | error e' =>
      rw [mapM_cons_of_error as h]
      constructor
      · intro he
        cases he
        exact ⟨[], a, as, rfl, by simp, h⟩
      · rintro ⟨before, x, after, hs, hb, hx⟩
        cases before with
        | nil =>
          cases hs
          rw [h] at hx
          cases hx
          rfl
        | cons y before =>
          cases hs
          have hy := hb a (by simp)
          rw [h] at hy
          cases hy
    | ok b =>
      have hm : (a :: as).mapM f = .error e ↔ as.mapM f = .error e := by
        rw [mapM_cons_of_ok as h]
        cases as.mapM f <;> simp [Except.map]
      rw [hm, ih]
      constructor
      · rintro ⟨before, x, after, rfl, hb, hx⟩
        refine ⟨a :: before, x, after, rfl, ?_, hx⟩
        intro y hy
        rcases List.mem_cons.mp hy with rfl | hy
        · rw [h]
          rfl
        · exact hb y hy
      · rintro ⟨before, x, after, hs, hb, hx⟩
        cases before with
        | nil =>
          cases hs
          rw [h] at hx
          cases hx
        | cons y before =>
          cases hs
          exact ⟨before, x, after, rfl, fun z hz => hb z (by simp [hz]), hx⟩

/-- A sequence of attempts succeeds if each of them does. -/
theorem exists_mapM_eq_ok_iff {f : α → Except ε β} {as : List α} :
    (∃ bs, as.mapM f = .ok bs) ↔ ∀ a ∈ as, ∃ b, f a = .ok b := by
  induction as with
  | nil => exact ⟨by simp, fun _ => ⟨[], rfl⟩⟩
  | cons a as ih =>
    rw [List.forall_mem_cons, ← ih]
    constructor
    · rintro ⟨bs, h⟩
      obtain ⟨b, cs, hb, hcs, -⟩ := List.forall₂_cons_left_iff.mp (mapM_eq_ok_iff.mp h)
      exact ⟨⟨b, hb⟩, cs, mapM_eq_ok_iff.mpr hcs⟩
    · rintro ⟨⟨b, hb⟩, cs, hcs⟩
      exact ⟨b :: cs, by rw [mapM_cons_of_ok as hb, hcs]; rfl⟩

/-- An outcome is an error if it is not a value. -/
theorem exists_eq_error_iff {x : Except ε α} : (∃ e, x = .error e) ↔ ¬∃ a, x = .ok a := by
  cases x <;> simp

/-- A sequence of attempts fails if one of them does. -/
theorem exists_mapM_eq_error_iff {f : α → Except ε β} {as : List α} :
    (∃ e, as.mapM f = .error e) ↔ ∃ a ∈ as, ∃ e, f a = .error e := by
  simp only [exists_eq_error_iff, exists_mapM_eq_ok_iff, not_forall, exists_prop]

/-- The values of attempts that all succeed. -/
theorem mapM_eq_ok_filterMap {f : α → Except ε β} {as : List α} (h : ∀ a ∈ as, ∃ b, f a = .ok b) :
    as.mapM f = .ok (as.filterMap fun a => (f a).toOption) := by
  induction as with
  | nil => rfl
  | cons a as ih =>
    rw [List.forall_mem_cons] at h
    obtain ⟨⟨b, hb⟩, has⟩ := h
    have hv : (f a).toOption = some b := by rw [hb]; rfl
    rw [mapM_cons_of_ok as hb, ih has, List.filterMap_cons, hv]
    rfl

/-- The values of attempts of which it is known what they come to. -/
theorem mapM_eq_ok_map {f : α → Except ε β} {g : α → β} {as : List α}
    (h : ∀ a ∈ as, f a = .ok (g a)) : as.mapM f = .ok (as.map g) := by
  rw [mapM_eq_ok_iff, List.forall₂_map_right_iff, List.forall₂_same]
  exact h

/-- Two sequences whose attempts agree one by one come to the same. -/
theorem mapM_eq_mapM_of_forall₂ {f : α → Except ε γ} {g : β → Except ε γ} {as : List α}
    {bs : List β} (h : List.Forall₂ (fun a b => f a = g b) as bs) : as.mapM f = bs.mapM g := by
  induction h with
  | nil => rfl
  | cons h _ ih => rw [List.mapM_cons, List.mapM_cons, h, ih]

/-- One sequence after the other. -/
theorem mapM_append_eq_bind {f : α → Except ε β} (as bs : List α) :
    (as ++ bs).mapM f = (as.mapM f).bind fun xs => (bs.mapM f).map (xs ++ ·) := by
  rw [List.mapM_append]
  cases as.mapM f with
  | error e => rfl
  | ok xs => cases bs.mapM f <;> rfl

/-- A sequence of attempts whose values are changed. -/
theorem mapM_map_eq_map_mapM (f : α → Except ε β) (g : β → γ) (as : List α) :
    (as.mapM fun a => (f a).map g) = (as.mapM f).map (List.map g) := by
  induction as with
  | nil => rfl
  | cons a as ih =>
    rw [List.mapM_cons, List.mapM_cons, ih]
    cases f a with
    | error e => rfl
    | ok b => cases as.mapM f <;> rfl

/-- Attempts that are made in groups come to what the long sequence comes to. -/
theorem mapM_flatMap {f : β → Except ε γ} {g : α → List β} (as : List α) :
    (as.flatMap g).mapM f = (as.mapM fun a => (g a).mapM f).map List.flatten := by
  induction as with
  | nil => rfl
  | cons a as ih =>
    rw [List.flatMap_cons, mapM_append_eq_bind, ih]
    cases h : (g a).mapM f with
    | error e =>
      rw [mapM_cons_of_error as h]
      rfl
    | ok bs =>
      rw [mapM_cons_of_ok as h]
      cases as.mapM fun a => (g a).mapM f <;> rfl

/-- A sequence of attempts in `Option` succeeds with the values of all of them. -/
theorem mapM_eq_some_iff {f : α → Option β} {as : List α} {bs : List β} :
    as.mapM f = some bs ↔ List.Forall₂ (fun a b => f a = some b) as bs := by
  induction as generalizing bs with
  | nil => simp [eq_comm]
  | cons a as ih =>
    rw [List.mapM_cons, List.forall₂_cons_left_iff]
    simp only [← ih]
    cases f a with
    | none => simp
    | some b => cases as.mapM f <;> simp [eq_comm]

/-- What a loop comes to. If one step more adds one item to what is known of the state, the loop
ends with a state of which all items are known. -/
theorem foldlM_eq_ok_iff {step : β → α → Except ε β} {start : β} {holds : List α → β → Prop}
    (hstart : ∀ b, holds [] b ↔ b = start)
    (hstep : ∀ as a b', holds (as ++ [a]) b' ↔ ∃ b, holds as b ∧ step b a = .ok b')
    {as : List α} {b : β} : as.foldlM step start = .ok b ↔ holds as b := by
  induction as using List.reverseRecOn generalizing b with
  | nil =>
    rw [hstart]
    constructor
    · rintro ⟨⟩
      rfl
    · rintro rfl
      rfl
  | append_singleton as a ih =>
    rw [List.foldlM_append, hstep]
    simp only [← ih]
    cases as.foldlM step start with
    | error e => simp [bind, Except.bind]
    | ok b₀ =>
      have hlast : (Except.ok b₀ >>= fun b' => [a].foldlM step b') = step b₀ a := by
        change (step b₀ a >>= pure) = step b₀ a
        cases step b₀ a <;> rfl
      rw [hlast]
      constructor
      · exact fun h => ⟨b₀, rfl, h⟩
      · rintro ⟨b₁, ⟨⟩, h⟩
        exact h

/-- A loop of attempts fails at the first item that cannot be taken in after those before it.

**Proof sketch.** Where such an item is, the loop comes to it and ends. Conversely, induction on the
items: the first one cannot be taken in, or the loop goes on from the state after it. -/
theorem foldlM_eq_error_iff {step : β → α → Except ε β} {start : β} {as : List α} {e : ε} :
    as.foldlM step start = .error e ↔ ∃ before a after b, as = before ++ a :: after ∧
      before.foldlM step start = .ok b ∧ step b a = .error e := by
  constructor
  · intro h
    induction as generalizing start with
    | nil => cases h
    | cons a as ih =>
      rw [List.foldlM_cons] at h
      cases ha : step start a with
      | error e' =>
        rw [ha] at h
        cases h
        exact ⟨[], a, as, start, rfl, rfl, ha⟩
      | ok b =>
        rw [ha] at h
        obtain ⟨before, x, after, b', rfl, hb, hx⟩ := ih h
        refine ⟨a :: before, x, after, b', rfl, ?_, hx⟩
        rw [List.foldlM_cons, ha]
        exact hb
  · rintro ⟨before, a, after, b, rfl, hb, ha⟩
    rw [List.foldlM_append, hb]
    change (after.foldlM step =<< step b a) = _
    rw [ha]
    rfl

end

section

variable {α : Type} {stops : α → Bool}

/-- What is attempted at all is the first part of the sequence. -/
theorem prefix_through (stops : α → Bool) (as : List α) : through stops as <+: as := by
  induction as with
  | nil => exact List.prefix_rfl
  | cons a as ih =>
    rw [through]
    split
    · exact ⟨as, rfl⟩
    · exact (List.prefix_cons_inj a).mpr ih

/-- A sequence gets as far as the first item that stops it. -/
theorem through_of_first_stop {before after : List α} {a : α}
    (hb : ∀ x ∈ before, stops x = false) (ha : stops a = true) :
    through stops (before ++ a :: after) = before ++ [a] := by
  induction before with
  | nil => exact through_cons_of_stops ha
  | cons b before ih =>
    rw [List.cons_append, through, hb b (by simp), ih fun x hx => hb x (by simp [hx])]
    rfl

/-- What is left out after the first attempt that fails is not attempted. -/
theorem mapM_through_eq_mapM {ε β : Type} (f : α → Except ε β) (as : List α) :
    (through (fun a => !(f a).isOk) as).mapM f = as.mapM f := by
  induction as with
  | nil => rfl
  | cons a as ih =>
    cases h : f a with
    | error e =>
      have hstops : (!(f a).isOk) = true := by
        rw [h]
        rfl
      rw [through, hstops, if_pos rfl, mapM_cons_of_error _ h, mapM_cons_of_error _ h]
    | ok b =>
      have hgoes : (!(f a).isOk) = false := by
        rw [h]
        rfl
      rw [through, hgoes, if_neg Bool.false_ne_true, mapM_cons_of_ok _ h, mapM_cons_of_ok _ h, ih]

end

end NullLint
