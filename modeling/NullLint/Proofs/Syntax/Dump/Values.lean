import NullLint.Proofs.Syntax.Dump.Position
import NullLint.Syntax.Dump.Values

set_option autoImplicit false
set_option relaxedAutoImplicit false

/-!
# Parts of dumps that are read already

A part of a dump can be taken from its text or from the value that was read from the text. What is
taken is the same wherever the text holds such a part. A value does not keep the order of its
members, and of several members with one key it keeps the last one; so neither matters here.

## Main definitions

* `Syntax.IsNameValue`, `Syntax.IsPositionValue` — the values of names and of positions.

## Main results

* `Syntax.valuesOf_sortedMembers`, `Syntax.sortedMembers_congr` — the members that are kept.
* `Syntax.ofValue_object_congr` — objects that keep the same members.
* `Syntax.nameOfValue_eq_ok_iff`, `Syntax.Position.ofValue_eq_ok_iff`,
  `Syntax.listOfValue_eq_ok_iff` — what is taken from a value.
* `Syntax.nameOfValue_of_isName`, `Syntax.Position.ofValue_of_isPosition` — the parts of a text are
  taken from its value.
-/

namespace NullLint.Syntax

open Json

/-! ## Members -/

section

variable {ms ms' : List (String × Value)} {name key : String} {v : Value}

theorem valuesOf_cons_self (name : String) (v : Value) (ms : List (String × Value)) :
    valuesOf name ((name, v) :: ms) = v :: valuesOf name ms := by
  simp [valuesOf]

theorem valuesOf_cons_of_ne (h : key ≠ name) (v : Value) (ms : List (String × Value)) :
    valuesOf name ((key, v) :: ms) = valuesOf name ms := by
  simp [valuesOf, h]

theorem mem_valuesOf_iff : v ∈ valuesOf name ms ↔ (name, v) ∈ ms := by
  simp [valuesOf]

/-- A key is given among some members. -/
theorem any_key_eq_true_iff : (ms.any (·.1 == name)) = true ↔ valuesOf name ms ≠ [] := by
  simp [valuesOf]

/-- Of the members of a key the last one is kept.

**Proof sketch.** Induction on the members. A member goes if its key is given again, and then it is
not the last one of its key. -/
theorem valuesOf_lastMembers (name : String) (ms : List (String × Value)) :
    valuesOf name (lastMembers ms) = (valuesOf name ms).getLast?.toList := by
  induction ms with
  | nil => rfl
  | cons m ms ih =>
    obtain ⟨key, w⟩ := m
    rw [lastMembers]
    by_cases hagain : (ms.any (·.1 == key)) = true
    · rw [if_pos hagain, ih]
      by_cases hkey : key = name
      · subst hkey
        rw [valuesOf_cons_self, List.getLast?_cons_of_ne_nil (any_key_eq_true_iff.mp hagain)]
      · rw [valuesOf_cons_of_ne hkey]
    · rw [if_neg hagain]
      by_cases hkey : key = name
      · subst hkey
        rw [any_key_eq_true_iff, not_not] at hagain
        rw [valuesOf_cons_self, valuesOf_cons_self, ih, hagain]
        rfl
      · rw [valuesOf_cons_of_ne hkey, valuesOf_cons_of_ne hkey, ih]

/-- Of the members of a key the last one is kept. -/
theorem valuesOf_sortedMembers (name : String) (ms : List (String × Value)) :
    valuesOf name (sortedMembers ms) = (valuesOf name ms).getLast?.toList := by
  have hperm : (valuesOf name (sortedMembers ms)).Perm (valuesOf name (lastMembers ms)) :=
    ((List.mergeSort_perm _ _).filter _).map _
  rw [valuesOf_lastMembers] at hperm
  cases h : (valuesOf name ms).getLast? with
  | none =>
    rw [h] at hperm
    exact hperm.eq_nil
  | some w =>
    rw [h] at hperm
    exact List.perm_singleton.mp hperm

theorem mem_sortedMembers_iff :
    (name, v) ∈ sortedMembers ms ↔ (valuesOf name ms).getLast? = some v := by
  rw [← mem_valuesOf_iff, valuesOf_sortedMembers, Option.mem_toList]

/-- No key is kept twice. -/
theorem nodup_lastMembers (ms : List (String × Value)) : ((lastMembers ms).map Prod.fst).Nodup := by
  induction ms with
  | nil => exact List.nodup_nil
  | cons m ms ih =>
    rw [lastMembers]
    by_cases hagain : (ms.any (·.1 == m.1)) = true
    · rw [if_pos hagain]
      exact ih
    · rw [if_neg hagain, List.map_cons]
      refine List.nodup_cons.mpr ⟨fun hmem => ?_, ih⟩
      obtain ⟨⟨key, v⟩, hv, rfl⟩ := List.mem_map.mp hmem
      rw [any_key_eq_true_iff, not_not] at hagain
      rw [← mem_valuesOf_iff, valuesOf_lastMembers, hagain] at hv
      cases hv

/-- The keys that are kept increase. -/
theorem pairwise_sortedMembers (ms : List (String × Value)) :
    (sortedMembers ms).Pairwise fun m m' => m.1 < m'.1 :=
  pairwise_lt_mergeSort (nodup_lastMembers ms)

/-- The members of an object matter only by the last one of each key. -/
theorem sortedMembers_congr
    (h : ∀ name, (valuesOf name ms).getLast? = (valuesOf name ms').getLast?) :
    sortedMembers ms = sortedMembers ms' := by
  refine eq_of_pairwise_of_mem_iff (fun _ _ => lt_asymm) (pairwise_sortedMembers ms)
    (pairwise_sortedMembers ms') fun m => ?_
  rw [mem_sortedMembers_iff, mem_sortedMembers_iff, h]

end

/-! ## Names, positions and lists -/

section

variable {α : Type} {a : α} {v : Value}

/-- The values that a name can have: the string of the name, or an object with `null` for the name,
which may have been given before. -/
inductive IsNameValue (name : String) : Value → Prop
  | string : IsNameValue name (.string name)
  | object (before : List (String × Value)) (h : ∀ m ∈ before, m.1 = name) :
    IsNameValue name (.object (before ++ [(name, .null)]))

/-- An object with members keeps some. -/
theorem eq_nil_of_lastMembers {ms : List (String × Value)} (h : lastMembers ms = []) :
    ms = [] := by
  cases ms with
  | nil => rfl
  | cons m ms =>
    have hlast := valuesOf_lastMembers m.1 (m :: ms)
    rw [h, valuesOf_cons_self, List.getLast?_cons] at hlast
    cases hlast

/-- An object keeps one member if that one stands at its end, and all members have its key.

**Proof sketch.** Induction on the members. The first one goes exactly if its key is given again. -/
theorem lastMembers_eq_singleton_iff {ms : List (String × Value)} {name : String} :
    lastMembers ms = [(name, v)] ↔
      ∃ before, ms = before ++ [(name, v)] ∧ ∀ m ∈ before, m.1 = name := by
  induction ms with
  | nil => simp [lastMembers]
  | cons m ms ih =>
    rw [lastMembers]
    by_cases hagain : (ms.any (·.1 == m.1)) = true
    · rw [if_pos hagain, ih]
      constructor
      · rintro ⟨before, rfl, hbefore⟩
        refine ⟨m :: before, rfl, List.forall_mem_cons.mpr ⟨?_, hbefore⟩⟩
        obtain ⟨m', hm', hkey⟩ := List.any_eq_true.mp hagain
        rw [← beq_iff_eq.mp hkey]
        rcases List.mem_append.mp hm' with hm' | hm'
        · exact hbefore m' hm'
        · rw [List.mem_singleton.mp hm']
      · rintro ⟨before, h, hbefore⟩
        cases before with
        | nil =>
          obtain ⟨rfl, rfl⟩ := List.cons_eq_cons.mp h
          cases hagain
        | cons m' before =>
          obtain ⟨rfl, rfl⟩ := List.cons_eq_cons.mp h
          exact ⟨before, rfl, fun m'' hm'' => hbefore m'' (List.mem_cons_of_mem _ hm'')⟩
    · rw [if_neg hagain]
      constructor
      · intro h
        obtain ⟨rfl, hnil⟩ := List.cons_eq_cons.mp h
        exact ⟨[], by rw [eq_nil_of_lastMembers hnil]; rfl, by simp⟩
      · rintro ⟨before, h, hbefore⟩
        cases before with
        | nil =>
          obtain ⟨rfl, rfl⟩ := List.cons_eq_cons.mp h
          rfl
        | cons m' before =>
          obtain ⟨rfl, rfl⟩ := List.cons_eq_cons.mp h
          refine absurd (List.any_eq_true.mpr ⟨(name, v), by simp, ?_⟩) hagain
          exact beq_iff_eq.mpr (hbefore m List.mem_cons_self).symm

theorem sortedMembers_eq_singleton_iff {ms : List (String × Value)} {name : String} :
    sortedMembers ms = [(name, v)] ↔
      ∃ before, ms = before ++ [(name, v)] ∧ ∀ m ∈ before, m.1 = name := by
  rw [← lastMembers_eq_singleton_iff, ← List.perm_singleton, ← List.perm_singleton]
  exact ⟨(List.mergeSort_perm _ _).symm.trans, (List.mergeSort_perm _ _).trans⟩

/-- What is taken from the value of a name. -/
theorem nameOfValue_eq_ok_iff {f : String → Except Fault α} :
    nameOfValue f v = .ok a ↔ ∃ name, IsNameValue name v ∧ f name = .ok a := by
  constructor
  · intro h
    unfold nameOfValue at h
    split at h
    · exact ⟨_, IsNameValue.string, h⟩
    · next ms =>
      split at h
      · next k w hms =>
        obtain ⟨b, hb, h⟩ := monadBind_eq_ok_iff.mp h
        split at h
        · cases h
          obtain ⟨before, rfl, hbefore⟩ := sortedMembers_eq_singleton_iff.mp hms
          exact ⟨k, IsNameValue.object before hbefore, hb⟩
        · cases h
      · cases h
    · cases h
  · rintro ⟨name, hname, hf⟩
    cases hname with
    | string => exact hf
    | object before hbefore =>
      rw [nameOfValue, sortedMembers_eq_singleton_iff.mpr ⟨before, rfl, hbefore⟩]
      simp only [hf]
      rfl

/-- The position of a value: an object whose last line and last column are words, or a list of the
two. -/
inductive IsPositionValue (p : Position) : Value → Prop
  | object {ms : List (String × Value)} {line column : Value}
      (hline : (valuesOf "line" ms).getLast? = some line) (hl : IsWordValue line p.line)
      (hcolumn : (valuesOf "column" ms).getLast? = some column)
      (hc : IsWordValue column p.column) : IsPositionValue p (.object ms)
  | pair {line column : Value} (hl : IsWordValue line p.line) (hc : IsWordValue column p.column) :
    IsPositionValue p (.array [line, column])

/-- What is taken from the value of a position. -/
theorem Position.ofValue_eq_ok_iff {p : Position} :
    Position.ofValue v = .ok p ↔ IsPositionValue p v := by
  constructor
  · intro h
    unfold Position.ofValue at h
    split at h
    · next ms =>
      obtain ⟨hline, hcolumn⟩ := Position.ofMembers_eq_ok_iff.mp h
      obtain ⟨line, hline, hl⟩ := field_some_iff.mp hline
      obtain ⟨column, hcolumn, hc⟩ := field_some_iff.mp hcolumn
      rw [valuesOf_sortedMembers, Option.toList_eq_singleton_iff] at hline hcolumn
      exact IsPositionValue.object hline hl hcolumn hc
    · cases h
    · obtain ⟨_, -, h⟩ := monadBind_eq_ok_iff.mp h
      cases h
    · next l c rest =>
      obtain ⟨line, hline, h⟩ := monadBind_eq_ok_iff.mp h
      obtain ⟨column, hcolumn, h⟩ := monadBind_eq_ok_iff.mp h
      cases rest with
      | nil =>
        cases h
        exact IsPositionValue.pair (wordOf_eq_ok_iff.mp hline) (wordOf_eq_ok_iff.mp hcolumn)
      | cons _ _ => cases h
    · cases h
  · intro h
    cases h with
    | object hline hl hcolumn hc =>
      refine Position.ofMembers_eq_ok_iff.mpr
        ⟨field_some_iff.mpr ⟨_, ?_, hl⟩, field_some_iff.mpr ⟨_, ?_, hc⟩⟩
      · rw [valuesOf_sortedMembers, hline]
        rfl
      · rw [valuesOf_sortedMembers, hcolumn]
        rfl
    | pair hl hc =>
      rw [Position.ofValue, wordOf_eq_ok_iff.mpr hl, wordOf_eq_ok_iff.mpr hc]
      rfl

/-- Neither what is taken from an object nor what is wrong with it depends on the order of its
members, or on members whose key is given again. -/
theorem ofValue_object_congr {ms ms' : List (String × Value)}
    (h : ∀ name, (valuesOf name ms).getLast? = (valuesOf name ms').getLast?) :
    Position.ofValue (.object ms) = Position.ofValue (.object ms') ∧
      ∀ f : String → Except Fault α, nameOfValue f (.object ms) = nameOfValue f (.object ms') := by
  have hsorted := sortedMembers_congr h
  refine ⟨?_, fun f => ?_⟩
  · rw [Position.ofValue, Position.ofValue, hsorted]
  · rw [nameOfValue, nameOfValue, hsorted]

/-- What is taken from a list of values. -/
theorem listOfValue_eq_ok_iff {f : Value → Except Fault α} {as : List α} :
    listOfValue f v = .ok as ↔
      ∃ vs, v = .array vs ∧ List.Forall₂ (fun v a => f v = .ok a) vs as := by
  cases v with
  | array vs =>
    rw [listOfValue, mapM_eq_ok_iff]
    simp
  | _ => simp [listOfValue]

/-- The name in a text is the one of its value. -/
theorem nameOfValue_of_isName {d : Draft} {f : String → Except Fault α} {P : String → α → Prop}
    (hf : ∀ name a, P name a → f name = .ok a) (hd : d.IsName P a) (hv : d.Denotes v) :
    nameOfValue f v = .ok a := by
  obtain ⟨name, hname, ⟨q, rfl, hq⟩ | hmembers⟩ := hd
  · obtain rfl : v = .string name := hv.unique (.string hq)
    exact nameOfValue_eq_ok_iff.mpr ⟨name, IsNameValue.string, hf name a hname⟩
  · obtain rfl : v = .object [(name, .null)] :=
      hv.unique (.object hmembers rfl (.cons .null .nil))
    exact nameOfValue_eq_ok_iff.mpr
      ⟨name, IsNameValue.object [] (by simp), hf name a hname⟩

/-- The position in a text is the one of its value. -/
theorem Position.ofValue_of_isPosition {d : Draft} {ms : List (String × Draft)} {p : Position}
    (hd : d.HasMembers ms) (hp : IsPosition ms p) (hv : d.Denotes v) :
    Position.ofValue v = .ok p := by
  obtain ⟨members, rfl, -⟩ := id hd
  obtain ⟨vs, ⟨ms', hms', hvs⟩, rfl⟩ := Draft.denotes_object_iff.mp hv
  obtain rfl : ms = ms' := hd.unique hms'
  have hfield : ∀ {name n}, Field name IsWord ms (some n) →
      ∃ w, (valuesOf name vs).getLast? = some w ∧ IsWordValue w n := by
    intro name n hfield
    obtain ⟨x, hx, hword⟩ := field_some_iff.mp hfield
    have hvalues := MembersRelate.forall₂_valuesOf hvs name
    rw [hx] at hvalues
    obtain ⟨w, _, hw, hnil, hvs⟩ := List.forall₂_cons_left_iff.mp hvalues
    cases hnil
    exact ⟨w, by rw [hvs]; rfl, hw.unique (isWord_iff_denotes.mp hword)⟩
  obtain ⟨line, hline, hl⟩ := hfield hp.line
  obtain ⟨column, hcolumn, hc⟩ := hfield hp.column
  exact Position.ofValue_eq_ok_iff.mpr (IsPositionValue.object hline hl hcolumn hc)

end

end NullLint.Syntax
