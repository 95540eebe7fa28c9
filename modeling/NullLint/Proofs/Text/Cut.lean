import Mathlib.Data.List.TakeWhile
import NullLint.Text.Cut

set_option autoImplicit false
set_option relaxedAutoImplicit false

/-!
# Texts and separators

Where a text is cut, said without the search for a separator. The part before the first separator
holds none. The part after the last separator is the one part at the end of the text that holds none
and has a separator, or nothing, before it. The parts between the separators hold none, and joining
them gives the text back.

## Main definitions

* `Text.CutsFirst` — the parts of a text before and after its first separator.
* `Text.IsLastSegment` — a text ends in a segment without separators.
* `Text.ArePieces` — the parts of a text between its separators.

## Main results

* `Text.cutFirst_eq_some_iff`, `Text.cutFirst_eq_none_iff` — `Text.cutFirst` cuts at the first
  separator.
* `Text.afterLast_eq_iff` — `Text.afterLast` cuts off the last segment.
* `Text.pieces_eq_iff` — `Text.pieces` cuts at all separators.
-/

namespace NullLint.Text

/-! ## The first separator -/

/-- The first `sep` of the text `s` stands between `before` and `after`. -/
def CutsFirst (sep : Char) (s before after : String) : Prop :=
  s = before ++ String.singleton sep ++ after ∧ sep ∉ before.toList

/-- What stands before and after the first separator of a list of characters.

**Proof sketch.** Induction on the list. If it starts with a separator nothing stands before the
first one, and otherwise its first character does. -/
theorem cutChars_eq_some_iff {sep : Char} {cs before after : List Char} :
    cutChars sep cs = some (before, after) ↔ cs = before ++ sep :: after ∧ sep ∉ before := by
  induction cs generalizing before with
  | nil => simp [cutChars]
  | cons c cs ih =>
    unfold cutChars
    by_cases hc : c = sep
    · rw [if_pos hc]
      constructor
      · intro h
        cases h
        exact ⟨by rw [hc, List.nil_append], List.not_mem_nil⟩
      · rintro ⟨hcs, hbefore⟩
        cases before with
        | nil => simpa using (List.cons.inj hcs).2
        | cons b before =>
          have hb : b = sep := (List.cons.inj hcs).1.symm.trans hc
          exact absurd (by simp [hb]) hbefore
    · rw [if_neg hc]
      simp only [Option.map_eq_some_iff, Prod.exists, Prod.mk.injEq]
      constructor
      · rintro ⟨before', after', h, rfl, rfl⟩
        obtain ⟨hcs, hbefore⟩ := ih.mp h
        refine ⟨by rw [hcs, List.cons_append], fun hmem => ?_⟩
        rcases List.mem_cons.mp hmem with hsep | hmem
        · exact hc hsep.symm
        · exact hbefore hmem
      · rintro ⟨hcs, hbefore⟩
        cases before with
        | nil => exact absurd (List.cons.inj hcs).1 hc
        | cons b before =>
          obtain ⟨hb, hcs⟩ := List.cons.inj hcs
          have hrest : sep ∉ before := fun hmem => hbefore (List.mem_cons_of_mem b hmem)
          exact ⟨before, after, ih.mpr ⟨hcs, hrest⟩, by rw [hb], rfl⟩

/-- A list of characters without a separator is not cut. -/
theorem cutChars_eq_none_iff {sep : Char} {cs : List Char} :
    cutChars sep cs = none ↔ sep ∉ cs := by
  constructor
  · intro h hmem
    obtain ⟨before, after, hcs, hbefore⟩ := List.eq_append_cons_of_mem hmem
    have hsome := cutChars_eq_some_iff.mpr ⟨hcs, hbefore⟩
    rw [h] at hsome
    cases hsome
  · intro hnot
    cases h : cutChars sep cs with
    | none => rfl
    | some p =>
      have hcs := (cutChars_eq_some_iff.mp h).1
      exact absurd (by simp [hcs]) hnot

/-- `Text.cutFirst` cuts a text at its first separator. -/
theorem cutFirst_eq_some_iff {sep : Char} {s before after : String} :
    cutFirst sep s = some (before, after) ↔ CutsFirst sep s before after := by
  have hchars : cutFirst sep s = some (before, after) ↔
      cutChars sep s.toList = some (before.toList, after.toList) := by
    unfold cutFirst
    cases cutChars sep s.toList with
    | none => simp
    | some p => simp [Prod.ext_iff, ← String.toList_inj]
  rw [hchars, cutChars_eq_some_iff, CutsFirst, ← String.toList_inj]
  simp

/-- A text without a separator is not cut. -/
theorem cutFirst_eq_none_iff {sep : Char} {s : String} :
    cutFirst sep s = none ↔ sep ∉ s.toList := by
  rw [cutFirst, Option.map_eq_none_iff, cutChars_eq_none_iff]

/-! ## The last separator -/

/-- The text `s` ends in `x`, which holds no `sep`, and `x` is all of `s` or follows a `sep`. -/
def IsLastSegment (sep : Char) (s x : String) : Prop :=
  sep ∉ x.toList ∧ (s = x ∨ ∃ front, s = front ++ String.singleton sep ++ x)

/-- What is left of a list of characters after the last separator.

**Proof sketch.** The reversed list starts with what follows the last separator, read backwards, and
goes on with a separator if it goes on at all. -/
theorem afterLastChars_eq_iff {sep : Char} {cs xs : List Char} :
    afterLastChars sep cs = xs ↔ sep ∉ xs ∧ (cs = xs ∨ ∃ front, cs = front ++ sep :: xs) := by
  constructor
  · rintro rfl
    have hsplit : cs = (cs.reverse.dropWhile (· ≠ sep)).reverse ++ afterLastChars sep cs := by
      rw [afterLastChars, ← List.reverse_append, List.takeWhile_append_dropWhile,
        List.reverse_reverse]
    refine ⟨fun hmem => ?_, ?_⟩
    · have hne := List.mem_takeWhile_imp (List.mem_reverse.mp hmem)
      simp at hne
    · cases hd : cs.reverse.dropWhile (· ≠ sep) with
      | nil =>
        rw [hd] at hsplit
        exact Or.inl hsplit
      | cons y ys =>
        have hy : y = sep := by
          have hne : cs.reverse.dropWhile (· ≠ sep) ≠ [] := by
            rw [hd]
            exact List.cons_ne_nil y ys
          have hnot := List.head_dropWhile_not (· ≠ sep) hne
          simp only [hd, List.head_cons] at hnot
          simpa using hnot
        rw [hd, hy, List.reverse_cons, List.append_assoc] at hsplit
        exact Or.inr ⟨ys.reverse, hsplit⟩
  · rintro ⟨hx, h⟩
    have hall : ∀ c ∈ xs.reverse, (decide (c ≠ sep)) = true := by
      intro c hc
      have hne : c ≠ sep := fun he => hx (he ▸ List.mem_reverse.mp hc)
      simpa using hne
    rcases h with rfl | ⟨front, rfl⟩
    · rw [afterLastChars, List.takeWhile_eq_self_iff.mpr hall, List.reverse_reverse]
    · rw [afterLastChars, List.reverse_append, List.reverse_cons, List.append_assoc,
        List.takeWhile_append_of_pos hall]
      simp

/-- `Text.afterLast` cuts off the last segment of a text. -/
theorem afterLast_eq_iff {sep : Char} {s x : String} :
    afterLast sep s = x ↔ IsLastSegment sep s x := by
  rw [afterLast, IsLastSegment, ← String.toList_inj, String.toList_ofList, afterLastChars_eq_iff]
  refine and_congr_right fun _ => or_congr String.toList_inj ⟨?_, ?_⟩
  · rintro ⟨front, h⟩
    refine ⟨String.ofList front, String.toList_inj.mp ?_⟩
    simp [h]
  · rintro ⟨front, rfl⟩
    exact ⟨front.toList, by simp⟩

/-! ## All separators -/

/-- The texts `ps` are the parts of the text `s` between its separators, from left to right. -/
def ArePieces (sep : Char) (s : String) (ps : List String) : Prop :=
  ps ≠ [] ∧ (∀ p ∈ ps, sep ∉ p.toList) ∧ s = (String.singleton sep).intercalate ps

/-- Cutting a list of characters is the cutting of any list. -/
theorem piecesChars_eq_splitOn (sep : Char) (cs : List Char) :
    piecesChars sep cs = cs.splitOn sep := by
  induction cs with
  | nil => rfl
  | cons c cs ih =>
    have hne := List.splitOn_ne_nil sep cs
    have hcons : (c :: cs).splitOn sep =
        if c = sep then [] :: cs.splitOn sep else (cs.splitOn sep).modifyHead (c :: ·) := by
      simp only [List.splitOn, List.splitOnP_cons_eq_if_modifyHead, beq_iff_eq]
    rw [piecesChars, ih, hcons]
    cases h : cs.splitOn sep with
    | nil => exact absurd h hne
    | cons p ps => rfl

/-- No part holds a separator. -/
theorem sep_notMem_of_mem_piecesChars {sep : Char} {cs p : List Char}
    (h : p ∈ piecesChars sep cs) : sep ∉ p := by
  induction cs generalizing p with
  | nil =>
    have hp : p = [] := by simpa [piecesChars] using h
    simp [hp]
  | cons c cs ih =>
    rw [piecesChars] at h
    split at h
    · rcases List.mem_cons.mp h with rfl | h
      · exact List.not_mem_nil
      · exact ih h
    · next hc =>
      have hsep : sep ≠ c := fun h => hc h.symm
      split at h
      · have hp : p = [c] := by simpa using h
        simpa [hp] using hsep
      · next q qs hqs =>
        rcases List.mem_cons.mp h with rfl | h
        · have hq : sep ∉ q := ih (by simp [hqs])
          simp [hsep, hq]
        · exact ih (by simp [hqs, h])

/-- The parts of a list of characters between its separators. -/
theorem piecesChars_eq_iff {sep : Char} {cs : List Char} {ps : List (List Char)} :
    piecesChars sep cs = ps ↔ ps ≠ [] ∧ (∀ p ∈ ps, sep ∉ p) ∧ cs = [sep].intercalate ps := by
  constructor
  · rintro rfl
    have hsplit := piecesChars_eq_splitOn sep cs
    refine ⟨?_, fun p hp => sep_notMem_of_mem_piecesChars hp, ?_⟩
    · rw [hsplit]
      exact List.splitOn_ne_nil sep cs
    · rw [hsplit, List.intercalate_splitOn]
  · rintro ⟨hne, hfree, rfl⟩
    rw [piecesChars_eq_splitOn]
    exact List.splitOn_intercalate sep hfree hne

/-- What stands in a part stands in the whole. -/
theorem mem_of_mem_piecesChars {sep c : Char} {cs p : List Char} (hp : p ∈ piecesChars sep cs)
    (hc : c ∈ p) : c ∈ cs := by
  induction cs generalizing p with
  | nil =>
    rw [List.mem_singleton.mp hp] at hc
    exact hc
  | cons d cs ih =>
    rw [piecesChars] at hp
    split at hp
    · rcases List.mem_cons.mp hp with rfl | hp
      · cases hc
      · exact List.mem_cons_of_mem d (ih hp hc)
    · split at hp
      · rw [List.mem_singleton.mp hp] at hc
        exact List.mem_singleton.mp hc ▸ List.mem_cons_self
      · next q qs hqs =>
        rw [hqs] at ih
        rcases List.mem_cons.mp hp with rfl | hp
        · rcases List.mem_cons.mp hc with rfl | hc
          · exact List.mem_cons_self
          · exact List.mem_cons_of_mem d (ih List.mem_cons_self hc)
        · exact List.mem_cons_of_mem d (ih (List.mem_cons_of_mem q hp) hc)

/-- `Text.pieces` cuts a text at all its separators. -/
theorem pieces_eq_iff {sep : Char} {s : String} {ps : List String} :
    pieces sep s = ps ↔ ArePieces sep s ps := by
  have hchars : pieces sep s = ps ↔ piecesChars sep s.toList = ps.map String.toList := by
    unfold pieces
    constructor
    · rintro rfl
      simp
    · intro h
      simp [h]
  rw [hchars, piecesChars_eq_iff, ArePieces, ← String.toList_inj, String.toList_intercalate,
    String.toList_singleton]
  simp

end NullLint.Text
