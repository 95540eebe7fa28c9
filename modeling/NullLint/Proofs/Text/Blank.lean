import Mathlib.Data.List.TakeWhile
import NullLint.Text.Blank
import NullLint.Text.Letters

set_option autoImplicit false
set_option relaxedAutoImplicit false

/-!
# Blanks around a text

Trimming takes away the blanks at the two ends of a text and nothing else. What is left starts and
ends with other characters, unless it is empty. No letter and no number is a blank.

## Main definitions

* `Text.IsTrimmed` — no blanks at the two ends.
* `Text.IsTrimOf` — what is left of a text without the blanks at its two ends.

## Main results

* `Text.trimChars_eq_iff`, `Text.trim_eq_iff` — what trimming leaves.
* `Text.not_isBlank_of_letterOrNumber` — letters and numbers are no blanks.
-/

namespace NullLint.Text

/-- There are no blanks at the two ends. -/
def IsTrimmed (cs : List Char) : Prop :=
  (∀ c, cs.head? = some c → isBlank c = false) ∧ ∀ c, cs.getLast? = some c → isBlank c = false

/-- What is left when the items at the front that satisfy a test are dropped. -/
theorem dropWhile_eq_iff {p : Char → Bool} {cs rest : List Char} :
    cs.dropWhile p = rest ↔ (∀ c, rest.head? = some c → p c = false) ∧
      ∃ before, cs = before ++ rest ∧ ∀ c ∈ before, p c = true := by
  constructor
  · rintro rfl
    refine ⟨fun c hc => ?_, cs.takeWhile p, List.takeWhile_append_dropWhile.symm, fun c hc => ?_⟩
    · have hne : cs.dropWhile p ≠ [] := by
        intro hnil
        rw [hnil] at hc
        cases hc
      have hhead := List.head_dropWhile_not p hne
      rw [List.head?_eq_some_head hne] at hc
      cases hc
      exact hhead
    · exact List.mem_takeWhile_imp hc
  · rintro ⟨hhead, before, rfl, hbefore⟩
    rw [List.dropWhile_append_of_pos hbefore]
    cases rest with
    | nil => rfl
    | cons c rest => rw [List.dropWhile_cons_of_neg (by simp [hhead c rfl])]

/-- What is left without the blanks at the end. -/
theorem trimEnd_eq_iff {cs rest : List Char} :
    trimEnd cs = rest ↔ (∀ c, rest.getLast? = some c → isBlank c = false) ∧
      ∃ after, cs = rest ++ after ∧ ∀ c ∈ after, isBlank c = true := by
  have hreverse : trimEnd cs = rest ↔ cs.reverse.dropWhile isBlank = rest.reverse :=
    List.reverse_eq_iff
  rw [hreverse, dropWhile_eq_iff, List.head?_reverse]
  refine and_congr_right fun _ => ⟨?_, ?_⟩
  · rintro ⟨before, hcs, hbefore⟩
    refine ⟨before.reverse, ?_, fun c hc => hbefore c (List.mem_reverse.mp hc)⟩
    rw [← List.reverse_reverse cs, hcs, List.reverse_append, List.reverse_reverse]
  · rintro ⟨after, rfl, hafter⟩
    exact ⟨after.reverse, List.reverse_append, fun c hc => hafter c (List.mem_reverse.mp hc)⟩

/-- What is left without the blanks at the two ends.

**Proof sketch.** The blanks at the front are dropped first. If something is left of the text in the
end, it starts where the rest starts after that; otherwise the whole text is blank. -/
theorem trimChars_eq_iff {cs middle : List Char} :
    trimChars cs = middle ↔ IsTrimmed middle ∧ ∃ before after, cs = before ++ middle ++ after ∧
      (∀ c ∈ before, isBlank c = true) ∧ ∀ c ∈ after, isBlank c = true := by
  rw [trimChars, trimEnd_eq_iff]
  constructor
  · rintro ⟨hlast, after, hrest, hafter⟩
    obtain ⟨hhead, before, hcs, hbefore⟩ := dropWhile_eq_iff.mp hrest
    refine ⟨⟨fun c hc => ?_, hlast⟩, before, after, by rw [hcs, List.append_assoc], hbefore, hafter⟩
    apply hhead c
    rw [List.head?_append, hc]
    rfl
  · rintro ⟨⟨hhead, hlast⟩, before, after, rfl, hbefore, hafter⟩
    refine ⟨hlast, ?_⟩
    rw [List.append_assoc]
    cases middle with
    | nil =>
      -- All is blank and is dropped at the front, so that nothing is left for the end.
      have hall : ∀ c ∈ before ++ after, isBlank c = true :=
        List.forall_mem_append.mpr ⟨hbefore, hafter⟩
      refine ⟨[], ?_, by simp⟩
      exact List.dropWhile_eq_nil_iff.mpr hall
    | cons c middle =>
      refine ⟨after, ?_, hafter⟩
      exact dropWhile_eq_iff.mpr ⟨hhead, before, rfl, hbefore⟩

/-- The text `x` is what is left of the text `s` without the blanks at its two ends. -/
def IsTrimOf (s x : String) : Prop :=
  IsTrimmed x.toList ∧ ∃ before after, s = before ++ x ++ after ∧
    (∀ c ∈ before.toList, isBlank c = true) ∧ ∀ c ∈ after.toList, isBlank c = true

/-- What trimming leaves of a text. -/
theorem trim_eq_iff {s x : String} : trim s = x ↔ IsTrimOf s x := by
  have hchars : trim s = x ↔ trimChars s.toList = x.toList := by
    rw [trim, ← String.toList_inj, String.toList_ofList]
  rw [hchars, trimChars_eq_iff, IsTrimOf]
  refine and_congr_right fun _ => ⟨?_, ?_⟩
  · rintro ⟨before, after, hs, hbefore, hafter⟩
    refine ⟨String.ofList before, String.ofList after, String.toList_inj.mp ?_, ?_, ?_⟩
    · simp [hs]
    · simpa using hbefore
    · simpa using hafter
  · rintro ⟨before, after, rfl, hbefore, hafter⟩
    exact ⟨before.toList, after.toList, by simp, hbefore, hafter⟩

/-- A text without blanks at its ends is left as it is. -/
theorem trim_of_isTrimmed {s : String} (h : IsTrimmed s.toList) : trim s = s :=
  trim_eq_iff.mpr ⟨h, "", "", by simp, by simp, by simp⟩

/-! ## Blanks among the characters -/

/-- The code points of the blanks. -/
def blanks : List Nat :=
  List.range' 9 5 ++ [0x20, 0x85, 0xA0, 0x1680] ++ List.range' 0x2000 11 ++
    [0x2028, 0x2029, 0x202F, 0x205F, 0x3000]

theorem mem_blanks {c : Char} (h : isBlank c = true) : c.toNat ∈ blanks := by
  simp only [isBlank, Bool.or_eq_true, Bool.and_eq_true, decide_eq_true_eq, beq_iff_eq] at h
  simp only [blanks, List.mem_append, List.mem_range'_1, List.mem_cons, List.not_mem_nil, or_false]
  omega

/-- Letters and numbers are no blanks. -/
theorem not_isBlank_of_letterOrNumber {c : Char} (h : isLetterOrNumber c = true) :
    isBlank c = false := by
  have hnone : ∀ n ∈ blanks, isLetterOrNumber (Char.ofNat n) = false := by decide +kernel
  rw [Bool.eq_false_iff]
  intro hblank
  have hc := hnone c.toNat (mem_blanks hblank)
  rw [Char.ofNat_toNat, h] at hc
  cases hc

end NullLint.Text
