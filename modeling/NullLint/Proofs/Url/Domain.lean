import NullLint.Proofs.Matching
import NullLint.Proofs.Progress
import NullLint.Proofs.Text.Cut
import NullLint.Proofs.Url.Percent
import NullLint.Url.Domain.Basic

set_option autoImplicit false
set_option relaxedAutoImplicit false

/-!
# Domain names as they are written

A domain name holds no character that a domain name must not contain, whatever it has been read
from: what is written as it is has been looked through, and what stands for characters beyond ASCII
consists of letters, digits and hyphens.

## Main results

* `Url.Punycode.free_encode` — the characters with which a label is written.
* `Url.Domain.free_of_ascii?` — no forbidden character is left in a domain name.
* `Url.Domain.ascii?_of_plain` — a plain name is left as it is.
-/

namespace NullLint.Url

/-- What is put together from parts is free from a set if the parts and what stands between them
are. -/
theorem free_intercalate {set : Char → Bool} {sep : List Char} {parts : List (List Char)}
    (hsep : Free set sep) (h : ∀ p ∈ parts, Free set p) : Free set (sep.intercalate parts) := by
  induction parts with
  | nil => exact free_nil
  | cons p ps ih =>
    obtain ⟨hp, hps⟩ := List.forall_mem_cons.mp h
    cases ps with
    | nil => rwa [List.intercalate_singleton]
    | cons q qs =>
      rw [List.intercalate_cons_cons]
      exact free_append.mpr ⟨free_append.mpr ⟨hp, hsep⟩, ih hps⟩

/-! ## Characters beyond ASCII -/

namespace Punycode

theorem threshold_le (weight bias : Nat) : threshold weight bias ≤ 26 := by
  unfold threshold
  split
  · omega
  · split <;> omega

section Free

variable {set : Char → Bool} (hdigit : ∀ d < 36, set (digitChar d) = false)
include hdigit

/-- The digits of a number are those of base 36. -/
theorem free_digits (bias weight n : Nat) : Free set (digits bias weight n) := by
  induction weight, n using digits.induct bias with
  | case1 weight n h =>
    have := threshold_le weight bias
    rw [digits, if_pos h]
    exact free_cons.mpr ⟨hdigit n (by omega), free_nil⟩
  | case2 weight n h ih =>
    have hle := threshold_le weight bias
    have hlt := Nat.mod_lt (n - threshold weight bias) (y := 36 - threshold weight bias) (by omega)
    rw [digits, if_neg h]
    exact free_cons.mpr ⟨hdigit _ (by omega), ih⟩

theorem free_out_pass {basic n : Nat} {w : Writer} (h : Free set w.out) (c : Char) :
    Free set (w.pass basic n c).out := by
  rw [Writer.pass]
  split
  · exact h
  · split
    · exact free_append.mpr ⟨h, free_digits hdigit _ _ _⟩
    · exact h

theorem free_out_foldl_pass {basic n : Nat} {w : Writer} (h : Free set w.out) (cs : List Char) :
    Free set (cs.foldl (Writer.pass basic n) w).out := by
  induction cs generalizing w with
  | nil => exact h
  | cons c cs ih => exact ih (free_out_pass hdigit h c)

/-- Only digits are written while characters are inserted. -/
theorem free_out_insertAll {label : List Char} {basic : Nat} (points : List Nat) {n : Nat}
    {w : Writer} (h : Free set w.out) :
    Free set (Writer.insertAll label basic n points w).out := by
  induction points generalizing n w with
  | nil => exact h
  | cons m ms ih =>
    rw [Writer.insertAll]
    refine ih ?_
    dsimp only
    refine free_out_foldl_pass hdigit ?_ label
    exact h

/-- **A label is written** with its own ASCII characters, a hyphen and digits. -/
theorem free_encode {label : List Char} (hhyphen : set '-' = false) (hlabel : Free set label) :
    Free set (encode label) := by
  have hbasic : Free set (basicOf label) := fun c hc => hlabel c (List.mem_of_mem_filter hc)
  rw [encode]
  refine free_append.mpr ⟨?_, free_out_insertAll hdigit _ free_nil⟩
  split
  · exact free_nil
  · exact free_append.mpr ⟨hbasic, free_cons.mpr ⟨hhyphen, free_nil⟩⟩

end Free

end Punycode

/-! ## Names -/

namespace Domain

/-- A label is written as it is, or after a mark. -/
theorem Label.ascii_of_parse? {cs : List Char} {l : Label} (h : Label.parse? cs = some l) :
    l.ascii = cs ∨ l.ascii = mark ++ Punycode.encode cs := by
  unfold Label.parse? at h
  split at h
  · split at h
    · obtain ⟨label, -, rfl⟩ := Option.map_eq_some_iff.mp h
      exact Or.inl rfl
    · cases h
      exact Or.inl rfl
  · split at h
    · cases h
      exact Or.inr rfl
    · cases h

/-- **No forbidden character is left in a domain name.** -/
theorem free_of_ascii? {cs name : List Char} (h : ascii? cs = some name) :
    Free isForbidden name := by
  obtain ⟨labels, hlabels, rfl⟩ := Option.map_eq_some_iff.mp h
  unfold labels? at hlabels
  split at hlabels
  · cases hlabels
  next folded _ =>
  split at hlabels
  · cases hlabels
  next hfree =>
  have hfree : Free isForbidden folded := by simpa [Free] using hfree
  obtain ⟨hparse, -⟩ := Option.filter_eq_some_iff.mp hlabels
  refine free_intercalate (by decide) fun p hp => ?_
  obtain ⟨l, hl, rfl⟩ := List.mem_map.mp hp
  obtain ⟨piece, hpiece, hl⟩ := exists_of_forall₂_of_mem (mapM_eq_some_iff.mp hparse) hl
  have hpiece : Free isForbidden piece := fun c hc =>
    hfree c (Text.mem_of_mem_piecesChars hpiece hc)
  rcases Label.ascii_of_parse? hl with hascii | hascii <;> rw [hascii]
  · exact hpiece
  · exact free_append.mpr ⟨by decide, Punycode.free_encode (by decide) (by decide) hpiece⟩

/-- Small letters, digits and signs of ASCII that a domain name may contain. -/
def IsPlain (c : Char) : Prop :=
  c.toNat < 0x80 ∧ c.toLower = c ∧ isForbidden c = false

instance (c : Char) : Decidable (IsPlain c) :=
  inferInstanceAs (Decidable (_ ∧ _ ∧ _))

section Plain

variable {cs : List Char} (h : ∀ c ∈ cs, IsPlain c)
include h

theorem folded?_of_plain : folded? cs = some cs := by
  have hfold : cs.mapM fold? = some (cs.map fun c => [c]) := by
    rw [mapM_eq_some_iff, List.forall₂_map_right_iff, List.forall₂_same]
    intro c hc
    obtain ⟨hlt, hlower, -⟩ := h c hc
    rw [fold?, if_pos hlt, hlower]
  have hcomposed : Text.composed cs = cs := by
    refine if_pos (List.all_eq_true.mpr fun c hc => decide_eq_true ?_)
    have := (h c hc).1
    omega
  rw [folded?, hfold, Option.map_some, ← List.flatMap_def, List.flatMap_singleton', hcomposed]

theorem Label.isPlain_of_plain : isPlain cs = true :=
  List.all_eq_true.mpr fun c hc => decide_eq_true (h c hc).1

/-- Nothing of ASCII is written from right to left. -/
theorem Label.not_hasRight_of_plain (written : List Char) :
    (Label.mk cs written).hasRight = false := by
  rw [hasRight, List.any_eq_false]
  intro d hd
  obtain ⟨c, hc, rfl⟩ := List.mem_map.mp hd
  rw [Text.direction, if_pos (h c hc).1]
  split
  · decide
  · split <;> decide

/-- **A plain name is left as it is** if none of its labels starts with the mark of those that stand
for others. -/
theorem ascii?_of_plain (hmark : ∀ p ∈ Text.piecesChars '.' cs, ¬Label.mark <+: p) :
    ascii? cs = some cs := by
  have hpiece : ∀ p ∈ Text.piecesChars '.' cs, ∀ c ∈ p, IsPlain c := fun p hp c hc =>
    h c (Text.mem_of_mem_piecesChars hp hc)
  have hparse : (Text.piecesChars '.' cs).mapM Label.parse? =
      some ((Text.piecesChars '.' cs).map fun p => ⟨p, p⟩) := by
    rw [mapM_eq_some_iff, List.forall₂_map_right_iff, List.forall₂_same]
    intro p hp
    unfold Label.parse?
    rw [if_pos (Label.isPlain_of_plain (hpiece p hp))]
    split
    · exact absurd ⟨_, rfl⟩ (hmark _ hp)
    · rfl
  have hright : (((Text.piecesChars '.' cs).map fun p => (⟨p, p⟩ : Label)).any Label.hasRight) =
      false := by
    rw [List.any_eq_false]
    intro l hl
    obtain ⟨p, hp, rfl⟩ := List.mem_map.mp hl
    rw [Label.not_hasRight_of_plain (hpiece p hp)]
    decide
  have hfree : cs.any isForbidden = false := by
    rw [List.any_eq_false]
    intro c hc
    rw [(h c hc).2.2]
    decide
  rw [ascii?, labels?, folded?_of_plain h]
  dsimp only
  rw [hfree, if_neg Bool.false_ne_true, hparse, Option.filter_some, hright, Bool.not_false,
    Bool.true_or, if_pos rfl, Option.map_some, List.map_map]
  have hwhole : cs = ['.'].intercalate (Text.piecesChars '.' cs) :=
    (Text.piecesChars_eq_iff.mp rfl).2.2
  rw [Option.some_inj, show Label.ascii ∘ (fun p => (⟨p, p⟩ : Label)) = id from rfl, List.map_id,
    ← hwhole]

end Plain

end Domain

end NullLint.Url
