import Mathlib.Data.String.Basic
import NullLint.FileSystem.Basic
import NullLint.Proofs.Text.Cut

set_option autoImplicit false
set_option relaxedAutoImplicit false

/-!
# Names below a path

What a path that ends in the name of an entry has to do with that name: such paths are in the order
of the names, and their last component is the name, so that the name alone decides on the extension.

## Main definitions

* `Path.stem` — a path with the slash that stands before a name below it.
* `Path.HasExtension` — a name has an extension, and something before it.

## Main results

* `Path.join_le_join_iff` — paths below one path are in the order of the names.
* `Path.fileName?_join` — the last component of a path below a path.
* `Path.extensionOf_eq_some_iff` — the extension of a name.
-/

namespace NullLint.Text

variable {sep : Char} {cs ds : List Char}

/-- A text without separators is one piece. -/
theorem piecesChars_of_not_mem (h : sep ∉ cs) : piecesChars sep cs = [cs] := by
  induction cs with
  | nil => rfl
  | cons c cs ih =>
    rw [List.mem_cons, not_or] at h
    rw [piecesChars, if_neg (Ne.symm h.1), ih h.2]

theorem piecesChars_ne_nil (sep : Char) (cs : List Char) : piecesChars sep cs ≠ [] := by
  cases cs with
  | nil => simp [piecesChars]
  | cons c cs =>
    rw [piecesChars]
    split
    · simp
    · split <;> simp

/-- The pieces before and behind a separator. -/
theorem piecesChars_append (sep : Char) (cs ds : List Char) :
    piecesChars sep (cs ++ sep :: ds) = piecesChars sep cs ++ piecesChars sep ds := by
  induction cs with
  | nil => simp [piecesChars]
  | cons c cs ih =>
    rw [List.cons_append, piecesChars, piecesChars, ih]
    split
    · rfl
    · obtain ⟨p, ps, hp⟩ := List.exists_cons_of_ne_nil (piecesChars_ne_nil sep cs)
      simp only [hp, List.cons_append]

end NullLint.Text

namespace NullLint.Path

variable {base name : String}

/-- A path, and a slash at its end if there is none. A path below it goes on with a name. -/
def stem (base : String) : String :=
  if base.isEmpty || base.toList.getLast? == some '/' then base else base ++ "/"

theorem join_eq (base name : String) : join base name = stem base ++ name := by
  rw [join, stem]
  split <;> rfl

/-- A path before which a name can stand is empty or ends in a slash. -/
theorem stem_eq (base : String) : stem base = "" ∨ ∃ front, stem base = front ++ "/" := by
  rw [stem]
  split
  · next h =>
    rcases Bool.or_eq_true _ _ ▸ h with h | h
    · exact Or.inl (by simpa using h)
    · obtain ⟨cs, hcs⟩ := List.getLast?_eq_some_iff.mp (beq_iff_eq.mp h)
      refine Or.inr ⟨String.ofList cs, String.toList_inj.mp ?_⟩
      simp [hcs]
  · exact Or.inr ⟨base, rfl⟩

/-- Paths below one path are in the order of the names. -/
theorem join_le_join_iff {a b : String} : join base a ≤ join base b ↔ a ≤ b := by
  rw [join_eq, join_eq, ← not_lt, ← not_lt, String.lt_iff_toList_lt, String.lt_iff_toList_lt,
    String.toList_append, String.toList_append, not_iff_not]
  induction (stem base).toList with
  | nil => rfl
  | cons c cs ih =>
    rw [List.cons_append, List.cons_append, List.cons_lt_cons_iff, ← ih]
    simp

/-- The components of a path below a path. -/
theorem exists_components_join (base : String) (h : '/' ∉ name.toList) :
    ∃ before, components (join base name) = before ++ [name] := by
  rw [join_eq, components, Text.pieces, String.toList_append]
  rcases stem_eq base with hs | ⟨front, hs⟩
  · refine ⟨[], ?_⟩
    rw [hs, String.toList_empty, List.nil_append, Text.piecesChars_of_not_mem h, List.map_singleton,
      String.ofList_toList]
    rfl
  · refine ⟨(Text.piecesChars '/' front.toList).map String.ofList, ?_⟩
    have hchars : (stem base).toList ++ name.toList = front.toList ++ '/' :: name.toList := by
      simp [hs]
    rw [hchars, Text.piecesChars_append, Text.piecesChars_of_not_mem h, List.map_append,
      List.map_singleton, String.ofList_toList]

/-- The last component of a path below a path is the name. -/
theorem fileName?_join (base : String) (hplain : FileSystem.isPlainName name = true)
    (h : '/' ∉ name.toList) : fileName? (join base name) = some name := by
  obtain ⟨before, hbefore⟩ := exists_components_join base h
  simp only [FileSystem.isPlainName, Bool.and_eq_true, bne_iff_ne, ne_eq] at hplain
  obtain ⟨⟨hne, hdot⟩, hdots⟩ := hplain
  have hstep : (!name.isEmpty && name != ".") = true := by simp [hne, hdot]
  rw [fileName?, steps, hbefore, List.filter_append, List.filter_singleton, hstep]
  simp [hdots]

/-- A name has an extension: it ends in a point and the extension, and something is before the
point. -/
def HasExtension (name extension : String) : Prop :=
  ∃ front, front ≠ "" ∧ name = front ++ "." ++ extension

/-- The extension of a name follows its last point. -/
theorem extensionOf_eq_some_iff {extension : String} :
    extensionOf name = some extension ↔
      '.' ∉ extension.toList ∧ HasExtension name extension := by
  have hchars : HasExtension name extension ↔
      ∃ front, front ≠ [] ∧ name.toList = front ++ '.' :: extension.toList := by
    constructor
    · rintro ⟨front, hfront, rfl⟩
      exact ⟨front.toList, by simpa using hfront, by simp⟩
    · rintro ⟨front, hfront, hname⟩
      exact ⟨String.ofList front, by simpa using hfront, String.toList_inj.mp (by simp [hname])⟩
  rw [hchars, extensionOf]
  constructor
  · intro h
    split at h
    · next hlength =>
      have hsuffix : Text.afterLastChars '.' name.toList = extension.toList := by
        rw [← Option.some.inj h, String.toList_ofList]
      rw [hsuffix] at hlength
      obtain ⟨hdot, hname | ⟨front, hname⟩⟩ := Text.afterLastChars_eq_iff.mp hsuffix
      · rw [hname] at hlength
        omega
      · refine ⟨hdot, front, ?_, hname⟩
        rintro rfl
        rw [hname] at hlength
        simp at hlength
    · cases h
  · rintro ⟨hdot, front, hfront, hname⟩
    have hsuffix : Text.afterLastChars '.' name.toList = extension.toList :=
      Text.afterLastChars_eq_iff.mpr ⟨hdot, Or.inr ⟨front, hname⟩⟩
    have hfront := List.length_pos_of_ne_nil hfront
    rw [if_pos ?length, hsuffix, String.ofList_toList]
    rw [hsuffix, hname, List.length_append, List.length_cons]
    omega

end NullLint.Path
