import NullLint.Proofs.FileSystem.Path
import NullLint.Scan

set_option autoImplicit false
set_option relaxedAutoImplicit false

/-!
# Where a dump is said to be

The location of a dump is the source path of its tree. If there is none, it is the path of the file
behind `file://`, seen from the root.

## Main definitions

* `FileSystem.IsBase` — what stands before the slash and a path from the current directory.
* `Scan.IsLocation` — the location of a dump.

## Main results

* `Scan.isLocation_uri` — a scan gives each dump its location.
* `Scan.IsLocation.unique` — a dump has one location.
-/

namespace NullLint

namespace FileSystem

/-- The current directory as a path, without the slash at its end if there is one. -/
def IsBase (fs : FileSystem) (base : String) : Prop :=
  "/" ++ "/".intercalate fs.current = base ++ "/" ∨
    ("/" ++ "/".intercalate fs.current = base ∧ ∀ front, base ≠ front ++ "/")

variable {fs : FileSystem} {base base' : String}

/-- A text with a slash behind it is that of one text. -/
theorem append_slash_inj {s t : String} (h : s ++ "/" = t ++ "/") : s = t := by
  have hchars := congrArg String.toList h
  rw [String.toList_append, String.toList_append] at hchars
  exact String.toList_inj.mp (List.append_cancel_right hchars)

/-- There is one such path. -/
theorem IsBase.unique (h : fs.IsBase base) (h' : fs.IsBase base') : base = base' := by
  rcases h with h | ⟨h, hslash⟩ <;> rcases h' with h' | ⟨h', hslash'⟩
  · exact append_slash_inj (h.symm.trans h')
  · exact absurd (h'.symm.trans h) (hslash' base)
  · exact absurd (h.symm.trans h') (hslash base')
  · exact h.symm.trans h'

/-- A path ends in a slash, or it does not. -/
theorem getLast?_eq_slash_iff {s : String} :
    s.toList.getLast? = some '/' ↔ ∃ front, s = front ++ "/" := by
  rw [List.getLast?_eq_some_iff]
  constructor
  · rintro ⟨cs, hcs⟩
    exact ⟨String.ofList cs, String.toList_inj.mp (by simp [hcs])⟩
  · rintro ⟨front, rfl⟩
    exact ⟨front.toList, String.toList_append⟩

/-- A path from the current directory, seen from the root. -/
theorem exists_isBase (fs : FileSystem) :
    ∃ base, fs.IsBase base ∧ ∀ path, Path.join fs.currentPath path = base ++ "/" ++ path := by
  have hne : fs.currentPath.isEmpty = false := by
    simp [currentPath]
  by_cases hslash : ∃ front, fs.currentPath = front ++ "/"
  · obtain ⟨front, hfront⟩ := hslash
    refine ⟨front, Or.inl hfront, fun path => ?_⟩
    rw [Path.join, if_pos (by simp [getLast?_eq_slash_iff.mpr ⟨front, hfront⟩]), hfront]
  · refine ⟨fs.currentPath, Or.inr ⟨rfl, not_exists.mp hslash⟩, fun path => ?_⟩
    rw [← getLast?_eq_slash_iff] at hslash
    rw [Path.join, if_neg (by simp [hne, hslash])]

end FileSystem

namespace Path

/-- A path starts at the root if a slash is its first character. -/
theorem isAbsolute_iff {path : String} : isAbsolute path = true ↔ ∃ rest, path = "/" ++ rest := by
  rw [isAbsolute, beq_iff_eq, List.head?_eq_some_iff]
  constructor
  · rintro ⟨cs, hcs⟩
    exact ⟨String.ofList cs, String.toList_inj.mp (by simp [hcs])⟩
  · rintro ⟨rest, rfl⟩
    exact ⟨rest.toList, String.toList_append⟩

end Path

namespace Scan

/-- The location of the dump at a path: the source path of its tree if there is one, and otherwise
the file itself. A path that starts at the root stands behind the scheme as it is; any other path
stands behind the current directory and a slash. -/
inductive IsLocation (fs : FileSystem) (path source : String) : String → Prop
  | source (h : source ≠ "") : IsLocation fs path source source
  | absolute (h : source = "") (hpath : ∃ rest, path = "/" ++ rest) :
    IsLocation fs path source ("file://" ++ path)
  | relative {base : String} (h : source = "") (hpath : ∀ rest, path ≠ "/" ++ rest)
      (hbase : fs.IsBase base) : IsLocation fs path source ("file://" ++ (base ++ "/" ++ path))

variable {fs : FileSystem} {path source uri uri' : String}

/-- A dump has one location. -/
theorem IsLocation.unique (h : IsLocation fs path source uri)
    (h' : IsLocation fs path source uri') : uri = uri' := by
  cases h with
  | source hne =>
    cases h' with
    | source => rfl
    | absolute h => exact absurd h hne
    | relative h => exact absurd h hne
  | absolute h hpath =>
    cases h' with
    | source hne => exact absurd h hne
    | absolute => rfl
    | relative _ hnot => exact absurd hpath (not_exists.mpr hnot)
  | relative h hnot hbase =>
    cases h' with
    | source hne => exact absurd h hne
    | absolute _ hpath => exact absurd hpath (not_exists.mpr hnot)
    | relative _ _ hbase' => rw [hbase.unique hbase']

/-- A scan gives each dump its location. -/
theorem isLocation_uri (fs : FileSystem) (l : Loaded) :
    IsLocation fs l.path l.tree.path (l.uri fs) := by
  rw [Loaded.uri]
  split
  · next hempty =>
    have hsource : l.tree.path = "" := by simpa using hempty
    rw [fileUri]
    split
    · next habsolute => exact IsLocation.absolute hsource (Path.isAbsolute_iff.mp habsolute)
    · next hrelative =>
      obtain ⟨base, hbase, hjoin⟩ := fs.exists_isBase
      rw [hjoin]
      rw [Path.isAbsolute_iff, not_exists] at hrelative
      exact IsLocation.relative hsource hrelative hbase
  · next hne => exact IsLocation.source (by simpa using hne)

end Scan

end NullLint
