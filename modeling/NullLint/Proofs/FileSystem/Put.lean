import Mathlib.Tactic.SplitIfs
import NullLint.FileSystem.Basic
import NullLint.Proofs.Progress

set_option autoImplicit false
set_option relaxedAutoImplicit false

/-!
# What changes when a file is written

A file system is seen as two things: which names lead to a file, with its content and its limits,
and which names lead to a directory, with its limits. Putting a file in a place where a file can be
changes the first in that place alone and the second nowhere, and the path for which the place was
found then leads to the file.

## Main definitions

* `FileNode.fileAt`, `FileNode.directoryAt` — the two views.
* `FileNode.Admits` — a place in which a file can be put.
* `FileSystem.DiffersAt` — two file systems that differ in the file of a path alone.

## Main results

* `FileNode.fileAt_set_self`, `FileNode.fileAt_set_of_ne`, `FileNode.directoryAt_set` — the views
  after a file is put in a place.
* `FileSystem.HasPlace.admits`, `FileSystem.node_put_of_place` — the place of a path.
* `FileSystem.differsAt_put` — putting a file in the place of a path changes nothing else.
-/

namespace NullLint

open FileSystem (FileLimits DirectoryLimits)

namespace FileNode

/-! ## Views -/

/-- The content and the limits of the file that names lead to, if they lead to a file. -/
def fileAt (node : FileNode) (names : List String) : Option (ByteArray × FileLimits) :=
  match node.get? names with
  | some (.file content limits) => some (content, limits)
  | _ => none

/-- The limits of the directory that names lead to, if they lead to a directory. -/
def directoryAt (node : FileNode) (names : List String) : Option DirectoryLimits :=
  match node.get? names with
  | some (.directory _ limits) => some limits
  | _ => none

variable {entries : List (String × FileNode)} {limits : DirectoryLimits} {name : String}
  {names : List String}

theorem fileAt_directory_cons :
    (FileNode.directory entries limits).fileAt (name :: names) =
      (lookup entries name).bind fun child => child.fileAt names := by
  rw [fileAt, get?]
  cases lookup entries name <;> rfl

theorem directoryAt_directory_cons :
    (FileNode.directory entries limits).directoryAt (name :: names) =
      (lookup entries name).bind fun child => child.directoryAt names := by
  rw [directoryAt, get?]
  cases lookup entries name <;> rfl

/-- No names lead from a file to a directory. -/
theorem directoryAt_file (content : ByteArray) (limits : FileLimits) (names : List String) :
    (FileNode.file content limits).directoryAt names = none := by
  cases names <;> rfl

theorem fileAt_eq_some_iff {node : FileNode} {content : ByteArray} {limits : FileLimits} :
    node.fileAt names = some (content, limits) ↔
      node.get? names = some (.file content limits) := by
  rw [fileAt]
  cases node.get? names with
  | none => simp
  | some n => cases n <;> simp

theorem directoryAt_eq_some_iff {node : FileNode} :
    node.directoryAt names = some limits ↔
      ∃ entries, node.get? names = some (.directory entries limits) := by
  rw [directoryAt]
  cases node.get? names with
  | none => simp
  | some n => cases n <;> simp [eq_comm]

theorem get?_append (node : FileNode) (names rest : List String) :
    node.get? (names ++ rest) = (node.get? names).bind fun n => n.get? rest := by
  induction names generalizing node with
  | nil => rfl
  | cons name names ih =>
    cases node with
    | file => rfl
    | directory entries limits =>
      rw [List.cons_append, get?, get?]
      cases lookup entries name with
      | none => rfl
      | some child => exact ih child

/-- Names lead somewhere if they lead to a file or to a directory. -/
theorem isSome_get?_iff {node : FileNode} :
    (node.get? names).isSome = true ↔
      (node.fileAt names).isSome = true ∨ (node.directoryAt names).isSome = true := by
  rw [fileAt, directoryAt]
  cases node.get? names with
  | none => simp
  | some n => cases n <;> simp

/-! ## Putting a file in a place -/

theorem lookup_cons (e : String × FileNode) (entries : List (String × FileNode)) (x : String) :
    lookup (e :: entries) x = if e.1 = x then some e.2 else lookup entries x := by
  by_cases h : e.1 = x
  · simp [lookup, h]
  · have hb : (e.1 == x) = false := by simpa using h
    rw [lookup, List.find?_cons, hb, if_neg h]
    rfl

/-- The entry of a name after the nodes of one name are changed. -/
theorem lookup_map (entries : List (String × FileNode)) (name x : String)
    (g : FileNode → FileNode) :
    lookup (entries.map fun e => if e.1 == name then (e.1, g e.2) else e) x =
      if x = name then (lookup entries name).map g else lookup entries x := by
  induction entries with
  | nil => simp [lookup]
  | cons e entries ih =>
    rw [List.map_cons, lookup_cons, lookup_cons, lookup_cons, ih]
    by_cases he : e.1 = name
    · by_cases hx : x = name
      · simp [he, hx]
      · simp [he, hx, Ne.symm hx]
    · by_cases hx : x = name
      · simp [he, hx]
      · simp [he, hx]

/-- The entries of a directory in which a node is put below a name. -/
theorem exists_set_directory (new : FileNode) (entries : List (String × FileNode))
    (limits : DirectoryLimits) (name : String) (names : List String) :
    ∃ entries', set new (name :: names) (.directory entries limits) = .directory entries' limits ∧
      ∀ x, lookup entries' x =
        if x = name then some (set new names ((lookup entries name).getD (.directory [])))
        else lookup entries x := by
  cases h : lookup entries name with
  | some child =>
    refine ⟨_, by rw [set, h], fun x => ?_⟩
    rw [lookup_map, h]
    rfl
  | none =>
    refine ⟨_, by rw [set, h], fun x => ?_⟩
    by_cases hx : x = name
    · subst hx
      have hfind : entries.find? (fun e => e.1 == x) = none := by
        simpa [lookup] using h
      simp [lookup, List.find?_append, hfind]
    · have hne : ¬name = x := fun h => hx h.symm
      simp [lookup, List.find?_append, hx, hne]

/-- A file can be put in a place: the names before the last one lead to a directory, and the place
itself is no directory. -/
inductive Admits : FileNode → List String → Prop
  | here {entries : List (String × FileNode)} {limits : DirectoryLimits} {name : String}
      (h : ∀ es l, lookup entries name ≠ some (.directory es l)) :
      Admits (.directory entries limits) [name]
  | inside {entries : List (String × FileNode)} {limits : DirectoryLimits} {name : String}
      {child : FileNode} {names : List String} (hc : lookup entries name = some child)
      (h : child.Admits names) : Admits (.directory entries limits) (name :: names)

variable {node : FileNode} {content : ByteArray} {fileLimits : FileLimits} {q : List String}

/-- A file can be put below a directory where there is no directory of that name. -/
theorem admits_append (hdir : node.get? names = some (.directory entries limits))
    (h : ∀ es l, lookup entries name ≠ some (.directory es l)) :
    node.Admits (names ++ [name]) := by
  induction names generalizing node with
  | nil =>
    cases hdir
    exact Admits.here h
  | cons x names ih =>
    cases node with
    | file => cases hdir
    | directory es l =>
      obtain ⟨child, hc, hchild⟩ := Option.bind_eq_some_iff.mp hdir
      exact Admits.inside hc (ih hchild)

/-- Where a file is put, there is the file. -/
theorem fileAt_set_self (content : ByteArray) (fileLimits : FileLimits) (h : node.Admits names) :
    (set (.file content fileLimits) names node).fileAt names = some (content, fileLimits) := by
  induction h with
  | @here entries limits name _ =>
    obtain ⟨es, hset, hes⟩ :=
      exists_set_directory (.file content fileLimits) entries limits name []
    rw [hset, fileAt_directory_cons, hes, if_pos rfl]
    rfl
  | @inside entries limits name child names hc _ ih =>
    obtain ⟨es, hset, hes⟩ :=
      exists_set_directory (.file content fileLimits) entries limits name names
    rw [hset, fileAt_directory_cons, hes, if_pos rfl, hc]
    exact ih

/-- No other file changes, appears or disappears. -/
theorem fileAt_set_of_ne (h : node.Admits names) (hq : q ≠ names) :
    (set (.file content fileLimits) names node).fileAt q = node.fileAt q := by
  induction h generalizing q with
  | @here entries limits name h =>
    obtain ⟨es, hset, hes⟩ :=
      exists_set_directory (.file content fileLimits) entries limits name []
    rw [hset]
    rcases q with _ | ⟨x, q⟩
    · rfl
    · rw [fileAt_directory_cons, fileAt_directory_cons, hes]
      by_cases hx : x = name
      · subst hx
        obtain ⟨y, q, rfl⟩ : ∃ y ys, q = y :: ys := List.exists_cons_of_ne_nil (by simpa using hq)
        rw [if_pos rfl]
        -- below the new file there is nothing, and below the old one, if any, there was nothing
        cases hold : lookup entries x with
        | none => rfl
        | some old =>
          cases old with
          | file => rfl
          | directory es l => exact absurd hold (h es l)
      · rw [if_neg hx]
  | @inside entries limits name child names hc _ ih =>
    obtain ⟨es, hset, hes⟩ :=
      exists_set_directory (.file content fileLimits) entries limits name names
    rw [hset]
    rcases q with _ | ⟨x, q⟩
    · rfl
    · rw [fileAt_directory_cons, fileAt_directory_cons, hes]
      by_cases hx : x = name
      · subst hx
        rw [if_pos rfl, hc]
        exact ih (by simpa using hq)
      · rw [if_neg hx]

/-- No directory changes its limits, appears or disappears. -/
theorem directoryAt_set (content : ByteArray) (fileLimits : FileLimits) (h : node.Admits names) :
    (set (.file content fileLimits) names node).directoryAt q = node.directoryAt q := by
  induction h generalizing q with
  | @here entries limits name h =>
    obtain ⟨es, hset, hes⟩ :=
      exists_set_directory (.file content fileLimits) entries limits name []
    rw [hset]
    rcases q with _ | ⟨x, q⟩
    · rfl
    · rw [directoryAt_directory_cons, directoryAt_directory_cons, hes]
      by_cases hx : x = name
      · subst hx
        rw [if_pos rfl, Option.bind_some, set, directoryAt_file]
        cases hold : lookup entries x with
        | none => rfl
        | some old =>
          cases old with
          | file => exact (directoryAt_file _ _ _).symm
          | directory es l => exact absurd hold (h es l)
      · rw [if_neg hx]
  | @inside entries limits name child names hc _ ih =>
    obtain ⟨es, hset, hes⟩ :=
      exists_set_directory (.file content fileLimits) entries limits name names
    rw [hset]
    rcases q with _ | ⟨x, q⟩
    · rfl
    · rw [directoryAt_directory_cons, directoryAt_directory_cons, hes]
      by_cases hx : x = name
      · subst hx
        rw [if_pos rfl, hc]
        exact ih
      · rw [if_neg hx]

/-- Where something is, something stays when a file is put in a place. -/
theorem isSome_get?_set (content : ByteArray) (fileLimits : FileLimits) (h : node.Admits names)
    (hq : (node.get? q).isSome = true) :
    ((set (.file content fileLimits) names node).get? q).isSome = true := by
  rw [isSome_get?_iff] at *
  by_cases hne : q = names
  · subst hne
    rw [fileAt_set_self content fileLimits h]
    exact Or.inl rfl
  · rw [fileAt_set_of_ne h hne, directoryAt_set content fileLimits h]
    exact hq

end FileNode

namespace FileSystem

open FileNode

variable {fs : FileSystem} {path : String} {content : ByteArray}

/-! ## The place of a path -/

/-- What is known of a path for which a place is found: its last component is the name of a file in
a directory to which the components before it lead. -/
structure HasPlace (fs : FileSystem) (path : String) (parent : List String) (name : String) :
    Prop where
  fault : pathFault? path = none
  components : Path.components path = (Path.components path).dropLast ++ [name]
  walk : fs.walk (fs.start path) (Path.components path).dropLast = .ok parent
  plain : isPlainName name = true
  short : name.utf8ByteSize ≤ 255
  parent : ∃ entries limits, fs.root.get? parent.reverse = some (.directory entries limits) ∧
    limits.search = none ∧ ∀ es l, FileNode.lookup entries name ≠ some (.directory es l)

/-- The components of a path without the empty ones at its end are all of them, if there are as
many. -/
theorem trimmedComponents_eq
    (h : ¬(trimmedComponents path).length < (Path.components path).length) :
    trimmedComponents path = Path.components path := by
  have hprefix : trimmedComponents path <+: Path.components path := by
    rw [trimmedComponents, ← List.reverse_suffix, List.reverse_reverse]
    exact List.dropWhile_suffix _
  exact hprefix.eq_of_length_le (Nat.le_of_not_lt h)

/-- A name below which a file can be written. -/
theorem nameFault?_eq_none {limits : DirectoryLimits} {entries : List (String × FileNode)}
    {name : String} {slash : Bool} (h : nameFault? limits entries name slash = none) :
    limits.search = none ∧ isPlainName name = true ∧ slash = false ∧ name.utf8ByteSize ≤ 255 ∧
      ∀ es l, FileNode.lookup entries name ≠ some (.directory es l) := by
  rw [nameFault?] at h
  split at h
  · cases h
  next hsearch =>
    split_ifs at h with hname hlong
    rw [Bool.or_eq_true, not_or, Bool.not_eq_true', Bool.not_eq_false, Bool.not_eq_true] at hname
    refine ⟨hsearch, hname.1, hname.2, Nat.le_of_not_lt hlong, fun es l hentry => ?_⟩
    rw [hentry] at h
    cases h

theorem hasPlace_of_place {names : List String} (h : fs.place path = .ok names) :
    ∃ parent name, fs.HasPlace path parent name ∧ names = parent.reverse ++ [name] := by
  rw [place] at h
  split at h
  · cases h
  next hfault =>
    simp only at h
    split at h
    · cases h
    next parent hwalk =>
      split at h
      · cases h
      · cases h
      · cases h
      next entries limits name hdir hlast =>
        split at h
        · cases h
        next hname =>
          cases h
          obtain ⟨hsearch, hplain, hslash, hshort, hentry⟩ := nameFault?_eq_none hname
          rw [decide_eq_false_iff_not] at hslash
          rw [trimmedComponents_eq hslash] at hwalk hlast
          refine ⟨parent, name, ⟨hfault, ?_, hwalk, hplain, hshort, entries, limits, hdir, hsearch,
            hentry⟩, by simp⟩
          exact (List.dropLast_append_getLast? name hlast).symm

/-- The place of a path can hold a file. -/
theorem HasPlace.admits {parent : List String} {name : String}
    (h : fs.HasPlace path parent name) : fs.root.Admits (parent.reverse ++ [name]) := by
  obtain ⟨entries, limits, hdir, -, hentry⟩ := h.parent
  exact admits_append hdir hentry

/-- What a step from a directory comes to. -/
theorem walk_cons_of_directory {place : List String} {entries : List (String × FileNode)}
    {limits : DirectoryLimits}
    (hdir : fs.root.get? place.reverse = some (.directory entries limits)) (c : String)
    (cs : List String) :
    fs.walk place (c :: cs) =
      if c.isEmpty then fs.walk place cs
      else
        match limits.search with
        | some fault => .error fault
        | none =>
          if c = "." then fs.walk place cs
          else if c = ".." then fs.walk place.tail cs
          else if 255 < c.utf8ByteSize then .error .nameTooLong
          else
            match FileNode.lookup entries c with
            | none => .error .noEntry
            | some _ => fs.walk (c :: place) cs := by
  cases hsearch : limits.search <;> cases hlookup : FileNode.lookup entries c <;>
    simp only [walk, hdir, hsearch, hlookup]

/-- A way may be broken off anywhere and gone on from there. -/
theorem walk_append (place as bs : List String) :
    fs.walk place (as ++ bs) = (fs.walk place as).bind fun p => fs.walk p bs := by
  induction as generalizing place with
  | nil => simp [walk, Except.bind]
  | cons a as ih =>
    rw [List.cons_append]
    cases hnode : fs.root.get? place.reverse with
    | none => simp [walk, hnode, Except.bind]
    | some node =>
      cases node with
      | file content limits => simp [walk, hnode, Except.bind]
      | directory entries limits =>
        rw [walk_cons_of_directory hnode, walk_cons_of_directory hnode]
        cases limits.search with
        | some fault =>
          simp only
          split_ifs
          · exact ih place
          · rfl
        | none =>
          simp only
          split_ifs
          · exact ih place
          · exact ih place
          · exact ih place.tail
          · rfl
          · cases FileNode.lookup entries a with
            | none => rfl
            | some child => exact ih (a :: place)

/-- A step to something that is there. -/
theorem walk_cons_of_entry {place : List String} {c : String} {cs : List String}
    {entries : List (String × FileNode)} {limits : DirectoryLimits} {child : FileNode}
    (hdir : fs.root.get? place.reverse = some (.directory entries limits))
    (hsearch : limits.search = none) (hplain : isPlainName c = true)
    (hshort : c.utf8ByteSize ≤ 255) (hentry : FileNode.lookup entries c = some child) :
    fs.walk place (c :: cs) = fs.walk (c :: place) cs := by
  simp only [isPlainName, Bool.and_eq_true, Bool.not_eq_true', bne_iff_ne] at hplain
  obtain ⟨⟨hempty, hdot⟩, hdots⟩ := hplain
  rw [walk_cons_of_directory hdir]
  simp [hempty, hsearch, hdot, hdots, Nat.not_lt.mpr hshort, hentry]

/-- The directories are the same after a file is put in a place. -/
theorem exists_directory_put (content : ByteArray) {names q : List String}
    {entries : List (String × FileNode)} {limits : DirectoryLimits} (h : fs.root.Admits names)
    (hdir : fs.root.get? q = some (.directory entries limits)) :
    ∃ entries', (fs.put names content).root.get? q = some (.directory entries' limits) := by
  rw [← directoryAt_eq_some_iff, put, directoryAt_set content _ h, directoryAt_eq_some_iff]
  exact ⟨entries, hdir⟩

/-- The way to a place leads there also when a file was put somewhere. -/
theorem walk_put {names place q cs : List String} (h : fs.root.Admits names)
    (hw : fs.walk place cs = .ok q) : (fs.put names content).walk place cs = .ok q := by
  induction cs generalizing place with
  | nil => simpa [walk] using hw
  | cons c cs ih =>
    obtain ⟨entries, limits, hdir⟩ :
        ∃ entries limits, fs.root.get? place.reverse = some (.directory entries limits) := by
      rw [walk] at hw
      split at hw
      · next entries limits hdir => exact ⟨entries, limits, hdir⟩
      · cases hw
      · cases hw
    obtain ⟨entries', hdir'⟩ := exists_directory_put content h hdir
    rw [walk_cons_of_directory hdir] at hw
    rw [walk_cons_of_directory hdir']
    cases hsearch : limits.search with
    | some fault =>
      simp only [hsearch] at hw ⊢
      split_ifs at hw ⊢
      exact ih hw
    | none =>
      simp only [hsearch] at hw ⊢
      split_ifs at hw ⊢
      · exact ih hw
      · exact ih hw
      · exact ih hw
      · cases hchild : FileNode.lookup entries c with
        | none =>
          rw [hchild] at hw
          cases hw
        | some child =>
          have hsome : (fs.root.get? (place.reverse ++ [c])).isSome = true := by
            simp [get?_append, hdir, get?, hchild]
          have hsome' : ((fs.put names content).root.get? (place.reverse ++ [c])).isSome = true :=
            isSome_get?_set content _ h hsome
          rw [get?_append, hdir', Option.bind_some, get?] at hsome'
          rw [hchild] at hw
          cases hchild' : FileNode.lookup entries' c with
          | none =>
            rw [hchild'] at hsome'
            cases hsome'
          | some child' => exact ih hw

/-- **A path leads to what was written to it.** The path for which a place was found leads to the
file that was put there.

**Proof sketch.** The components before the last one lead to the same directory as before, since no
directory has changed its place. There the last component is now the name of the file. -/
theorem node_put_of_place (content : ByteArray) {names : List String}
    (h : fs.place path = .ok names) :
    (fs.put names content).node path = .ok (.file content (fs.limitsAt names)) := by
  obtain ⟨parent, name, hplace, rfl⟩ := hasPlace_of_place h
  obtain ⟨entries, limits, hdir, hsearch, -⟩ := hplace.parent
  have hadmits := hplace.admits
  obtain ⟨entries', hdir'⟩ := exists_directory_put content hadmits hdir
  have hget := fileAt_eq_some_iff.mp
    (fileAt_set_self content (fs.limitsAt (parent.reverse ++ [name])) hadmits)
  change (fs.put (parent.reverse ++ [name]) content).root.get? (parent.reverse ++ [name]) = _
    at hget
  have hentry : FileNode.lookup entries' name =
      some (.file content (fs.limitsAt (parent.reverse ++ [name]))) := by
    have := hget
    rw [get?_append, hdir', Option.bind_some, get?] at this
    simpa [get?] using this
  have hwalk : (fs.put (parent.reverse ++ [name]) content).walk
      (fs.start path) (Path.components path) = .ok (name :: parent) := by
    rw [hplace.components, walk_append, walk_put hadmits hplace.walk]
    change (fs.put _ content).walk parent [name] = _
    rw [walk_cons_of_entry hdir' hsearch hplace.plain hplace.short hentry]
    simp [walk]
  have hlocate : (fs.put (parent.reverse ++ [name]) content).locate path =
      .ok (parent.reverse ++ [name]) := by
    rw [locate, hplace.fault]
    change ((fs.put _ content).walk (fs.start path) _).map List.reverse = _
    rw [hwalk]
    simp [Except.map]
  rw [node, hlocate]
  simp only [hget]

/-- One file system differs from another in the file of a path alone: the path leads to a file with
some content, which is read there if the file can be read; all other files are as they were, and so
are all directories, and nothing has other limits than before. -/
structure DiffersAt (fs : FileSystem) (path : String) (content : ByteArray) (fs' : FileSystem) :
    Prop where
  file : ∃ names, fs.place path = .ok names ∧
    fs'.node path = .ok (.file content (fs.limitsAt names)) ∧
    ((fs.limitsAt names).read = none → fs'.read path = .ok content) ∧
    fs'.root.fileAt names = some (content, fs.limitsAt names) ∧
    ∀ q, q ≠ names → fs'.root.fileAt q = fs.root.fileAt q
  directories : ∀ q, fs'.root.directoryAt q = fs.root.directoryAt q
  current : fs'.current = fs.current

/-- Putting a file in the place of a path changes nothing else. -/
theorem differsAt_put {names : List String} (h : fs.place path = .ok names) :
    fs.DiffersAt path content (fs.put names content) := by
  have hadmits : fs.root.Admits names := by
    obtain ⟨parent, name, hplace, rfl⟩ := hasPlace_of_place h
    exact hplace.admits
  have hnode := node_put_of_place content h
  have hread : (fs.limitsAt names).read = none →
      (fs.put names content).read path = .ok content := by
    intro hreadable
    rw [read, hnode]
    simp only [FileLimits.reading, hreadable]
  exact
    { file := ⟨names, h, hnode, hread, fileAt_set_self _ _ hadmits,
        fun _ hq => fileAt_set_of_ne hadmits hq⟩
      directories := fun _ => directoryAt_set _ _ hadmits
      current := rfl }

end FileSystem

end NullLint
