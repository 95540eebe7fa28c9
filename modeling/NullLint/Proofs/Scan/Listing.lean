import NullLint.Proofs.FileSystem.Path
import NullLint.Proofs.Matching
import NullLint.Proofs.Scan.Load
import NullLint.Proofs.Text.Bytes

set_option autoImplicit false
set_option relaxedAutoImplicit false

/-!
# The files below a path

A scan of a directory comes to all files below it, each once, in the order of the lists of names
that lead to them, and to the directories that cannot be listed. This order does not depend on the
order in which the directories list their entries, and it is not that of the paths as texts: a slash
comes after some characters of names.

## Main definitions

* `FileNode.IsTree` — the names of the entries of each directory are different names.
* `Scan.Finds` — what a scan finds below a path, by the names that lead to it.
* `Scan.Precedes` — the order of lists of names.
* `Scan.filesIn` — what is below a path, with the names that lead to it.

## Main results

* `Scan.itemsIn_eq` — the scan comes to what is below the path.
* `Scan.mem_filesIn_iff` — that is what a scan finds.
* `Scan.pairwise_filesIn` — it is in the order of the names, without repetitions.
* `Scan.isDumpPath_pathTo_iff` — the last name says whether a file is a dump.
-/

namespace NullLint

namespace FileNode

/-- Whatever holds of files, and of a directory if it holds of all its entries, holds of every node
of a file system. -/
@[induction_eliminator]
theorem induction {P : FileNode → Prop} (file : ∀ content limits, P (.file content limits))
    (directory : ∀ entries limits, (∀ e ∈ entries, P e.2) → P (.directory entries limits)) :
    ∀ node, P node
  | .file content limits => file content limits
  | .directory entries limits => directory entries limits fun e _ => induction file directory e.2
termination_by node => sizeOf node
decreasing_by
  have := List.sizeOf_lt_of_mem ‹e ∈ entries›
  obtain ⟨name, node⟩ := e
  simp only [Prod.mk.sizeOf_spec] at this
  simp only [FileNode.directory.sizeOf_spec]
  omega

/-- The name of an entry of a directory: it is not empty, it does not stand for the directory itself
or for the one above it, and there is no slash in it. -/
def IsEntryName (name : String) : Prop :=
  FileSystem.isPlainName name = true ∧ '/' ∉ name.toList

instance (name : String) : Decidable (IsEntryName name) :=
  inferInstanceAs (Decidable (FileSystem.isPlainName name = true ∧ '/' ∉ name.toList))

/-- In each directory the entries have different names. -/
inductive IsTree : FileNode → Prop
  | file (content : ByteArray) (limits : FileSystem.FileLimits) : IsTree (.file content limits)
  | directory (entries : List (String × FileNode)) (limits : FileSystem.DirectoryLimits)
      (hnodup : (entries.map Prod.fst).Nodup) (hnames : ∀ e ∈ entries, IsEntryName e.1)
      (h : ∀ e ∈ entries, e.2.IsTree) : IsTree (.directory entries limits)

theorem isTree_directory_iff {entries : List (String × FileNode)}
    {limits : FileSystem.DirectoryLimits} : (directory entries limits).IsTree ↔
      (entries.map Prod.fst).Nodup ∧ ∀ e ∈ entries, IsEntryName e.1 ∧ e.2.IsTree := by
  constructor
  · intro h
    cases h with
    | directory _ _ hnodup hnames h => exact ⟨hnodup, fun e he => ⟨hnames e he, h e he⟩⟩
  · rintro ⟨hnodup, h⟩
    exact IsTree.directory entries limits hnodup (fun e he => (h e he).1) fun e he => (h e he).2

end FileNode

namespace Scan

/-- What a scan comes to where it finds something. -/
def itemOf (path : String) : Found → Item
  | .file content => itemAt path content
  | .closed fault => .closed path fault

/-- The path to which names lead from a path. -/
def pathTo (base : String) (names : List String) : String :=
  names.foldl Path.join base

/-- Why something cannot be looked up: its path is too long, or it is in a directory that is closed
to lookups for the reason `barred`. -/
inductive IsLost (path : String) (barred : Option FileSystem.Fault) : FileSystem.Fault → Prop
  | tooLong (h : 4096 ≤ path.utf8ByteSize) : IsLost path barred .nameTooLong
  | barred {fault : FileSystem.Fault} (hshort : path.utf8ByteSize < 4096)
      (h : barred = some fault) : IsLost path barred fault

/-- What a scan finds below the path `path`, at which the node `node` is. A file is found with what
reading it comes to. A directory is entered if its entries can be listed. But whatever cannot be
looked up counts as a file that cannot be read. -/
inductive Finds : String → Option FileSystem.Fault → FileNode → List String → Found → Prop
  | lost {path : String} {barred : Option FileSystem.Fault} {node : FileNode}
      {fault : FileSystem.Fault} (h : IsLost path barred fault) :
    Finds path barred node [] (.file (.error fault))
  | readable {path : String} {barred : Option FileSystem.Fault} {content : ByteArray}
      {limits : FileSystem.FileLimits} (hlookup : ∀ fault, ¬IsLost path barred fault)
      (h : limits.read = none) :
    Finds path barred (.file content limits) [] (.file (.ok content))
  | unreadable {path : String} {barred : Option FileSystem.Fault} {content : ByteArray}
      {limits : FileSystem.FileLimits} {fault : FileSystem.Fault}
      (hlookup : ∀ fault, ¬IsLost path barred fault) (h : limits.read = some fault) :
    Finds path barred (.file content limits) [] (.file (.error fault))
  | closed {path : String} {barred : Option FileSystem.Fault} {entries : List (String × FileNode)}
      {limits : FileSystem.DirectoryLimits} {fault : FileSystem.ListFault}
      (hlookup : ∀ fault, ¬IsLost path barred fault) (h : limits.list = some fault) :
    Finds path barred (.directory entries limits) [] (.closed fault)
  | inside {path : String} {barred : Option FileSystem.Fault} {entries : List (String × FileNode)}
      {limits : FileSystem.DirectoryLimits} {name : String} {node : FileNode} {names : List String}
      {found : Found} (hlookup : ∀ fault, ¬IsLost path barred fault) (hlist : limits.list = none)
      (he : (name, node) ∈ entries)
      (h : Finds (Path.join path name) limits.search node names found) :
    Finds path barred (.directory entries limits) (name :: names) found

/-- The lexicographic order of lists of names, which are compared by their bytes. -/
def Precedes (names names' : List String) : Prop :=
  List.Lex (fun a b => Text.bytes a < Text.bytes b) names names'

/-! ## All files below a path -/

mutual

/-- What is found below a path, in the order of the names that lead to it. -/
def filesIn (path : String) (barred : Option FileSystem.Fault) :
    FileNode → List (List String × Found)
  | .file content limits =>
    match lookupFault? path barred with
    | some fault => [([], .file (.error fault))]
    | none => [([], .file (limits.reading content))]
  | .directory entries limits =>
    match lookupFault? path barred, limits.list with
    | some fault, _ => [([], .file (.error fault))]
    | none, some fault => [([], .closed fault)]
    | none, none =>
      (inOrder (filesOf path limits.search entries)).flatMap fun e =>
        e.2.map fun f => (e.1 :: f.1, f.2)

/-- The entries of a directory, each with what is found below it. -/
def filesOf (path : String) (barred : Option FileSystem.Fault) :
    List (String × FileNode) → List (String × List (List String × Found))
  | [] => []
  | (name, node) :: entries =>
    (name, filesIn (Path.join path name) barred node) :: filesOf path barred entries

end

theorem filesOf_eq_map (path : String) (barred : Option FileSystem.Fault)
    (entries : List (String × FileNode)) :
    filesOf path barred entries =
      entries.map fun e => (e.1, filesIn (Path.join path e.1) barred e.2) := by
  induction entries with
  | nil => rfl
  | cons e entries ih => rw [filesOf, ih, List.map_cons]

theorem itemsOf_eq_map (path : String) (barred : Option FileSystem.Fault)
    (entries : List (String × FileNode)) :
    itemsOf path barred entries =
      entries.map fun e => (Path.join path e.1, itemsIn (Path.join path e.1) barred e.2) := by
  induction entries with
  | nil => rfl
  | cons e entries ih => rw [itemsOf, ih, List.map_cons]

theorem lookupFault?_eq_some_iff {path : String} {barred : Option FileSystem.Fault}
    {fault : FileSystem.Fault} :
    lookupFault? path barred = some fault ↔ IsLost path barred fault := by
  rw [lookupFault?, Path.isTooLong]
  split
  · next hlong =>
    rw [decide_eq_true_eq] at hlong
    constructor
    · rintro ⟨⟩
      exact IsLost.tooLong hlong
    · intro h
      cases h with
      | tooLong => rfl
      | barred hshort => omega
  · next hshort =>
    rw [decide_eq_true_eq, not_le] at hshort
    constructor
    · exact fun h => IsLost.barred hshort h
    · intro h
      cases h with
      | tooLong => omega
      | barred _ h => exact h

theorem lookupFault?_eq_none_iff {path : String} {barred : Option FileSystem.Fault} :
    lookupFault? path barred = none ↔ ∀ fault, ¬IsLost path barred fault := by
  simp only [← lookupFault?_eq_some_iff]
  exact Option.eq_none_iff_forall_ne_some

theorem mem_inOrder_iff {α : Type} {found : List (String × α)} {x : String × α} :
    x ∈ inOrder found ↔ x ∈ found :=
  (List.mergeSort_perm found _).mem_iff

/-- Things in a directory may be sorted by their names instead of their paths. -/
theorem inOrder_map_join {α β : Type} (path : String) (g : String × α → β)
    (found : List (String × α)) :
    inOrder (found.map fun x => (Path.join path x.1, g x)) =
      (inOrder found).map fun x => (Path.join path x.1, g x) := by
  refine (List.map_mergeSort fun x _ y _ => ?_).symm
  rw [decide_eq_decide]
  exact Path.join_le_join_iff.symm

/-- The scan comes to what is found below the path. -/
theorem itemsIn_eq (path : String) (barred : Option FileSystem.Fault) (node : FileNode) :
    itemsIn path barred node =
      (filesIn path barred node).map fun f => itemOf (pathTo path f.1) f.2 := by
  induction node generalizing path barred with
  | file content limits =>
    rw [itemsIn, filesIn]
    cases lookupFault? path barred <;> rfl
  | directory entries limits ih =>
    -- The scan sorts paths, the listing names; that is the same order below one directory.
    have hitems : itemsOf path limits.search entries =
        (filesOf path limits.search entries).map fun e =>
          (Path.join path e.1, e.2.map fun f => itemOf (pathTo (Path.join path e.1) f.1) f.2) := by
      rw [itemsOf_eq_map, filesOf_eq_map, List.map_map]
      refine List.map_congr_left fun e he => ?_
      rw [ih e he]
      rfl
    rw [itemsIn, filesIn, hitems, inOrder_map_join, List.flatMap_map]
    cases lookupFault? path barred with
    | some fault => rfl
    | none =>
      cases limits.list with
      | some fault => rfl
      | none =>
        rw [List.map_flatMap]
        refine List.flatMap_congr fun e _ => ?_
        rw [List.map_map]
        rfl

/-- What cannot be looked up is found as a file that cannot be read, whatever it is. -/
theorem finds_iff_of_isLost {path : String} {barred : Option FileSystem.Fault} {node : FileNode}
    {names : List String} {found : Found} {fault : FileSystem.Fault}
    (h : IsLost path barred fault) :
    Finds path barred node names found ↔ names = [] ∧ found = .file (.error fault) := by
  constructor
  · intro hf
    cases hf with
    | lost h' =>
      rw [← lookupFault?_eq_some_iff] at h h'
      obtain rfl := Option.some.inj (h.symm.trans h')
      exact ⟨rfl, rfl⟩
    | readable hlookup => exact absurd h (hlookup _)
    | unreadable hlookup => exact absurd h (hlookup _)
    | closed hlookup => exact absurd h (hlookup _)
    | inside hlookup => exact absurd h (hlookup _)
  · rintro ⟨rfl, rfl⟩
    exact Finds.lost h

/-- Whatever has a path that is short enough can be looked up, if nothing is in its way. -/
theorem not_isLost {path : String} (h : path.utf8ByteSize < 4096) (fault : FileSystem.Fault) :
    ¬IsLost path none fault := by
  intro hlost
  cases hlost with
  | tooLong hlong => omega
  | barred _ h => cases h

/-- What is below a path is what a scan finds there.

**Proof sketch.** Induction on the tree, by whether it can be looked up and then by whether the file
can be read or the directory can be listed. Each case is one constructor of `Finds`. -/
theorem mem_filesIn_iff {path : String} {barred : Option FileSystem.Fault} {node : FileNode}
    {names : List String} {found : Found} :
    (names, found) ∈ filesIn path barred node ↔ Finds path barred node names found := by
  induction node generalizing path barred names found with
  | file bytes limits =>
    rw [filesIn]
    cases hlookup : lookupFault? path barred with
    | some fault =>
      rw [finds_iff_of_isLost (lookupFault?_eq_some_iff.mp hlookup), List.mem_singleton,
        Prod.mk.injEq]
    | none =>
      rw [lookupFault?_eq_none_iff] at hlookup
      rw [List.mem_singleton, Prod.mk.injEq, FileSystem.FileLimits.reading]
      constructor
      · rintro ⟨rfl, rfl⟩
        cases hread : limits.read with
        | some fault => exact Finds.unreadable hlookup hread
        | none => exact Finds.readable hlookup hread
      · intro h
        cases h with
        | lost h => exact absurd h (hlookup _)
        | readable _ h => exact ⟨rfl, by rw [h]⟩
        | unreadable _ h => exact ⟨rfl, by rw [h]⟩
  | directory entries limits ih =>
    rw [filesIn]
    cases hlookup : lookupFault? path barred with
    | some fault =>
      rw [finds_iff_of_isLost (lookupFault?_eq_some_iff.mp hlookup), List.mem_singleton,
        Prod.mk.injEq]
    | none =>
      rw [lookupFault?_eq_none_iff] at hlookup
      cases hlist : limits.list with
      | some fault =>
        rw [List.mem_singleton, Prod.mk.injEq]
        constructor
        · rintro ⟨rfl, rfl⟩
          exact Finds.closed hlookup hlist
        · intro h
          cases h with
          | lost h => exact absurd h (hlookup _)
          | closed _ h => exact ⟨rfl, by rw [Option.some.inj (hlist.symm.trans h)]⟩
          | inside _ h => exact absurd (hlist.symm.trans h) (by simp)
      | none =>
        simp only [List.mem_flatMap, mem_inOrder_iff, filesOf_eq_map, List.mem_map]
        constructor
        · rintro ⟨-, ⟨e, he, rfl⟩, f, hf, hnames⟩
          obtain ⟨rfl, rfl⟩ := Prod.mk.inj hnames
          exact Finds.inside hlookup hlist he ((ih e he).mp hf)
        · intro h
          cases h with
          | lost h => exact absurd h (hlookup _)
          | closed _ h => exact absurd (hlist.symm.trans h) (by simp)
          | @inside _ _ _ _ name node names _ _ _ he hf =>
            exact ⟨_, ⟨(name, node), he, rfl⟩, (names, found), (ih (name, node) he).mpr hf, rfl⟩

/-- Things with different names are in strict order after they are sorted. -/
theorem pairwise_inOrder {α : Type} {found : List (String × α)}
    (h : (found.map Prod.fst).Nodup) : (inOrder found).Pairwise fun x y => x.1 < y.1 :=
  pairwise_lt_mergeSort h

/-- What is below a path is in the order of the names that lead to it, without repetitions.

**Proof sketch.** Induction on the tree. Files below one entry have the same first name, and what
follows it is in order. Files below different entries are in the order of their first names, which
is that of the bytes. -/
theorem pairwise_filesIn {node : FileNode} (h : node.IsTree) (path : String)
    (barred : Option FileSystem.Fault) :
    (filesIn path barred node).Pairwise fun f g => Precedes f.1 g.1 := by
  induction h generalizing path barred with
  | file content limits =>
    rw [filesIn]
    split <;> exact List.pairwise_singleton _ _
  | directory entries limits hnodup _ _ ih =>
    rw [filesIn]
    split
    · exact List.pairwise_singleton _ _
    · exact List.pairwise_singleton _ _
    · rw [List.pairwise_flatMap]
      constructor
      · -- Two files below the same entry.
        intro e he
        rw [mem_inOrder_iff, filesOf_eq_map, List.mem_map] at he
        obtain ⟨entry, hentry, rfl⟩ := he
        rw [List.pairwise_map]
        exact (ih entry hentry (Path.join path entry.1) limits.search).imp fun hfg =>
          List.Lex.cons hfg
      · -- Two files below different entries.
        have hfst : ((filesOf path limits.search entries).map Prod.fst).Nodup := by
          rw [filesOf_eq_map, List.map_map]
          exact hnodup
        refine (pairwise_inOrder hfst).imp fun {x y} hxy => ?_
        intro f hf g hg
        obtain ⟨f, -, rfl⟩ := List.mem_map.mp hf
        obtain ⟨g, -, rfl⟩ := List.mem_map.mp hg
        exact List.Lex.rel (Text.bytes_lt_bytes_iff.mpr hxy)

/-! ## Which files are dumps -/

/-- The last one of some names is that of a dump. -/
def EndsInDump (names : List String) : Prop :=
  ∃ name, names.getLast? = some name ∧ Path.HasExtension name "json"

/-- All names that lead to something are names of entries. -/
theorem Finds.isEntryName {path : String} {barred : Option FileSystem.Fault} {node : FileNode}
    {names : List String} {found : Found} (h : Finds path barred node names found)
    (ht : node.IsTree) : ∀ name ∈ names, FileNode.IsEntryName name := by
  induction h with
  | lost | readable | unreadable | closed => exact fun name hname => absurd hname List.not_mem_nil
  | @inside path barred entries limits name node names found _ _ he _ ih =>
    cases ht with
    | directory _ _ _ hnames htrees =>
      exact List.forall_mem_cons.mpr ⟨hnames _ he, ih (htrees _ he)⟩

/-- The path of an entry is that of a dump if its name is. -/
theorem isDumpPath_join_iff {name : String} (base : String) (h : FileNode.IsEntryName name) :
    isDumpPath (Path.join base name) = true ↔ Path.HasExtension name "json" := by
  rw [isDumpPath, beq_iff_eq, Path.extension?, Path.fileName?_join base h.1 h.2, Option.bind_some,
    Path.extensionOf_eq_some_iff]
  exact and_iff_right (by decide)

/-- The last name says whether a file is a dump. -/
theorem isDumpPath_pathTo_iff {base : String} {names : List String} (hne : names ≠ [])
    (h : ∀ name ∈ names, FileNode.IsEntryName name) :
    isDumpPath (pathTo base names) = true ↔ EndsInDump names := by
  obtain ⟨before, name, rfl⟩ := (List.eq_nil_or_concat' names).resolve_left hne
  have hpath : pathTo base (before ++ [name]) = Path.join (pathTo base before) name := by
    rw [pathTo, List.foldl_append]
    rfl
  rw [hpath, isDumpPath_join_iff _ (h name (by simp)), EndsInDump, List.getLast?_concat]
  simp

end Scan

end NullLint
