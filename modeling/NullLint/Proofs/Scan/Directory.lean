import Mathlib.Data.List.Lex
import NullLint.Proofs.FileSystem.Put
import NullLint.Proofs.Scan.Listing
import NullLint.Proofs.Scan.Location

set_option autoImplicit false
set_option relaxedAutoImplicit false

/-!
# Scanning a directory

What a scan of a directory comes to is decided by the dumps below it and by the directories there
that cannot be listed: which names lead to them and what is in the dumps. It succeeds if each
directory can be listed and each dump can be loaded, and then it has the trees and the files of the
dumps, in the order of their names. Otherwise it fails for the first of all of them that stands in
the way, and has nothing.

## Main definitions

* `Scan.IsListing` — the dumps below a directory and the directories that cannot be listed, in the
  order of their names.
* `Scan.Output.Holds` — the trees and the files of some dumps.

## Main results

* `Scan.isListing_iff` — a directory has one listing.
* `Scan.scan_directory` — **what a scan of a directory comes to**.
* `Scan.scan_long_directory` — a directory with a path that is too long is passed over, and an empty
  one that cannot be listed is not.

## Design

A path of 4096 bytes or more cannot be looked up, and in a directory that is closed to lookups
nothing can be. So a file with such a path cannot be read, and a directory with such a path cannot
be told from a file. The scan takes it for one: it is an unreadable dump if it is called like one,
and otherwise it is passed over with all that is in it.
-/

namespace NullLint.Scan

open Syntax
open FileSystem (DirectoryLimits)

/-! ## Listings -/

/-- What a scan of a directory has to get past: all dumps that it finds, which are the files whose
last name is that of a dump, and all directories that cannot be listed. They are in the order of the
names that lead to them, each once. -/
structure IsListing (input : String) (node : FileNode) (trials : List (List String × Found)) :
    Prop where
  complete : ∀ names found, (names, found) ∈ trials ↔ Finds input none node names found ∧
    (EndsInDump names ∨ ∃ fault, found = .closed fault)
  ordered : trials.Pairwise fun s t => Precedes s.1 t.1

/-- Whether a scan has to get past what is found at a path. -/
def isTrial (path : String) : Found → Bool
  | .file _ => isDumpPath path
  | .closed _ => true

/-- What a scan has to get past below a path. -/
def trialsIn (path : String) (barred : Option FileSystem.Fault) (node : FileNode) :
    List (List String × Found) :=
  (filesIn path barred node).filter fun f => isTrial (pathTo path f.1) f.2

variable {input : String} {entries : List (String × FileNode)} {limits : DirectoryLimits}

/-- What is found below a directory that can be looked up has a name, unless it is that directory
itself. -/
theorem Finds.ne_nil {names : List String} {content : Content}
    (hshort : input.utf8ByteSize < 4096)
    (h : Finds input none (.directory entries limits) names (.file content)) : names ≠ [] := by
  cases h with
  | lost h =>
    cases h with
    | tooLong h => omega
    | barred _ h => cases h
  | inside => exact List.cons_ne_nil _ _

/-- What a scan has to get past below a directory is a listing. -/
theorem isListing_trialsIn (hshort : input.utf8ByteSize < 4096)
    (htree : (FileNode.directory entries limits).IsTree) :
    IsListing input (.directory entries limits)
      (trialsIn input none (.directory entries limits)) := by
  refine ⟨fun names found => ?_, (pairwise_filesIn htree input none).filter _⟩
  rw [trialsIn, List.mem_filter, mem_filesIn_iff]
  refine and_congr_right fun h => ?_
  cases found with
  | file content =>
    simpa [isTrial] using isDumpPath_pathTo_iff (h.ne_nil hshort) (h.isEntryName htree)
  | closed fault => simp [isTrial]

/-- Of two lists of names at most one precedes the other. -/
theorem Precedes.asymm {names names' : List String} (h : Precedes names names') :
    ¬Precedes names' names := by
  have hbytes : Std.Asymm fun a b : String => Text.bytes a < Text.bytes b :=
    ⟨fun _ _ hab hba => List.lt_asymm hab hba⟩
  exact (List.Lex.asymm fun a b : String => Text.bytes a < Text.bytes b).asymm _ _ h

/-- Nothing is listed twice. -/
theorem IsListing.nodup {node : FileNode} {trials : List (List String × Found)}
    (h : IsListing input node trials) : trials.Nodup := by
  refine h.ordered.imp ?_
  rintro s t hst rfl
  exact hst.asymm hst

/-- A directory has one listing.

**Proof sketch.** Two listings have the same members, each once, and are in the same strict
order. -/
theorem isListing_iff (hshort : input.utf8ByteSize < 4096)
    (htree : (FileNode.directory entries limits).IsTree) {trials : List (List String × Found)} :
    IsListing input (.directory entries limits) trials ↔
      trials = trialsIn input none (.directory entries limits) := by
  have hlisting := isListing_trialsIn hshort htree
  constructor
  · intro h
    have hperm : trials.Perm (trialsIn input none (.directory entries limits)) := by
      rw [List.perm_ext_iff_of_nodup h.nodup hlisting.nodup]
      rintro ⟨names, found⟩
      rw [h.complete, hlisting.complete]
    exact hperm.eq_of_pairwise (fun s t _ _ hst hts => absurd hts hst.asymm) h.ordered
      hlisting.ordered
  · rintro rfl
    exact hlisting

/-! ## Scans -/

/-- What stands in the way of a scan of a directory. -/
theorem trialsOf_itemsIn (path : String) (barred : Option FileSystem.Fault) (node : FileNode) :
    trialsOf (itemsIn path barred node) =
      (trialsIn path barred node).map fun f => (pathTo path f.1, f.2) := by
  rw [itemsIn_eq, trialsOf, trialsIn, List.filterMap_map, ← List.filterMap_eq_map,
    List.filterMap_filter]
  refine List.filterMap_congr fun ⟨names, found⟩ _ => ?_
  cases found with
  | closed fault => rfl
  | file content =>
    rw [Function.comp_apply, itemOf, itemAt, isTrial]
    by_cases hdump : isDumpPath (pathTo path names) = true
    · rw [if_pos hdump, if_pos hdump]
      rfl
    · rw [if_neg hdump, if_neg hdump]

/-- A scan of a directory loads what it has to get past. -/
theorem loadAll_directory {fs : FileSystem}
    (hnode : fs.node input = .ok (.directory entries limits)) :
    loadAll fs input = (trialsIn input none (.directory entries limits)).mapM fun t =>
      loadFound (pathTo input t.1) t.2 := by
  have hitems : items fs input = .ok (itemsIn input none (.directory entries limits)) := by
    rw [items, hnode]
  rw [loadAll_eq_of_items hitems, trialsOf_itemsIn, List.mapM_map]
  rfl

/-- The trees and the files of some dumps. Each tree has the index of its file, and each file has
the length of the dump and its location: the source path of the tree, or the place of the dump if
that path is empty. -/
structure Output.Holds (output : Output) (fs : FileSystem) (input : String)
    (dumps : List (List String × Found)) : Prop where
  units : output.units.length = dumps.length
  artifacts : output.artifacts.length = dumps.length
  each : ∀ (i : Nat) (names : List String) (found : Found),
    dumps[i]? = some (names, found) → ∃ bytes tree uri artifact,
    found = .file (.ok bytes) ∧ IsDumpText bytes tree ∧ output.units[i]? = some ⟨tree, i⟩ ∧
      output.artifacts[i]? = some artifact ∧ artifact.length = some bytes.size ∧
      artifact.location = some ⟨some uri⟩ ∧ IsLocation fs (pathTo input names) tree.path uri

/-- What a scan has after it has loaded some dumps. -/
theorem holds_ofLoaded {fs : FileSystem} {dumps : List (List String × Found)} {ls : List Loaded}
    (h : List.Forall₂ (fun t l => loadFound (pathTo input t.1) t.2 = .ok l) dumps ls) :
    (Output.ofLoaded fs ls).Holds fs input dumps := by
  have hlength : ls.length = dumps.length := h.length_eq.symm
  refine ⟨by rw [Output.ofLoaded, List.length_mapIdx, hlength],
    by rw [Output.ofLoaded, List.length_map, hlength], fun i names found hi => ?_⟩
  obtain ⟨hlt, hget⟩ := List.getElem?_eq_some_iff.mp hi
  have hload := h.get hlt (hlength ▸ hlt)
  rw [List.get_eq_getElem, hget] at hload
  obtain ⟨bytes, tree, hfound, htext, hl⟩ := loadFound_eq_ok_iff.mp hload
  have hl? : ls[i]? = some ⟨pathTo input names, bytes.size, tree⟩ := by
    rw [List.getElem?_eq_getElem (hlength ▸ hlt)]
    exact congrArg some hl
  refine ⟨bytes, tree, _, _, hfound, htext, by simp [Output.ofLoaded, hl?],
    by simp only [Output.ofLoaded, List.getElem?_map, hl?]; rfl, rfl, rfl,
    isLocation_uri fs ⟨pathTo input names, bytes.size, tree⟩⟩

/-- A directory that is found has a path that can be looked up. -/
theorem utf8ByteSize_lt_of_node {fs : FileSystem} {node : FileNode}
    (hnode : fs.node input = .ok node) : input.utf8ByteSize < 4096 := by
  by_contra hlong
  have htooLong : Path.isTooLong input = true := decide_eq_true (Nat.le_of_not_lt hlong)
  rw [FileSystem.node, FileSystem.locate, FileSystem.pathFault?] at hnode
  split_ifs at hnode

/-- **What a scan of a directory comes to.** There is one list of what the scan has to get past: the
dumps below the directory and the directories that cannot be listed, in the order of the names that
lead to them. The scan succeeds if all of these are dumps that can be loaded, and then it has their
trees and their files. It fails for the first one that is not, with an error that starts with what
stands in the way and its path.
The order in which the directories list their entries does not matter, since the list does not
depend on it. -/
theorem scan_directory (fs : FileSystem) (input : String) (entries : List (String × FileNode))
    (limits : DirectoryLimits) (hnode : fs.node input = .ok (.directory entries limits))
    (htree : (FileNode.directory entries limits).IsTree) :
    ∃ trials, (∀ trials', IsListing input (.directory entries limits) trials' ↔
        trials' = trials) ∧
      ((∃ output, scan fs input = .ok output) ↔ ∀ t ∈ trials, IsLoadable t.2) ∧
      (∀ output, scan fs input = .ok output → output.Holds fs input trials) ∧
      ∀ e, scan fs input = .error e ↔ ∃ before t after, trials = before ++ t :: after ∧
        (∀ x ∈ before, IsLoadable x.2) ∧ Fails (pathTo input t.1) t.2 e ∧
        ∃ heading, IsHeading (pathTo input t.1) t.2 heading ∧ e.chain.head? = some heading := by
  have hshort := utf8ByteSize_lt_of_node hnode
  have hscan : scan fs input = ((trialsIn input none (.directory entries limits)).mapM fun t =>
      loadFound (pathTo input t.1) t.2).map (Output.ofLoaded fs) := by
    rw [scan, loadAll_directory hnode]
  refine ⟨trialsIn input none (.directory entries limits), fun _ => isListing_iff hshort htree,
    ?_, ?_, ?_⟩
  · have hloadable : ∀ t : List String × Found,
        IsLoadable t.2 ↔ ∃ l, loadFound (pathTo input t.1) t.2 = .ok l :=
      fun t => isLoadable_iff _
    simp only [hloadable]
    rw [← exists_mapM_eq_ok_iff, hscan]
    constructor
    · rintro ⟨output, houtput⟩
      obtain ⟨ls, hls, -⟩ := map_eq_ok_iff.mp houtput
      exact ⟨ls, hls⟩
    · rintro ⟨ls, hls⟩
      exact ⟨_, map_eq_ok_iff.mpr ⟨ls, hls, rfl⟩⟩
  · intro output houtput
    rw [hscan, map_eq_ok_iff] at houtput
    obtain ⟨ls, hls, rfl⟩ := houtput
    exact holds_ofLoaded (mapM_eq_ok_iff.mp hls)
  · intro e
    rw [hscan, map_eq_error_iff, mapM_eq_error_iff]
    simp only [loadFound_eq_error_iff, isOk_loadFound_iff]
    constructor
    · rintro ⟨before, t, after, htrials, hbefore, hfails⟩
      exact ⟨before, t, after, htrials, hbefore, hfails, hfails.exists_isHeading⟩
    · rintro ⟨before, t, after, htrials, hbefore, hfails, -⟩
      exact ⟨before, t, after, htrials, hbefore, hfails⟩

/-- A directory with a dump beside a directory whose name is the start of the name of the dump.
Neither of the two dumps in it is a text. -/
def garbled : List (String × FileNode) :=
  [("a.json", .file ⟨#[255]⟩), ("a", .directory [("x.json", .file ⟨#[254]⟩)])]

/-- A scan of such a directory comes to the dump that lies deeper, and fails. -/
theorem scan_garbled :
    let fs : FileSystem := ⟨.directory [("in", .directory garbled)], []⟩
    fs.node "in" = .ok (.directory garbled) ∧ (FileNode.directory garbled).IsTree ∧
      ∃ trials, IsListing "in" (.directory garbled) trials ∧
        (["a", "x.json"], .file (.ok ⟨#[254]⟩)) ∈ trials ∧
        ¬∃ output, scan fs "in" = .ok output := by
  intro fs
  have hnode : fs.node "in" = .ok (.directory garbled) := rfl
  have htree : (FileNode.directory garbled).IsTree := by
    simp only [garbled, FileNode.isTree_directory_iff, List.forall_mem_cons, List.not_mem_nil,
      false_implies, implies_true, and_true, FileNode.IsTree.file]
    decide
  obtain ⟨trials, hlisting, hok, -⟩ := scan_directory fs "in" garbled {} hnode htree
  have htrials := (hlisting trials).mpr rfl
  have hmem : (["a", "x.json"], .file (.ok ⟨#[254]⟩)) ∈ trials := by
    refine (htrials.complete _ _).mpr ⟨?_, Or.inl ⟨"x.json", rfl, "x", by decide, by decide⟩⟩
    refine Finds.inside (not_isLost (by decide)) rfl (List.mem_cons_of_mem _ List.mem_cons_self) ?_
    exact Finds.inside (not_isLost (by decide)) rfl List.mem_cons_self
      (Finds.readable (not_isLost (by decide)) rfl)
  refine ⟨hnode, htree, trials, htrials, hmem, fun h => ?_⟩
  obtain ⟨bytes, tree, hbytes, text, htext, -⟩ := hok.mp h _ hmem
  cases hbytes
  have hnone : FileSystem.textOf ⟨#[254]⟩ = .error .notText := rfl
  exact (FileSystem.textOf_eq_error_iff.mp hnone).2 text htext

/-! ## Directories with paths that are too long -/

/-- There is nothing to get past in a directory if the paths of its entries are too long and none of
them is called like a dump, whatever is inside them. -/
theorem trialsIn_eq_nil (hshort : input.utf8ByteSize < 4096)
    (htree : (FileNode.directory entries limits).IsTree) (hlist : limits.list = none)
    (h : ∀ e ∈ entries, 4096 ≤ (Path.join input e.1).utf8ByteSize ∧
      ¬Path.HasExtension e.1 "json") : trialsIn input none (.directory entries limits) = [] := by
  rw [List.eq_nil_iff_forall_not_mem]
  rintro ⟨names, found⟩ hmem
  obtain ⟨hfinds, htrial⟩ := ((isListing_trialsIn hshort htree).complete names found).mp hmem
  cases hfinds with
  | lost hlost => exact not_isLost hshort _ hlost
  | closed _ hclosed => exact absurd (hlist.symm.trans hclosed) (by simp)
  | inside _ _ he hf =>
    obtain ⟨hlong, hname⟩ := h _ he
    obtain ⟨rfl, rfl⟩ := (finds_iff_of_isLost (IsLost.tooLong hlong)).mp hf
    rcases htrial with ⟨last, hlast, hdump⟩ | ⟨fault, hfault⟩
    · cases hlast
      exact hname hdump
    · cases hfault

/-- The current directory with some slashes behind it. -/
def hereWithSlashes (n : Nat) : String :=
  String.ofList ('.' :: List.replicate n '/')

theorem toList_hereWithSlashes (n : Nat) :
    (hereWithSlashes n).toList = '.' :: List.replicate n '/' :=
  String.toList_ofList

/-- Each slash takes one byte. -/
theorem utf8ByteSize_hereWithSlashes (n : Nat) : (hereWithSlashes n).utf8ByteSize = n + 1 := by
  induction n with
  | zero => rfl
  | succ n ih =>
    have hpush : hereWithSlashes (n + 1) = hereWithSlashes n ++ "/" := by
      apply String.toList_inj.mp
      rw [String.toList_append, toList_hereWithSlashes, toList_hereWithSlashes,
        List.replicate_succ']
      rfl
    rw [hpush, String.utf8ByteSize_append, ih]
    rfl

/-- A name below the current directory stands right behind the slashes. -/
theorem join_hereWithSlashes (n : Nat) (name : String) :
    Path.join (hereWithSlashes (n + 1)) name = hereWithSlashes (n + 1) ++ name := by
  have hlast : (hereWithSlashes (n + 1)).toList.getLast? = some '/' := by
    rw [toList_hereWithSlashes, List.replicate_succ', ← List.cons_append, List.getLast?_concat]
  rw [Path.join, hlast]
  simp

/-- There is nothing between the slashes. -/
theorem components_hereWithSlashes (n : Nat) :
    Path.components (hereWithSlashes n) = "." :: List.replicate n "" := by
  have hpieces : Text.piecesChars '/' (List.replicate n '/') = List.replicate (n + 1) [] := by
    induction n with
    | zero => rfl
    | succ n ih => rw [List.replicate_succ, Text.piecesChars, if_pos rfl, ih, ← List.replicate_succ]
  rw [Path.components, Text.pieces, toList_hereWithSlashes, Text.piecesChars,
    if_neg (by decide), hpieces, List.replicate_succ]
  simp

/-- Empty components lead nowhere. -/
theorem walk_replicate_empty {fs : FileSystem} {place : List String}
    (hdir : fs.root.get? place.reverse = some (.directory entries limits)) (n : Nat) :
    fs.walk place (List.replicate n "") = .ok place := by
  induction n with
  | zero => simp [FileSystem.walk]
  | succ n ih =>
    rw [List.replicate_succ, FileSystem.walk_cons_of_directory hdir]
    simpa using ih

/-- Slashes behind the current directory lead to the current directory. -/
theorem node_hereWithSlashes {fs : FileSystem} {n : Nat} (hn : n + 1 < 4096)
    (hdir : fs.root.get? fs.current = some (.directory entries limits))
    (hsearch : limits.search = none) :
    fs.node (hereWithSlashes n) = .ok (.directory entries limits) := by
  have hfault : FileSystem.pathFault? (hereWithSlashes n) = none := by
    have hzero : (hereWithSlashes n).toList.contains '\x00' = false := by
      simp [toList_hereWithSlashes]
    have hempty : (hereWithSlashes n).isEmpty = false := by
      simp [← String.toList_inj, toList_hereWithSlashes]
    have hlong : Path.isTooLong (hereWithSlashes n) = false := by
      rw [Path.isTooLong, utf8ByteSize_hereWithSlashes, decide_eq_false_iff_not]
      omega
    rw [FileSystem.pathFault?, hzero, hempty, hlong]
    rfl
  have hstart : fs.start (hereWithSlashes n) = fs.current.reverse := by
    rw [FileSystem.start, Path.isAbsolute, toList_hereWithSlashes]
    rfl
  have hplace : fs.root.get? fs.current.reverse.reverse = some (.directory entries limits) := by
    rwa [List.reverse_reverse]
  have hwalk : fs.walk fs.current.reverse ("." :: List.replicate n "") =
      .ok fs.current.reverse := by
    rw [FileSystem.walk_cons_of_directory hplace, hsearch]
    simpa using walk_replicate_empty hplace n
  rw [FileSystem.node, FileSystem.locate, hfault, hstart, components_hereWithSlashes]
  simp only [hwalk]
  simp only [Except.map, hplace]

/-- A directory with a directory in it, in which there is an empty file that is called like a
dump. -/
def buried : List (String × FileNode) :=
  [("dd", .directory [("x.json", .file "".toUTF8)])]

/-- The scan passes over the directory if its path is too long. -/
theorem scan_buried (hnode : FileSystem.node ⟨.directory buried, []⟩ (hereWithSlashes 4093) =
    .ok (.directory buried)) (htree : (FileNode.directory buried).IsTree) :
    scan ⟨.directory buried, []⟩ (hereWithSlashes 4093) = .ok ⟨[], []⟩ := by
  have hlong : 4096 ≤ (Path.join (hereWithSlashes 4093) "dd").utf8ByteSize := by
    rw [join_hereWithSlashes, String.utf8ByteSize_append, utf8ByteSize_hereWithSlashes]
    decide
  have hname : ¬Path.HasExtension "dd" "json" := fun hext =>
    absurd (Path.extensionOf_eq_some_iff.mpr ⟨by decide, hext⟩) (by decide)
  have htrials : trialsIn (hereWithSlashes 4093) none (.directory buried) = [] :=
    trialsIn_eq_nil (utf8ByteSize_lt_of_node hnode) htree rfl fun e he => by
      obtain rfl := List.mem_singleton.mp he
      exact ⟨hlong, hname⟩
  rw [scan, loadAll_directory hnode, htrials]
  rfl

/-- An empty directory that cannot be listed. -/
def locked : List (String × FileNode) :=
  [("locked", .directory [] { list := some (.opening .denied) })]

/-- There is no file in it. -/
theorem get?_locked_ne_file {names : List String} {content : ByteArray}
    {limits : FileSystem.FileLimits} :
    (FileNode.directory locked).get? names ≠ some (.file content limits) := by
  intro h
  rw [← FileNode.fileAt_eq_some_iff] at h
  cases names with
  | nil => cases h
  | cons name names =>
    rw [locked, FileNode.fileAt_directory_cons, FileNode.lookup_cons] at h
    split_ifs at h
    · cases names <;> cases h
    · cases h

/-- The scan does not get past the directory. -/
theorem scan_locked : scan ⟨.directory locked, []⟩ "." =
    .error (.unlisted "./locked" (.opening .denied)) := by
  have hnode : FileSystem.node ⟨.directory locked, []⟩ "." = .ok (.directory locked) := rfl
  have htrials : trialsIn "." none (.directory locked) =
      [(["locked"], .closed (.opening .denied))] := by
    rw [locked, trialsIn, filesIn]
    change ((inOrder [("locked", [([], Found.closed (.opening .denied))])]).flatMap _).filter _ = _
    rw [inOrder, List.mergeSort_singleton]
    rfl
  rw [scan, loadAll_directory hnode, htrials]
  rfl

/-- **A directory is passed over if its path is too long**, and it stands in the way if it cannot be
listed. The path has 4096 bytes only because of the slashes before it; the file in the directory is
no dump, but the scan does not fail. There is no file at all in the directory that cannot be listed,
and the scan fails. -/
theorem scan_long_directory :
    (FileSystem.node ⟨.directory buried, []⟩ (hereWithSlashes 4093) = .ok (.directory buried) ∧
      (FileNode.directory buried).IsTree ∧
      (FileNode.directory buried).get? ["dd", "x.json"] = some (.file "".toUTF8) ∧
      (∀ tree, ¬IsDumpText "".toUTF8 tree) ∧
      scan ⟨.directory buried, []⟩ (hereWithSlashes 4093) = .ok ⟨[], []⟩) ∧
    (FileSystem.node ⟨.directory locked, []⟩ "." = .ok (.directory locked) ∧
      (FileNode.directory locked).IsTree ∧
      (∀ names content limits,
        (FileNode.directory locked).get? names ≠ some (.file content limits)) ∧
      scan ⟨.directory locked, []⟩ "." =
        .error (.unlisted "./locked" (.opening .denied))) := by
  have hnode : FileSystem.node ⟨.directory buried, []⟩ (hereWithSlashes 4093) =
      .ok (.directory buried) := node_hereWithSlashes (by decide) rfl rfl
  have htree : (FileNode.directory buried).IsTree := by
    simp only [buried, FileNode.isTree_directory_iff, List.mem_singleton, forall_eq,
      FileNode.IsTree.file, and_true]
    decide
  refine ⟨⟨hnode, htree, rfl, ?_, scan_buried hnode htree⟩, rfl, ?_, ?_, scan_locked⟩
  · rintro tree ⟨text, htext, htree⟩
    obtain rfl : text = "" := String.toByteArray_inj.mp htext
    have hparse : (parseTree "").isOk = false := by decide +kernel
    rw [htree] at hparse
    cases hparse
  · simp only [locked, FileNode.isTree_directory_iff, List.mem_singleton, forall_eq,
      List.not_mem_nil, false_implies, implies_true, and_true]
    decide
  · exact fun names content limits => get?_locked_ne_file

end NullLint.Scan
