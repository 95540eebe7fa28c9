import Mathlib.Data.List.TakeWhile
import NullLint.Proofs.Run.Report
import NullLint.Proofs.Text.Bytes
import NullLint.Proofs.Url.Percent

set_option autoImplicit false
set_option relaxedAutoImplicit false

/-!
# Where dumps without a source path are said to be

The location of a dump without a source path is the path of its file behind `file://`, as it is. A
reader takes it for a URL: a query or a fragment is not part of the path, and codes stand for bytes.
So a location leads back to its dump exactly if nothing in the path is taken for something else, and
two dumps can only be mixed up if this happens in the path of one of them.

## Main definitions

* `Scan.fromRoot` — the path of a file from the root.
* `Scan.Designates` — a location is that of a file with a path.
* `Scan.IsPlain` — a path that is not taken for anything else in a location.

## Main results

* `Scan.designates_self_iff` — a path behind `file://` designates itself if it is plain.
* `Scan.locations_designate_iff` — **when the locations of a scan designate their dumps**.
* `Scan.locations_twins` — two dumps in one directory with locations that designate one of them.
-/

namespace NullLint.Scan

open Syntax

/-- The path of a file from the root. -/
def fromRoot (fs : FileSystem) (path : String) : String :=
  if Path.isAbsolute path then path else Path.join fs.currentPath path

/-- The characters that end the path in a location: a query or a fragment starts with them. -/
def endsPath (c : Char) : Bool :=
  c == '?' || c == '#'

/-- A location designates the file with a path. What stands before the first question mark or number
sign is that of a file, and behind the scheme it is the path, of which any bytes may be encoded. -/
def Designates (uri path : String) : Prop :=
  ∃ rest, uri.toList.takeWhile (fun c => !endsPath c) = "file://".toList ++ rest ∧
    Url.decode rest = Text.bytes path

/-- Neither a query nor a fragment starts in a path, and no part of it looks like an encoded
byte. -/
def IsPlain (path : String) : Prop :=
  Url.Free endsPath path.toList ∧ ¬Url.HasCode path.toList

variable {fs : FileSystem} {uri path path' : String}

/-- A location designates one file at most. -/
theorem Designates.unique (h : Designates uri path) (h' : Designates uri path') : path = path' := by
  obtain ⟨rest, hrest, hpath⟩ := h
  obtain ⟨rest', hrest', hpath'⟩ := h'
  rw [hrest, List.append_cancel_left_eq] at hrest'
  subst hrest'
  exact Text.bytes_inj.mp (hpath.symm.trans hpath')

/-- What a location of a file designates is found in the path as far as it is taken for one. -/
theorem designates_append_iff : Designates ("file://" ++ path) path' ↔
    Url.decode (path.toList.takeWhile fun c => !endsPath c) = Text.bytes path' := by
  have hscheme : Url.Free endsPath "file://".toList := by decide
  have hbefore : ∀ c ∈ "file://".toList, (!endsPath c) = true := fun c hc => by
    rw [hscheme c hc]
    rfl
  rw [Designates, String.toList_append, List.takeWhile_append_of_pos hbefore]
  simp only [List.append_cancel_left_eq, exists_eq_left']

/-- A path behind the scheme designates itself if it is plain. -/
theorem designates_self_iff : Designates ("file://" ++ path) path ↔ IsPlain path := by
  rw [designates_append_iff, Text.bytes_eq_flatMap,
    Url.decode_eq_iff_of_prefix (List.takeWhile_prefix _), IsPlain, Url.Free]
  simp only [List.takeWhile_eq_self_iff, Bool.not_eq_true']

/-- The location of a dump without a source path is that of its file. -/
theorem Loaded.uri_of_path_eq {l : Loaded} (h : l.tree.path = "") :
    l.uri fs = "file://" ++ fromRoot fs l.path := by
  rw [Loaded.uri, h]
  rfl

/-- A scan succeeds with what it has loaded. -/
theorem scan_of_loadAll {input : String} {ls : List Loaded} (h : loadAll fs input = .ok ls) :
    scan fs input = .ok (Output.ofLoaded fs ls) := by
  rw [scan, h]
  rfl

/-- **When the locations of a scan designate their dumps.** If a scan succeeds, each of its files
has a location. The location of a dump without a source path designates the file of the dump, as it
is found from the root, if and only if the path of that file is plain. The locations of two such
dumps whose paths are plain never designate one file unless it is the file of both. -/
theorem locations_designate_iff (fs : FileSystem) (input : String) (output : Output)
    (h : scan fs input = .ok output) :
    ∃ ls, loadAll fs input = .ok ls ∧
      (∀ (i : Nat) (l : Loaded), ls[i]? = some l →
        Sarif.artifactUri output.artifacts i = some (l.uri fs)) ∧
      (∀ l ∈ ls, l.tree.path = "" →
        (Designates (l.uri fs) (fromRoot fs l.path) ↔ IsPlain (fromRoot fs l.path))) ∧
      ∀ l ∈ ls, ∀ l' ∈ ls, l.tree.path = "" → l'.tree.path = "" →
        IsPlain (fromRoot fs l.path) → IsPlain (fromRoot fs l'.path) →
        ∀ path, Designates (l.uri fs) path → Designates (l'.uri fs) path →
          fromRoot fs l.path = fromRoot fs l'.path := by
  obtain ⟨ls, hls, rfl⟩ := map_eq_ok_iff.mp h
  have hown : ∀ l : Loaded, l.tree.path = "" →
      (Designates (l.uri fs) (fromRoot fs l.path) ↔ IsPlain (fromRoot fs l.path)) := by
    intro l hpath
    rw [Loaded.uri_of_path_eq hpath, designates_self_iff]
  refine ⟨ls, hls, fun i l hl => artifactUri_ofLoaded fs ls hl, fun l _ => hown l, ?_⟩
  intro l _ l' _ hpath hpath' hplain hplain' path hd hd'
  calc fromRoot fs l.path = path := ((hown l hpath).mpr hplain).unique hd
    _ = fromRoot fs l'.path := hd'.unique ((hown l' hpath').mpr hplain')

/-! ## Two dumps with locations that designate one of them -/

/-- The text of a dump without a source path. -/
def anonymousText : String :=
  "[\"\",\x7b\"kind\":\"OBJ_BLOCK\",\"line\":1,\"column\":1\x7d]"

/-- Two files with such a dump. The name of the second is what is left of the name of the first when
it is decoded. -/
def twins : FileSystem :=
  ⟨.directory [("%61.json", .file anonymousText.toUTF8), ("a.json", .file anonymousText.toUTF8)],
    []⟩

/-- The tree of the text has no source path. -/
theorem exists_parseTree_anonymous :
    ∃ tree, parseTree anonymousText = .ok tree ∧ tree.path = "" := by
  have hpath : (Dump.parse anonymousText).toOption.map Dump.path = some "" := by decide +kernel
  obtain ⟨dump, hdump, hpath⟩ := Option.map_eq_some_iff.mp hpath
  rw [toOption_eq_some_iff] at hdump
  refine ⟨Tree.ofDump dump, ?_, hpath⟩
  rw [parseTree, hdump]
  rfl

/-- The two files as a scan finds them. -/
def foundTwins : List (String × List Item) :=
  [("/%61.json", [.dump "/%61.json" (.ok anonymousText.toUTF8)]),
    ("/a.json", [.dump "/a.json" (.ok anonymousText.toUTF8)])]

/-- The two files are found in the order of their names. -/
theorem items_twins : items twins "/" = .ok [.dump "/%61.json" (.ok anonymousText.toUTF8),
    .dump "/a.json" (.ok anonymousText.toUTF8)] := by
  have hnode : twins.node "/" = .ok twins.root := rfl
  have hlookup : lookupFault? "/" none = none := rfl
  have hfound : itemsOf "/" none [("%61.json", .file anonymousText.toUTF8),
      ("a.json", .file anonymousText.toUTF8)] = foundTwins := rfl
  have hsorted : inOrder foundTwins = foundTwins := List.mergeSort_of_pairwise (by decide)
  have hbelow : itemsIn "/" none twins.root = foundTwins.flatMap (·.2) := by
    rw [twins, itemsIn, hlookup]
    change (inOrder (itemsOf "/" none _)).flatMap (·.2) = _
    rw [hfound, hsorted]
  have hitems : items twins "/" = .ok (itemsIn "/" none twins.root) := by
    rw [items, hnode]
    rfl
  rw [hitems, hbelow]
  rfl

/-- Both files can be loaded, and their trees have no source path. -/
theorem exists_loadAll_twins : ∃ l l', loadAll twins "/" = .ok [l, l'] ∧
    l.path = "/%61.json" ∧ l.tree.path = "" ∧ l'.path = "/a.json" ∧ l'.tree.path = "" := by
  obtain ⟨tree, htree, hpath⟩ := exists_parseTree_anonymous
  let loaded (path : String) : Loaded := ⟨path, anonymousText.toUTF8.size, tree⟩
  have hload : ∀ path, loadFound path (.file (.ok anonymousText.toUTF8)) = .ok (loaded path) :=
    fun path => loadFound_eq_ok_iff.mpr ⟨_, tree, rfl, ⟨anonymousText, rfl, htree⟩, rfl⟩
  have htrials : trialsOf [.dump "/%61.json" (.ok anonymousText.toUTF8),
      .dump "/a.json" (.ok anonymousText.toUTF8)] =
      [("/%61.json", .file (.ok anonymousText.toUTF8)),
        ("/a.json", .file (.ok anonymousText.toUTF8))] := rfl
  refine ⟨loaded "/%61.json", loaded "/a.json", ?_, rfl, hpath, rfl, hpath⟩
  rw [loadAll_eq_of_items items_twins, htrials]
  exact mapM_eq_ok_iff.mpr (.cons (hload _) (.cons (hload _) .nil))

/-- The location of the second of the two files designates it. -/
theorem locations_designate_twin : ∃ output uri, scan twins "/" = .ok output ∧
    Sarif.artifactUri output.artifacts 1 = some uri ∧ Designates uri "/a.json" := by
  obtain ⟨l, l', hload, -, -, hname, hpath⟩ := exists_loadAll_twins
  have hscan := scan_of_loadAll hload
  obtain ⟨ls, hls, huri, hown, -⟩ := locations_designate_iff twins "/" _ hscan
  obtain rfl := Except.ok.inj (hload.symm.trans hls)
  have hroot : fromRoot twins l'.path = "/a.json" := by
    rw [hname]
    rfl
  have hplain : IsPlain "/a.json" := ⟨by decide, Url.not_hasCode_of_notMem (by decide)⟩
  have hiff := hown l' (List.mem_cons_of_mem _ List.mem_cons_self) hpath
  rw [hroot] at hiff
  exact ⟨_, _, hscan, huri 1 l' rfl, hiff.mpr hplain⟩

/-- **The locations of two files designate one of them.** No encoded byte is meant in the path of
the first of the two files, but its location is taken for that of the second. -/
theorem locations_twins : ∃ l l' output uri uri', loadAll twins "/" = .ok [l, l'] ∧
    scan twins "/" = .ok output ∧ l.path = "/%61.json" ∧ l.tree.path = "" ∧
    l'.path = "/a.json" ∧ l'.tree.path = "" ∧
    Sarif.artifactUri output.artifacts 0 = some uri ∧ ¬Designates uri "/%61.json" ∧
    Designates uri "/a.json" ∧
    Sarif.artifactUri output.artifacts 1 = some uri' ∧ Designates uri' "/a.json" := by
  obtain ⟨l, l', hload, hname, hpath, hname', hpath'⟩ := exists_loadAll_twins
  have hscan := scan_of_loadAll hload
  have huri : l.uri twins = "file://" ++ "/%61.json" := by
    rw [Loaded.uri_of_path_eq hpath, hname]
    rfl
  have huri' : l'.uri twins = "file://" ++ "/a.json" := by
    rw [Loaded.uri_of_path_eq hpath', hname']
    rfl
  have hfirst : Designates (l.uri twins) "/a.json" := by
    rw [huri, designates_append_iff]
    decide
  have hsecond : Designates (l'.uri twins) "/a.json" := by
    rw [huri', designates_append_iff]
    decide
  refine ⟨l, l', _, _, _, hload, hscan, hname, hpath, hname', hpath',
    artifactUri_ofLoaded twins [l, l'] rfl, fun hown => ?_, hfirst,
    artifactUri_ofLoaded twins [l, l'] rfl, hsecond⟩
  exact absurd (hfirst.unique hown) (by decide)

end NullLint.Scan
