import NullLint.Engine.Analyze
import NullLint.FileSystem.Basic
import NullLint.Syntax.Dump.Decode

set_option autoImplicit false
set_option relaxedAutoImplicit false

/-!
# Loading tree dumps

The input is a file with a tree dump, or a directory in which all such files are looked for at any
depth. They are loaded in the order of their paths, whatever the order in which a directory lists
its entries. The first one that cannot be loaded ends the scan, and so does the first directory that
cannot be listed.

## Main definitions

* `Scan.Item`, `Scan.itemsIn`, `Scan.items` — the files of an input in the order in which they are
  looked at.
* `Scan.parseTree`, `Scan.load` — the tree of a text, and of a file.
* `Scan.scan` — the trees of an input, and the list of analysed files.
* `Scan.tried`, `Scan.events` — the files the scan comes to, and the events on the way.

## Design

What cannot be looked up counts as a file that cannot be read, also a directory: its path may be too
long, or the directory it is in is not open to the lookup of its entries. Such a directory may well
be listed; the names in it are known then, but not what they stand for.
-/

namespace NullLint.Scan

open Syntax

/-- What the scan comes to: a tree dump with its content, a file of another kind, or a directory
whose entries cannot be listed. -/
inductive Item where
  | dump (path : String) (content : Except FileSystem.Fault ByteArray)
  | other (path : String)
  | closed (path : String) (fault : FileSystem.ListFault)

/-- Whether the name of a file says that it is a tree dump. -/
def isDumpPath (path : String) : Bool :=
  Path.extension? path == some "json"

/-- Things found in a directory, in the order of their paths. -/
def inOrder {α : Type} (found : List (String × α)) : List (String × α) :=
  found.mergeSort fun a b => decide (a.1 ≤ b.1)

/-- What is at a path that is not taken for a directory. -/
def itemAt (path : String) (content : Except FileSystem.Fault ByteArray) : Item :=
  if isDumpPath path then .dump path content else .other path

/-- Why what is at a path cannot be looked up: the path is too long, or the directory it is in is
closed to lookups for the reason `barred`. -/
def lookupFault? (path : String) (barred : Option FileSystem.Fault) : Option FileSystem.Fault :=
  if Path.isTooLong path then some .nameTooLong else barred

mutual

/-- The files below a path, in the order of their paths. -/
def itemsIn (path : String) (barred : Option FileSystem.Fault) : FileNode → List Item
  | .file content limits =>
    match lookupFault? path barred with
    | some fault => [itemAt path (.error fault)]
    | none => [itemAt path (limits.reading content)]
  | .directory entries limits =>
    match lookupFault? path barred, limits.list with
    | some fault, _ => [itemAt path (.error fault)]
    | none, some fault => [.closed path fault]
    | none, none => (inOrder (itemsOf path limits.search entries)).flatMap (·.2)

/-- The entries of a directory, each as a path with the files below it. -/
def itemsOf (path : String) (barred : Option FileSystem.Fault) :
    List (String × FileNode) → List (String × List Item)
  | [] => []
  | (name, node) :: entries =>
    (Path.join path name, itemsIn (Path.join path name) barred node) ::
      itemsOf path barred entries

end

/-- Why a scan fails. -/
inductive Error where
  | unsupported (path : String)
  | unlisted (path : String) (fault : FileSystem.ListFault)
  | unreadable (path : String) (fault : FileSystem.Fault)
  | malformed (path : String) (cause : Dump.Error)
  deriving DecidableEq, Repr

namespace Error

/-- The words for an error, from the general to the particular. -/
def chain : Error → List String
  | .unsupported path => ["unsupported input file: " ++ path]
  | .unlisted path (.opening fault) => ["failed to read directory " ++ path, fault.message]
  | .unlisted path (.entry fault) => ["failed to read entry under " ++ path, fault.message]
  | .unreadable path fault => ["failed to read " ++ path, fault.message]
  | .malformed path cause => ("failed to parse " ++ path) :: cause.chain

/-- What is wrong with a dump, if that is the error. -/
def dump? : Error → Option Dump.Error
  | .malformed _ cause => some cause
  | _ => none

end Error

/-- The files of an input. A directory holds any files; a single file has to be a tree dump. -/
def items (fs : FileSystem) (input : String) : Except Error (List Item) :=
  match fs.node input with
  | .ok (.directory entries limits) => .ok (itemsIn input none (.directory entries limits))
  | _ =>
    if isDumpPath input then .ok [.dump input (fs.read input)] else .error (.unsupported input)

/-- A tree that was loaded: the path and the length of its file, and the tree. -/
structure Loaded where
  path : String
  length : Nat
  tree : Tree

/-- The tree of a text. -/
def parseTree (text : String) : Except Dump.Error Tree :=
  (Dump.parse text).map Tree.ofDump

/-- The tree of a file. -/
def load (path : String) (content : Except FileSystem.Fault ByteArray) : Except Error Loaded :=
  match content.bind FileSystem.textOf with
  | .error fault => .error (.unreadable path fault)
  | .ok text =>
    match parseTree text with
    | .error cause => .error (.malformed path cause)
    | .ok tree => .ok ⟨path, text.utf8ByteSize, tree⟩

/-- What loading comes to. There is nothing to load in a file of another kind, and nothing can be
loaded if a directory cannot be listed. -/
def Item.load? : Item → Except Error (Option Loaded)
  | .other _ => .ok none
  | .closed path fault => .error (.unlisted path fault)
  | .dump path content => (load path content).map some

/-- The files of an input as trees. -/
def loadAll (fs : FileSystem) (input : String) : Except Error (List Loaded) :=
  match items fs input with
  | .error e => .error e
  | .ok items => (items.mapM Item.load?).map fun found => found.filterMap id

/-- The location of a file that is given by its path. -/
def fileUri (fs : FileSystem) (path : String) : String :=
  "file://" ++ if Path.isAbsolute path then path else Path.join fs.currentPath path

/-- The location of the source of a tree: its source path, or the file of the dump if the tree has
none. -/
def Loaded.uri (fs : FileSystem) (l : Loaded) : String :=
  if l.tree.path.isEmpty then fileUri fs l.path else l.tree.path

/-- What a scan finds: the analysed files, and the trees with the indices of their files. -/
structure Output where
  artifacts : List Sarif.Artifact
  units : List SourceUnit

/-- The trees of some files, which are numbered in their order. -/
def Output.ofLoaded (fs : FileSystem) (ls : List Loaded) : Output where
  artifacts := ls.map fun l => .analysed (l.uri fs) l.length
  units := ls.mapIdx fun i l => ⟨l.tree, i⟩

/-- The trees of an input. -/
def scan (fs : FileSystem) (input : String) : Except Error Output :=
  (loadAll fs input).map (Output.ofLoaded fs)

/-- The files that the scan comes to, with what loading them comes to; the first one that fails is
the last. -/
def tried (fs : FileSystem) (input : String) : List (Item × Except Error (Option Loaded)) :=
  match items fs input with
  | .error _ => []
  | .ok items => through (fun t => !t.2.isOk) (items.map fun item => (item, item.load?))

/-- The paths of the tree dumps that the scan comes to. -/
def triedPaths (fs : FileSystem) (input : String) : List String :=
  (tried fs input).filterMap fun t =>
    match t.1 with
    | .dump path _ => some path
    | _ => none

/-- An event of the scan. -/
def event (level : Log.Level) (message : String) (details : List (String × String)) :
    Log.Event where
  level := level
  source := "annolint::scan"
  message := message
  details := details

/-- The events about a file. -/
def itemEvents : Item × Except Error (Option Loaded) → List Log.Event
  | (.other path, _) => [event .debug "skipping non-tree file" [("path", path)]]
  | (.dump path _, .ok (some l)) =>
    if l.tree.path.isEmpty then
      [event .warn "tree dump has no source path; using dump location" [("path", path)]]
    else []
  | _ => []

/-- The events of a scan. -/
def events (fs : FileSystem) (input : String) : List Log.Event :=
  (tried fs input).flatMap itemEvents ++
    match scan fs input with
    | .error _ => []
    | .ok output => [event .debug "scan finished" [("trees", toString output.units.length)]]

end NullLint.Scan
