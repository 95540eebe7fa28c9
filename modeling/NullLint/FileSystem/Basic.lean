import NullLint.FileSystem.Path

set_option autoImplicit false
set_option relaxedAutoImplicit false

/-!
# File systems

A file system is a tree of directories with files at its leaves. Paths are looked up step by step
from the root or from the current directory; each step has to lead to a directory unless it is the
last one. Files and directories can be closed to some accesses: there are files that cannot be read,
and directories whose entries cannot be listed or looked up.

## Main definitions

* `FileSystem.Fault` — why an access fails.
* `FileSystem.FileLimits`, `FileSystem.DirectoryLimits` — the accesses to a file or to a directory
  that fail.
* `FileNode`, `FileSystem` — the tree, and the tree with a current directory.
* `FileSystem.locate` — the place a path leads to.
* `FileSystem.exists?`, `FileSystem.read` — looking at the file system.
* `FileSystem.place`, `FileSystem.put` — where a file can be created, and its creation.

## Design

Names are texts, and there are regular files and directories only. A limit says which access fails
and for which reason, not who is refused: a file that is damaged and a file that belongs to somebody
else differ in the reason alone.
-/

namespace NullLint

/-- Why an access to the file system fails. The system has more reasons than those that are told
apart here; each of the others is given by its words. -/
inductive FileSystem.Fault where
  | noEntry
  | denied
  | notDirectory
  | isDirectory
  | nameTooLong
  | zeroByte
  | notText
  | noSpace
  | brokenPipe
  | other (text : String)
  deriving DecidableEq, Repr

/-- The words for a fault. -/
def FileSystem.Fault.message : FileSystem.Fault → String
  | .noEntry => "No such file or directory (os error 2)"
  | .denied => "Permission denied (os error 13)"
  | .notDirectory => "Not a directory (os error 20)"
  | .isDirectory => "Is a directory (os error 21)"
  | .nameTooLong => "File name too long (os error 36)"
  | .zeroByte => "file name contained an unexpected NUL byte"
  | .notText => "stream did not contain valid UTF-8"
  | .noSpace => "No space left on device (os error 28)"
  | .brokenPipe => "Broken pipe (os error 32)"
  | .other text => text

/-- Why the entries of a directory cannot be listed: the directory cannot be opened, or it is opened
and one of its entries cannot be read. -/
inductive FileSystem.ListFault where
  | opening (fault : FileSystem.Fault)
  | entry (fault : FileSystem.Fault)
  deriving DecidableEq, Repr

/-- The accesses to a file that fail: reading it, and opening it for writing. -/
structure FileSystem.FileLimits where
  read : Option FileSystem.Fault := none
  write : Option FileSystem.Fault := none
  deriving DecidableEq, Repr

/-- The accesses to a directory that fail: listing its entries, looking up an entry, and creating
one. -/
structure FileSystem.DirectoryLimits where
  list : Option FileSystem.ListFault := none
  search : Option FileSystem.Fault := none
  create : Option FileSystem.Fault := none
  deriving DecidableEq, Repr

/-- A file with its content, or a directory with its entries in any order. -/
inductive FileNode where
  | file (content : ByteArray) (limits : FileSystem.FileLimits := {})
  | directory (entries : List (String × FileNode)) (limits : FileSystem.DirectoryLimits := {})

namespace FileNode

/-- The entry of a name. -/
def lookup (entries : List (String × FileNode)) (name : String) : Option FileNode :=
  (entries.find? fun e => e.1 == name).map (·.2)

/-- The node that the names lead to from a node. -/
def get? : List String → FileNode → Option FileNode
  | [], node => some node
  | _ :: _, .file .. => none
  | name :: names, .directory entries _ => (lookup entries name).bind (get? names)

/-- Puts a node in the place that the names lead to, with new directories where there are none. -/
def set (new : FileNode) : List String → FileNode → FileNode
  | [], _ => new
  | _ :: _, .file content limits => .file content limits
  | name :: names, .directory entries limits =>
    match lookup entries name with
    | some _ =>
      .directory (entries.map fun e => if e.1 == name then (e.1, set new names e.2) else e) limits
    | none => .directory (entries ++ [(name, set new names (.directory []))]) limits

end FileNode

/-- A file system: the root, and the names that lead from it to the current directory. -/
structure FileSystem where
  root : FileNode
  current : List String := []

namespace FileSystem

variable (fs : FileSystem)

/-- The current directory as a path. -/
def currentPath : String :=
  "/" ++ String.intercalate "/" fs.current

/-- Follows components from a directory. The place is given by the names that lead to it from the
root, the last one first. The points for a directory itself and for the one above it are looked up
in the directory like names. -/
def walk : List String → List String → Except Fault (List String)
  | place, [] => .ok place
  | place, c :: cs =>
    match fs.root.get? place.reverse with
    | some (.directory entries limits) =>
      if c.isEmpty then walk place cs
      else
        match limits.search with
        | some fault => .error fault
        | none =>
          if c = "." then walk place cs
          else if c = ".." then walk place.tail cs
          else if 255 < c.utf8ByteSize then .error .nameTooLong
          else
            match FileNode.lookup entries c with
            | none => .error .noEntry
            | some _ => walk (c :: place) cs
    | some (.file ..) => .error .notDirectory
    | none => .error .noEntry

/-- Where the lookup of a path starts. -/
def start (path : String) : List String :=
  if Path.isAbsolute path then [] else fs.current.reverse

/-- What is wrong with a path before it is looked up. -/
def pathFault? (path : String) : Option Fault :=
  if path.toList.contains '\x00' then some .zeroByte
  else if path.isEmpty then some .noEntry
  else if Path.isTooLong path then some .nameTooLong
  else none

/-- The place a path leads to, given by the names from the root. -/
def locate (path : String) : Except Fault (List String) :=
  match pathFault? path with
  | some fault => .error fault
  | none => (fs.walk (fs.start path) (Path.components path)).map List.reverse

/-- The node a path leads to. -/
def node (path : String) : Except Fault FileNode :=
  match fs.locate path with
  | .error fault => .error fault
  | .ok names =>
    match fs.root.get? names with
    | none => .error .noEntry
    | some n => .ok n

/-- Whether a path leads anywhere. -/
def exists? (path : String) : Bool :=
  (fs.node path).isOk

/-- What reading a file with some content comes to. -/
def FileLimits.reading (limits : FileLimits) (content : ByteArray) : Except Fault ByteArray :=
  match limits.read with
  | some fault => .error fault
  | none => .ok content

/-- The bytes of a file. -/
def read (path : String) : Except Fault ByteArray :=
  match fs.node path with
  | .error fault => .error fault
  | .ok (.directory ..) => .error .isDirectory
  | .ok (.file content limits) => limits.reading content

/-- Bytes as a text. -/
def textOf (content : ByteArray) : Except Fault String :=
  match String.fromUTF8? content with
  | none => .error .notText
  | some text => .ok text

/-- Whether the last component of a path can name a new file. -/
def isPlainName (name : String) : Bool :=
  !name.isEmpty && name != "." && name != ".."

/-- The components of a path without the empty ones at its end. -/
def trimmedComponents (path : String) : List String :=
  ((Path.components path).reverse.dropWhile String.isEmpty).reverse

/-- Why no file can be written below a name of a directory, by what is there below that name. -/
def entryFault? (limits : DirectoryLimits) : Option FileNode → Option Fault
  | none => limits.create
  | some (.file _ limits) => limits.write
  | some (.directory ..) => some .isDirectory

/-- Why no file can be written in a directory, by the last component of its path. A slash behind the
component asks for a directory. -/
def nameFault? (limits : DirectoryLimits) (entries : List (String × FileNode)) (name : String)
    (slash : Bool) : Option Fault :=
  match limits.search with
  | some fault => some fault
  | none =>
    if !isPlainName name || slash then some .isDirectory
    else if 255 < name.utf8ByteSize then some .nameTooLong
    else entryFault? limits (FileNode.lookup entries name)

/-- The place where a path would create a file, or the file it would replace. -/
def place (path : String) : Except Fault (List String) :=
  match pathFault? path with
  | some fault => .error fault
  | none =>
    let cs := trimmedComponents path
    match fs.walk (fs.start path) cs.dropLast with
    | .error fault => .error fault
    | .ok parent =>
      match fs.root.get? parent.reverse, cs.getLast? with
      | none, _ => .error .noEntry
      | some (.file ..), _ => .error .notDirectory
      | some (.directory ..), none => .error .isDirectory
      | some (.directory entries limits), some name =>
        match nameFault? limits entries name (cs.length < (Path.components path).length) with
        | some fault => .error fault
        | none => .ok (name :: parent).reverse

/-- The limits of the file in a place. A new file has none. -/
def limitsAt (names : List String) : FileLimits :=
  match fs.root.get? names with
  | some (.file _ limits) => limits
  | _ => {}

/-- Puts a file with some content in a place. -/
def put (names : List String) (content : ByteArray) : FileSystem :=
  { fs with root := FileNode.set (.file content (fs.limitsAt names)) names fs.root }

end FileSystem

end NullLint
