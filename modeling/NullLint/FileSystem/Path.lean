import NullLint.Text.Cut

set_option autoImplicit false
set_option relaxedAutoImplicit false

/-!
# Paths

A path is a text; its components stand between slashes. Messages show a path as it was given, so a
path is never rewritten.

## Main definitions

* `Path.join` — a name below a path.
* `Path.isTooLong` — whether a path can be looked up at all.
* `Path.components` — the components of a path.
* `Path.isJust` — whether a path is no more than a name.
* `Path.fileName?`, `Path.extension?` — the last component of a path and its extension.
-/

namespace NullLint.Path

/-- Whether a path starts at the root. -/
def isAbsolute (path : String) : Bool :=
  path.toList.head? == some '/'

/-- A relative path below a path. -/
def join (base name : String) : String :=
  if base.isEmpty || base.toList.getLast? == some '/' then base ++ name else base ++ "/" ++ name

/-- Whether a path is too long to be looked up, whatever it leads to. -/
def isTooLong (path : String) : Bool :=
  4096 ≤ path.utf8ByteSize

/-- The components of a path; some of them may be empty. -/
def components (path : String) : List String :=
  Text.pieces '/' path

/-- The components of a path without empty ones and without points that stand for the directory
itself. -/
def steps (path : String) : List String :=
  (components path).filter fun c => !c.isEmpty && c != "."

/-- Whether a path is no more than a name. Slashes after the name, and points for the directory
itself, add nothing to it. -/
def isJust (name path : String) : Bool :=
  match components path with
  | [] => false
  | c :: cs => c == name && cs.all fun c => c.isEmpty || c == "."

/-- The last component of a path, unless the path ends in the parent of a directory. -/
def fileName? (path : String) : Option String :=
  match (steps path).getLast? with
  | none => none
  | some name => if name = ".." then none else some name

/-- The part of a name after its last point. A name that starts with its only point has no such
part. -/
def extensionOf (name : String) : Option String :=
  let cs := name.toList
  let suffix := Text.afterLastChars '.' cs
  if suffix.length + 1 < cs.length then some (String.ofList suffix) else none

/-- The extension of a path. -/
def extension? (path : String) : Option String :=
  (fileName? path).bind extensionOf

end NullLint.Path
