import NullLint.Run.Program

set_option autoImplicit false
set_option relaxedAutoImplicit false

/-!
# The executable

Looks at the files that a call is about, lets `NullLint.Program` decide what comes of the call, and
shows and writes what it says. Spans are recorded but not sent.

## Main definitions

* `Executable.snapshot` — the files that a call is about.
* `main` — the program.
-/

namespace NullLint.Executable

/-- The path of a place that is given by the names from the root. -/
def pathOf (place : List String) : String :=
  "/" ++ String.intercalate "/" place

/-- The reason that the system gives for a fault. -/
def faultOf : IO.Error → FileSystem.Fault
  | .permissionDenied .. => .denied
  | e => .other e.toString

/-- All that is at a path, as far as it can be read. Only the content of tree dumps matters. -/
partial def load (path : String) : IO FileNode := do
  let here := (← IO.currentDir) / path
  if ← here.isDir then
    try
      let entries ← here.readDir
      let nodes ← entries.toList.mapM fun e => do
        return (e.fileName, ← load (Path.join path e.fileName))
      return .directory nodes
    catch e => return .directory [] { list := some (.opening (faultOf e)) }
  else if Scan.isDumpPath path then
    try return .file (← IO.FS.readBinFile here)
    catch e => return .file ByteArray.empty { read := some (faultOf e) }
  else return .file ByteArray.empty

/-- Adds to a snapshot what the components of a path lead to, step by step. The place it leads to
is returned if there is anything. -/
def follow (root : FileNode) (place : List String) :
    List String → IO (FileNode × Option (List String))
  | [] => return (root, some place)
  | c :: cs => do
    if c.isEmpty || c = "." then follow root place cs
    else if c = ".." then follow root place.dropLast cs
    else
      let next := place ++ [c]
      let here := (← IO.currentDir) / pathOf next
      if !(← here.pathExists) then return (root, none)
      let node := if ← here.isDir then FileNode.directory [] else .file ByteArray.empty
      let known := root.get? next
      follow (if known.isSome then root else FileNode.set node next root) next cs

/-- The files that a call is about: all that is below its input, and what leads to its output. -/
def snapshot (o : CommandLine.Options) : IO FileSystem := do
  let current := Path.steps (← IO.currentDir).toString
  let (root, _) ← follow (.directory []) [] current
  let start (path : String) : List String := if Path.isAbsolute path then [] else current
  let input := o.input.shown
  let output := (o.output.map Argument.shown).getD ""
  let (root, _) ← follow root (start output) (Path.components output)
  let (root, place) ← follow root (start input) (Path.components input)
  let root ← match place with
    | none => pure root
    | some names => return ⟨FileNode.set (← load (pathOf names)) names root, current⟩
  return ⟨root, current⟩

/-- How the program is called. -/
def usage : String :=
  "Usage: annolint [OPTIONS] --input <PATH>\n\n" ++
  "Options:\n" ++
  "      --input <PATH>                    Tree dump (.json) or directory of tree dumps\n" ++
  "      --output <PATH>                   File for the report, - to print it\n" ++
  "      --property <RULE_ID.KEY=VALUE>    Property of a rule\n" ++
  "      --otel <URL>                      OTLP/HTTP endpoint for trace spans\n" ++
  "      --quiet                           Log errors only\n" ++
  "      --timing                          Tell how long the run took\n" ++
  "  -h, --help                            Print help\n" ++
  "  -V, --version                         Print version\n"

/-- Answers a call that is not carried out. -/
def refuse (r : CommandLine.Refusal) : IO UInt32 := do
  match r with
  | .help => IO.print usage
  | .version => IO.print CommandLine.versionText
  | _ => IO.eprint usage
  return r.exitCode.toUInt32

/-- Carries out a call. -/
def carryOut (words : List String) (o : CommandLine.Options) : IO UInt32 := do
  let started ← IO.monoMsNow
  let files ← snapshot o
  let scanned ← IO.monoMsNow
  let call : Call := { options := o, arguments := ("annolint" :: words).map .text, files }
  let _ ← IO.lazyPure fun _ => (call.analysed registry).isOk
  let analysed ← IO.monoMsNow
  let durations : Durations := ⟨analysed - started, scanned - started, analysed - scanned⟩
  let outcome := Program.run registry { call with durations }
  match outcome.result, call.outputPath? with
  | .ok r, some path => IO.FS.writeFile path r.text
  | .ok _, none => IO.print outcome.printed
  | .error _, _ => pure ()
  for line in outcome.shownLines (Program.filter o.quiet (← IO.getEnv "RUST_LOG")) do
    IO.eprintln line
  return outcome.exitCode.toUInt32

end NullLint.Executable

/-- The program, called with the words after its name. -/
def main (words : List String) : IO UInt32 :=
  match NullLint.CommandLine.parse words with
  | .error r => NullLint.Executable.refuse r
  | .ok o => NullLint.Executable.carryOut words o
