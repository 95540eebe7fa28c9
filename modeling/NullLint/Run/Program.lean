import NullLint.Log.Filter
import NullLint.Run.Watch

set_option autoImplicit false
set_option relaxedAutoImplicit false

/-!
# The program as a whole

## Main definitions

* `Program.filter` — which events a run writes.
* `Program.errorLines` — how an error is shown.
* `Program.Outcome`, `Program.run` — what a run shows and leaves behind.
-/

namespace NullLint.Program

/-- The filter that decides on the events if nothing else is asked for. -/
def defaultFilter (quiet : Bool) : Log.Filter :=
  if quiet then Log.Filter.upTo "" 1
  else Log.Filter.upTo "annolint" 3 ++ Log.Filter.upTo "" 2

/-- The filter that decides on the events: the one that the environment gives, if it is one. -/
def filter (quiet : Bool) (environment : Option String) : Log.Filter :=
  ((environment.bind Log.Filter.parse?)).getD (defaultFilter quiet)

/-- A text to the right of a margin of some width. -/
def rightAligned (width : Nat) (s : String) : String :=
  String.ofList (List.replicate (width - s.length) ' ') ++ s

/-- The lines of a cause, with a number if there are several causes. -/
def causeLines (number : Option Nat) (text : String) : List String :=
  let first := (number.map fun n => rightAligned 5 (toString n) ++ ": ").getD "    "
  let next := if number.isSome then "       " else "    "
  match Text.pieces '\n' text with
  | [] => []
  | line :: lines => (first ++ line) :: lines.map (next ++ ·)

/-- The lines of an error, by the words for it from the general to the particular. -/
def errorLines : List String → List String
  | [] => []
  | text :: causes =>
    Text.pieces '\n' ("Error: " ++ text) ++
      match causes with
      | [] => []
      | [cause] => ["", "Caused by:"] ++ causeLines none cause
      | _ =>
        ["", "Caused by:"] ++ (causes.mapIdx fun i cause => causeLines (some i) cause).flatten

/-- The line that tells how long a run took. -/
def timingLine (d : Durations) (trees artifacts : Nat) : String :=
  "timing: total_ms=" ++ toString d.total ++ " scan_ms=" ++ toString d.scan ++ " analysis_ms=" ++
    toString d.analysis ++ " trees=" ++ toString trees ++ " artifacts=" ++ toString artifacts

/-- What a run shows and leaves behind: an error or the report, the files as they are now, what was
printed, the line about the time if it is asked for, the events, and the recorded spans. -/
structure Outcome where
  result : Except RunError Sarif.Report
  files : FileSystem
  printed : String
  timing : Option String
  events : List Log.Event
  recorder : Option Telemetry.Recorder

/-- Whether a call asks for the line about the time. -/
def wantsTiming (o : CommandLine.Options) : Bool :=
  o.timing && !o.quiet

/-- The files and what is printed at the end of a run. A run that does not get as far as writing
leaves all files as they were and prints nothing. -/
def left (rules : List Rule) (call : Call) : FileSystem × String :=
  match call.opened rules with
  | .error _ => (call.files, "")
  | .ok o => call.written o

/-- The line about the time of a run, if it is asked for. -/
def timing? (call : Call) (report : Sarif.Report) : Option String :=
  if wantsTiming call.options then
    some (timingLine call.durations report.invocation.treeCount report.invocation.artifactCount)
  else none

/-- A run. -/
def run (rules : List Rule) (call : Call) : Outcome where
  result := call.completed rules
  files := (left rules call).1
  printed := (left rules call).2
  timing := (call.completed rules).toOption.bind (timing? call)
  events := call.events rules
  recorder := call.recorder? rules

namespace Outcome

/-- The lines of the events that the filter admits. -/
def logLines (o : Outcome) (f : Log.Filter) : List String :=
  (o.events.filter f.admits).flatMap Log.Event.lines

/-- All lines a run shows besides what it prints: the events, then the line about the time or the
error. Of a panic only the message is shown here, without the place in the library at which it
happens. -/
def shownLines (o : Outcome) (f : Log.Filter) : List String :=
  o.logLines f ++ o.timing.toList ++
    match o.result with
    | .ok _ => []
    | .error (.garbled word) => (RunError.garbled word).chain
    | .error e => errorLines e.chain

/-- The exit code of a run. -/
def exitCode (o : Outcome) : Nat :=
  match o.result with
  | .ok _ => 0
  | .error (.garbled _) => 101
  | .error _ => 1

end Outcome

end NullLint.Program
