import NullLint.CommandLine
import NullLint.Scan
import NullLint.Telemetry.Target

set_option autoImplicit false
set_option relaxedAutoImplicit false

/-!
# The stages of a run

A run looks for its input, reads the properties, configures the engine, finds out where spans are
sent, loads the trees, analyses them, makes the report, opens the output and writes the report. Each
stage needs the ones before it, so the first stage that fails decides what is wrong with the run.

## Main definitions

* `Call` — a call of the program.
* `RunError` — why a run fails.
* `Call.engine`, `Call.ready`, `Call.scanned`, `Call.analysed`, `Call.reported`, `Call.opened`,
  `Call.completed` — how far a run gets, stage by stage.
* `Call.report` — the report of an analysis.
* `Call.written` — what is left of a report that is written as far as writing gets.

## Design

The words of a call are part of its report, and a report is a text. A run does not look at its words
before it makes the report; if one of them is no text, it panics there.
-/

namespace NullLint

open CommandLine

/-- How long the parts of a run take, in milliseconds. -/
structure Durations where
  total : Nat := 0
  scan : Nat := 0
  analysis : Nat := 0
  deriving DecidableEq, Repr

/-- Writing breaks off after so many bytes, for some reason. -/
structure BreakOff where
  bytes : Nat
  fault : FileSystem.Fault
  deriving DecidableEq, Repr

/-- A call of the program: its options, all its words, the files it sees, the order in which the
workers act, the time it takes, and where writing breaks off if it does. -/
structure Call where
  options : Options
  arguments : List Argument
  files : FileSystem
  schedule : List Move := []
  durations : Durations := {}
  breakOff : Option BreakOff := none

/-- Why a run fails. A word that is no text ends it by a panic. Writing can fail in the document or,
when that is written, at the line break behind it. -/
inductive RunError where
  | inputMissing (path : String)
  | properties (cause : PropertyError)
  | engine (cause : EngineError)
  | endpoint (cause : Telemetry.EndpointError)
  | scan (cause : Scan.Error)
  | analysis (cause : DispatchError)
  | garbled (word : Argument)
  | output (path : String) (fault : FileSystem.Fault)
  | document (fault : FileSystem.Fault)
  | lineBreak (fault : FileSystem.Fault)
  deriving DecidableEq, Repr

namespace RunError

/-- The words for an error, from the general to the particular. -/
def chain : RunError → List String
  | .inputMissing path => ["input not found: " ++ path]
  | .properties cause => cause.chain
  | .engine cause => cause.chain
  | .endpoint cause => cause.chain
  | .scan cause => cause.chain
  | .analysis cause => cause.chain
  | .garbled word => ["called `Result::unwrap()` on an `Err` value: " ++ word.quoted]
  | .output path fault => ["failed to open " ++ path, fault.message]
  | .document fault => ["failed to serialize SARIF output", fault.message]
  | .lineBreak fault => ["failed to write SARIF output", fault.message]

/-- What is wrong with a tree dump, if that is the error. -/
def dump? : RunError → Option Syntax.Dump.Error
  | .scan cause => cause.dump?
  | _ => none

end RunError

/-- A run before the scan: the engine, and where spans are sent if they are. -/
structure Ready where
  engine : Engine
  endpoint : Option Url

/-- A run after the scan. -/
structure Scanned extends Ready where
  found : Scan.Output

/-- A run after the analysis. -/
structure Analysed extends Scanned where
  results : List Sarif.Result

/-- A run whose output is open: the report, and the place of the file that gets it, if it is not
printed. -/
structure Opened where
  report : Sarif.Report
  place : Option (List String)

namespace Opened

variable (o : Opened)

/-- The number of bytes at the end of a document that are held back until the line break behind it:
what is printed goes out line by line, and the last line of a document is a brace. -/
def heldBack : Nat :=
  if o.place.isSome then 0 else 1

/-- Why a run fails whose report breaks off. -/
def breakError (b : BreakOff) : RunError :=
  if b.bytes + o.heldBack < o.report.document.utf8ByteSize then .document b.fault
  else .lineBreak b.fault

end Opened

namespace Call

variable (rules : List Rule) (call : Call)

/-- The input of a call as it is shown. -/
def input : String :=
  call.options.input.shown

/-- Whether the input of a call exists. All names in a file system are texts, so a path that is no
text leads nowhere. -/
def hasInput : Bool :=
  match call.options.input with
  | .text path => call.files.exists? path
  | .garbled .. => false

/-- The properties of a call whose input exists. -/
def properties : Except RunError RuleProperties :=
  if call.hasInput then (RuleProperties.parse call.options.properties).mapError .properties
  else .error (.inputMissing call.input)

/-- The engine of a call. -/
def engine : Except RunError Engine :=
  call.properties.bind fun ps => (Engine.configure rules ps).mapError .engine

/-- The endpoint of a call, if it names one. -/
def endpoint : Except RunError (Option Url) :=
  match call.options.otel with
  | none => .ok none
  | some text => ((Telemetry.target text).map some).mapError .endpoint

/-- A call up to the scan. -/
def ready : Except RunError Ready :=
  (call.engine rules).bind fun engine => call.endpoint.map fun endpoint => ⟨engine, endpoint⟩

/-- A call up to the analysis. -/
def scanned : Except RunError Scanned :=
  (call.ready rules).bind fun ready =>
    ((Scan.scan call.files call.input).map (Scanned.mk ready)).mapError .scan

/-- A call up to the report. -/
def analysed : Except RunError Analysed :=
  (call.scanned rules).bind fun scanned =>
    ((scanned.engine.analyze scanned.found.artifacts scanned.found.units call.schedule).map
      (Analysed.mk scanned)).mapError .analysis

/-- The report of an analysis. -/
def report (a : Analysed) : Sarif.Report where
  rules := a.engine.rules.map (·.info)
  invocation :=
    { arguments := call.arguments.map Argument.shown
      scanMilliseconds := call.durations.scan
      treeCount := a.found.units.length
      artifactCount := a.found.artifacts.length }
  results := a.results
  artifacts := a.found.artifacts

/-- The first word of a call that is no text. -/
def garbled? : Option Argument :=
  call.arguments.find? fun word => word.text?.isNone

/-- A call up to the opening of its output. -/
def reported : Except RunError Sarif.Report :=
  (call.analysed rules).bind fun a =>
    match call.garbled? with
    | none => .ok (call.report a)
    | some word => .error (.garbled word)

/-- The file that gets the report, if it is not printed. A hyphen in place of a path asks for the
report to be printed. -/
def outputPath? : Option String :=
  (call.options.output.map Argument.shown).filter fun path => !Path.isJust "-" path

/-- A call up to the writing. -/
def opened : Except RunError Opened :=
  (call.reported rules).bind fun report =>
    match call.outputPath? with
    | none => .ok ⟨report, none⟩
    | some path =>
      ((call.files.place path).map fun names => ⟨report, some names⟩).mapError (.output path)

/-- Where writing a report breaks off, if it is not written to its end. -/
def breakOff? (o : Opened) : Option BreakOff :=
  call.breakOff.filter fun b => b.bytes ≤ o.report.document.utf8ByteSize

/-- The files and what is printed, when a report is written as far as writing gets. -/
def written (o : Opened) : FileSystem × String :=
  match o.place, call.breakOff? o with
  | none, none => (call.files, o.report.text)
  | none, some b => (call.files, Text.firstBytes b.bytes o.report.text)
  | some names, none => (call.files.put names o.report.text.toUTF8, "")
  | some names, some b => (call.files.put names (o.report.text.toUTF8.extract 0 b.bytes), "")

/-- A call up to its end. -/
def completed : Except RunError Sarif.Report :=
  (call.opened rules).bind fun o =>
    match call.breakOff? o with
    | none => .ok o.report
    | some b => .error (o.breakError b)

end Call

end NullLint
