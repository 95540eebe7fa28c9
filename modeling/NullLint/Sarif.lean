import NullLint.Engine.Dispatch
import NullLint.Json.Value

set_option autoImplicit false
set_option relaxedAutoImplicit false

/-!
# Reports

A report is written in the Static Analysis Results Interchange Format, version 2.1.0, as one JSON
document. It names the rules that were applied, the files that were analysed and the results.

## Main definitions

* `Sarif.Artifact`, `Sarif.artifactUri` — analysed files, and the location of the file with an
  index.
* `Sarif.Result`, `Sarif.Result.ofDiagnostic` — results, and the result of a diagnostic.
* `Sarif.Report`, `Sarif.Report.value` — reports, and the document of a report.

## Design

The members of an object are written in the order of their names. A member without content is left
out.
-/

namespace NullLint.Sarif

open Syntax

/-- The members of an object of which some may be left out. -/
def objectOf (members : List (Option (String × Json.Value))) : Json.Value :=
  .object (members.filterMap id)

/-- A member that is always written. -/
def member (name : String) (value : Json.Value) : Option (String × Json.Value) :=
  some (name, value)

/-- The location of a file, if it is known. -/
structure ArtifactLocation where
  uri : Option String := none
  deriving DecidableEq, Repr

/-- A location as JSON. -/
def ArtifactLocation.value (l : ArtifactLocation) : Json.Value :=
  objectOf [l.uri.map fun uri => ("uri", .string uri)]

/-- A file that was analysed: where it is, its length in bytes, and its roles in the analysis. -/
structure Artifact where
  location : Option ArtifactLocation := none
  length : Option Nat := none
  roles : List String := []
  deriving DecidableEq, Repr

/-- A file as JSON. -/
def Artifact.value (a : Artifact) : Json.Value :=
  objectOf [a.length.map fun n => ("length", .nat n), a.location.map fun l => ("location", l.value),
    if a.roles.isEmpty then none else member "roles" (.array (a.roles.map .string))]

/-- The location of a file as a single text. -/
def Artifact.uri? (a : Artifact) : Option String :=
  a.location.bind ArtifactLocation.uri

/-- A file that was analysed. -/
def Artifact.analysed (uri : String) (length : Nat) : Artifact where
  location := some ⟨uri⟩
  length := some length
  roles := ["analysisTarget"]

/-- The location of the file with an index. There is none for an index outside the list. -/
def artifactUri (artifacts : List Artifact) (index : Int) : Option String :=
  match index with
  | .ofNat i => artifacts[i]?.bind Artifact.uri?
  | .negSucc _ => none

/-- Where a declaration is in a file. -/
structure PhysicalLocation where
  uri : String
  position : Position
  deriving DecidableEq, Repr

/-- A place in a file as JSON. -/
def PhysicalLocation.value (p : PhysicalLocation) : Json.Value :=
  .object [("artifactLocation", .object [("uri", .string p.uri)]),
    ("region", .object [("startColumn", .nat p.position.column.toNat),
      ("startLine", .nat p.position.line.toNat)])]

/-- Where a result belongs: the declaration, and its place if the file is known. -/
structure Location where
  subject : String
  physical : Option PhysicalLocation := none
  deriving DecidableEq, Repr

/-- A location as JSON. -/
def Location.value (l : Location) : Json.Value :=
  objectOf [
    member "logicalLocations"
      (.array [.object [("kind", .string "declaration"), ("name", .string l.subject)]]),
    l.physical.map fun p => ("physicalLocation", p.value)]

/-- The location of a declaration in a file that may be known. -/
def Location.of (uri : Option String) (position : Position) (subject : String) : Location where
  subject := subject
  physical := uri.map fun uri => ⟨uri, position⟩

/-- A message as JSON. -/
def message (text : String) : Json.Value :=
  .object [("text", .string text)]

/-- A result: which rule reports what, where, and under which key. -/
structure Result where
  ruleId : String
  message : String
  location : Location
  messageKey : String
  deriving DecidableEq, Repr

/-- A result as JSON. -/
def Result.value (r : Result) : Json.Value :=
  .object [("locations", .array [r.location.value]), ("message", Sarif.message r.message),
    ("properties", .object [("messageKey", .string r.messageKey)]), ("ruleId", .string r.ruleId)]

/-- The result of a diagnostic of a rule about a declaration in a file that may be known. -/
def Result.ofDiagnostic (ruleId : String) (uri : Option String) (d : Diagnostic) : Result where
  ruleId := ruleId
  message := d.message
  location := Location.of uri d.position d.subject
  messageKey := d.key

/-- A rule as JSON. -/
def descriptor (info : RuleInfo) : Json.Value :=
  .object [("id", .string info.id), ("name", .string info.name),
    ("shortDescription", message info.description)]

/-- How the program was called and what it worked on. -/
structure Invocation where
  arguments : List String
  scanMilliseconds : Nat
  treeCount : Nat
  artifactCount : Nat
  deriving DecidableEq, Repr

/-- An invocation as JSON. -/
def Invocation.value (i : Invocation) : Json.Value :=
  .object [("arguments", .array (i.arguments.map .string)),
    ("commandLine", .string (String.intercalate " " i.arguments)),
    ("executionSuccessful", .bool true),
    ("properties", .object [("annolint.artifact_count", .nat i.artifactCount),
      ("annolint.scan_ms", .nat i.scanMilliseconds), ("annolint.tree_count", .nat i.treeCount)])]

/-- A report. -/
structure Report where
  rules : List RuleInfo
  invocation : Invocation
  results : List Result
  artifacts : List Artifact
  deriving DecidableEq, Repr

namespace Report

/-- The program and its rules as JSON. -/
def driver (r : Report) : Json.Value :=
  objectOf [member "name" (.string "annolint"),
    if r.rules.isEmpty then none else member "rules" (.array (r.rules.map descriptor)),
    member "version" (.string "0.1.0")]

/-- The only run of a report as JSON. -/
def runValue (r : Report) : Json.Value :=
  objectOf [
    if r.artifacts.isEmpty then none
      else member "artifacts" (.array (r.artifacts.map Artifact.value)),
    member "invocations" (.array [r.invocation.value]),
    member "results" (.array (r.results.map Result.value)),
    member "tool" (.object [("driver", r.driver)])]

/-- A report as a JSON document. -/
def value (r : Report) : Json.Value :=
  .object [
    ("$schema", .string "https://schemastore.azurewebsites.net/schemas/json/sarif-2.1.0.json"),
    ("runs", .array [r.runValue]), ("version", .string "2.1.0")]

/-- A report as the text of a JSON document. -/
def document (r : Report) : String :=
  r.value.pretty

/-- The text of a report as it is written to a file: the document and a line break. -/
def text (r : Report) : String :=
  r.document ++ "\n"

end Report

end NullLint.Sarif
