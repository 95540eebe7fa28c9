import NullLint.Run.Stages
import NullLint.Telemetry.Request

set_option autoImplicit false
set_option relaxedAutoImplicit false

/-!
# Watching a run

A run can be watched in two ways: by the events it logs and by the spans it records. Spans are
recorded from the scan on, and only if the call names an endpoint for them. Neither way changes
what the run comes to.

## Main definitions

* `Call.events` — the events of a run.
* `Call.watched` — the run with its spans recorded.
* `Call.recorder?` — what is recorded, if anything is.

## Design

The main thread has the number zero, and the worker `w` of the analysis is the thread `w + 1`.
-/

namespace NullLint

open Telemetry

namespace Call

variable (rules : List Rule) (call : Call)

/-- The event at the end of an analysis. -/
def finishedEvent (a : Analysed) : Log.Event where
  level := .info
  source := "annolint"
  message := "analysis finished"
  details := [("trees", toString a.found.units.length), ("results", toString a.results.length)]

/-- The events of configuring the engine. -/
def engineEvents : List Log.Event :=
  match call.properties with
  | .error _ => []
  | .ok ps => Engine.configureEvents rules ps

/-- The events of the scan. -/
def scanEvents : List Log.Event :=
  match call.ready rules with
  | .error _ => []
  | .ok _ => Scan.events call.files call.input

/-- The events of the analysis. -/
def analysisEvents : List Log.Event :=
  match call.scanned rules with
  | .error _ => []
  | .ok s => s.engine.analyzeEvents s.found.artifacts s.found.units call.schedule

/-- The events after the analysis. -/
def closingEvents : List Log.Event :=
  match call.analysed rules with
  | .error _ => []
  | .ok a => [finishedEvent a]

/-- The events of a run, in their order. -/
def events : List Log.Event :=
  call.engineEvents rules ++ call.scanEvents rules ++ call.analysisEvents rules ++
    call.closingEvents rules

/-- The scan as a request for spans, by the paths of the tree dumps it comes to. -/
def scanRequest (paths : List String) : Request :=
  .span "scan" [("annolint.phase", "scan")] false
    (paths.map fun path => .span "tree.scan" [("annolint.tree_path", path)] false [])

/-- The look at the list of files as a request for a span. -/
def artifactRequest : Request :=
  .span "artifact_analysis" [("annolint.phase", "artifact_analysis")] false []

/-- A rule at work as a request for a span. -/
def ruleRequest (rule : ConfiguredRule) : Request :=
  .span ("rule:" ++ rule.info.id) [("annolint.rule_id", rule.info.id)] false []

/-- The attributes of the span of a unit. -/
def unitAttributes (artifacts : List Sarif.Artifact) (u : SourceUnit) : Attributes :=
  ("annolint.tree", u.tree.path) ::
    ((Sarif.artifactUri artifacts u.artifact).map fun uri => ("annolint.artifact_uri", uri)).toList

/-- Records a move of a worker. A worker opens the span of a unit below `parent` when it takes the
unit, and applies the rules before it finishes. -/
def watchDeed (s : Scanned) (parent : Option Nat) (session : Session) : Deed → Session
  | .took worker job =>
    match s.found.units[job]? with
    | none => session
    | some u =>
      session.enterBelow (worker + 1) parent "tree" (unitAttributes s.found.artifacts u)
  | .finished worker job =>
    match s.found.units[job]? with
    | none => session
    | some u =>
      (performAll (worker + 1) ((s.engine.triedRules u.tree).map ruleRequest) session).leave
        (worker + 1)

/-- Records the analysis. -/
def watchAnalysis (s : Scanned) (session : Session) : Session :=
  let session := session.enter 0 "analysis" [("annolint.phase", "analysis")]
  let parent := session.current 0
  let deeds := (s.engine.pool s.found.artifacts s.found.units call.schedule).deeds
  (deeds.foldl (watchDeed s parent) session).leave 0

/-- Records what follows the scan. -/
def watchAfterScan (session : Session) : Session :=
  match call.scanned rules with
  | .error _ => session
  | .ok s => call.watchAnalysis s (artifactRequest.perform 0 session)

/-- Records a run from the scan on. -/
def watched (session : Session) : Session :=
  match call.ready rules with
  | .error _ => session
  | .ok _ =>
    call.watchAfterScan rules
      ((scanRequest (Scan.triedPaths call.files call.input)).perform 0 session)

/-- Where the spans of a run are sent, if it gets far enough to record any. -/
def target? : Option Url :=
  match call.ready rules with
  | .error _ => none
  | .ok ready => ready.endpoint

/-- What is recorded of a run. -/
def recorder? : Option Recorder :=
  ((call.target? rules).map fun _ => call.watched rules { recorder := some {} }).bind
    Session.recorder

end Call

end NullLint
