import NullLint.Engine.Pool
import NullLint.Sarif

set_option autoImplicit false
set_option relaxedAutoImplicit false

/-!
# Analysing trees

The engine applies its rules to each tree. The trees are jobs for a pool of workers; within a tree
the rules come one after the other.

## Main definitions

* `SourceUnit` — a tree and the index of the file it belongs to.
* `Engine.unitResults` — the results of all rules about one tree.
* `Engine.analyze` — the results about all trees, in their order.
* `Engine.unitEvents`, `Engine.triedRules` — the events and the rules of the work on one tree.
-/

namespace NullLint

open Syntax

/-- A tree, and the index of its file in the list of analysed files. -/
structure SourceUnit where
  tree : Tree
  artifact : Int

namespace Engine

variable (engine : Engine)

/-- The results of a rule about a tree in a file that may be known. -/
def ruleResults (uri : Option String) (t : Tree) (rule : ConfiguredRule) :
    Except DispatchError (List Sarif.Result) :=
  (rule.dispatch t).map fun ds => ds.map (Sarif.Result.ofDiagnostic rule.info.id uri)

/-- The results of all rules about a tree, in the order of the rules. -/
def treeResults (uri : Option String) (t : Tree) : Except DispatchError (List Sarif.Result) :=
  (engine.rules.mapM (ruleResults uri t)).map List.flatten

/-- The results about one unit. -/
def unitResults (artifacts : List Sarif.Artifact) (u : SourceUnit) :
    Except DispatchError (List Sarif.Result) :=
  engine.treeResults (Sarif.artifactUri artifacts u.artifact) u.tree

/-- The results about the unit of a number; a number without a unit has none. -/
def jobResults (artifacts : List Sarif.Artifact) (units : List SourceUnit) (job : Nat) :
    Except DispatchError (List Sarif.Result) :=
  match units[job]? with
  | none => .ok []
  | some u => engine.unitResults artifacts u

/-- The work on all units under a schedule. -/
def pool (artifacts : List Sarif.Artifact) (units : List SourceUnit) (schedule : List Move) :
    Pool DispatchError (List Sarif.Result) :=
  Pool.run (engine.jobResults artifacts units) units.length schedule

/-- The results about all units, in the order of the units. -/
def analyze (artifacts : List Sarif.Artifact) (units : List SourceUnit) (schedule : List Move) :
    Except DispatchError (List Sarif.Result) :=
  ((engine.pool artifacts units schedule).result units.length).map List.flatten

/-- The rules that are applied to a tree; the first one that fails is the last. -/
def triedRules (t : Tree) : List ConfiguredRule :=
  through (fun rule => !(rule.dispatch t).isOk) engine.rules

/-- The event that tells that a rule is done with a tree. -/
def finishedEvent (rule : ConfiguredRule) (t : Tree) (count : Nat) : Log.Event where
  level := .debug
  source := "annolint::engine"
  message := "rule finished"
  details := [("rule", Text.quoted rule.info.id), ("tree", Text.quoted t.path),
    ("diagnostics", toString count)]

/-- The events of one rule on one tree. -/
def ruleEvents (t : Tree) (rule : ConfiguredRule) : List Log.Event :=
  rule.dispatchEvents t ++
    match rule.dispatch t with
    | .error _ => []
    | .ok ds => [finishedEvent rule t ds.length]

/-- The events of the work on one unit. -/
def unitEvents (u : SourceUnit) : List Log.Event :=
  (engine.triedRules u.tree).flatMap (ruleEvents u.tree)

/-- The events of a move that was made: all those of a unit when it is finished. -/
def deedEvents (units : List SourceUnit) : Deed → List Log.Event
  | .took _ _ => []
  | .finished _ job => (units[job]?.map engine.unitEvents).getD []

/-- The events of the work on all units under a schedule. -/
def analyzeEvents (artifacts : List Sarif.Artifact) (units : List SourceUnit)
    (schedule : List Move) : List Log.Event :=
  (engine.pool artifacts units schedule).deeds.flatMap (engine.deedEvents units)

end Engine

end NullLint
