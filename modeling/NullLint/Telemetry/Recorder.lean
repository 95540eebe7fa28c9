set_option autoImplicit false
set_option relaxedAutoImplicit false

/-!
# Recording spans

A span is a stretch of work with a name and some attributes. Each thread keeps the spans that are
open on it, one inside the other; a new span belongs to the innermost of them unless another parent
is named. A span is recorded when its work ends.

## Main definitions

* `Telemetry.Span` — a span with its number and the number of its parent.
* `Telemetry.Recorder` — the spans that are open and those that have ended;
  `Telemetry.Recorder.enter` and `Telemetry.Recorder.leave` open and close one.
* `Telemetry.Recorder.shutdown` — ends the recording.
* `Telemetry.SpanTree`, `Telemetry.Recorder.forest` — the recorded spans as trees.

## Design

Work on another thread has to name its parent, since the spans that are open on one thread are
unknown to the others.
-/

namespace NullLint.Telemetry

/-- Named details of a span. -/
abbrev Attributes := List (String × String)

/-- A span. The numbers of spans count them in the order in which they were opened. -/
structure Span where
  id : Nat
  parent : Option Nat
  name : String
  attributes : Attributes
  deriving DecidableEq, Repr

/-- What has been recorded: how many spans were opened, which are open on each thread, the
innermost first, and which have ended, in the order of ending. -/
structure Recorder where
  opened : Nat := 0
  attached : Nat → List Span := fun _ => []
  ended : List Span := []
  closed : Bool := false

namespace Recorder

/-- The innermost span that is open on a thread. -/
def current (r : Recorder) (thread : Nat) : Option Nat :=
  (r.attached thread).head?.map (·.id)

/-- A recorder with other spans open on a thread. -/
def withAttached (r : Recorder) (thread : Nat) (spans : List Span) : Recorder :=
  { r with attached := fun t => if t = thread then spans else r.attached t }

/-- How many attributes a span keeps. -/
def maxAttributes : Nat := 128

/-- Opens a span on a thread, below the parent that is named. Of its attributes the first ones are
kept. -/
def enter (r : Recorder) (thread : Nat) (parent : Option Nat) (name : String)
    (attributes : Attributes) : Recorder :=
  let span := ⟨r.opened, parent, name, attributes.take maxAttributes⟩
  { r.withAttached thread (span :: r.attached thread) with opened := r.opened + 1 }

/-- Closes the innermost span of a thread. -/
def leave (r : Recorder) (thread : Nat) : Recorder :=
  match r.attached thread with
  | [] => r
  | span :: spans => { r.withAttached thread spans with ended := r.ended ++ [span] }

end Recorder

/-- A recorder can be shut down only once. -/
inductive ShutdownError where
  | alreadyShutDown
  deriving DecidableEq, Repr

/-- The words for an error. -/
def ShutdownError.message : ShutdownError → String
  | .alreadyShutDown => "failed to shutdown tracer provider: Shutdown already invoked"

/-- Ends the recording. -/
def Recorder.shutdown (r : Recorder) : Except ShutdownError Recorder :=
  if r.closed then .error .alreadyShutDown else .ok { r with closed := true }

/-- A span with the spans below it. -/
inductive SpanTree where
  | node (name : String) (attributes : Attributes) (children : List SpanTree)
  deriving Repr

/-- The spans below a parent as trees of at most `fuel` levels. -/
def treesBelow (spans : List Span) : Nat → Option Nat → List SpanTree
  | 0, _ => []
  | fuel + 1, parent =>
    (spans.filter fun s => s.parent == parent).map fun s =>
      .node s.name s.attributes (treesBelow spans fuel (some s.id))

/-- The spans that have ended as trees. There are at most as many levels as spans. -/
def Recorder.forest (r : Recorder) : List SpanTree :=
  treesBelow r.ended r.ended.length none

/-- The names of the services whose spans have ended. -/
def Recorder.services (r : Recorder) : List String :=
  if r.ended.isEmpty then [] else ["annolint"]

end NullLint.Telemetry
