import NullLint.Telemetry.Recorder

set_option autoImplicit false
set_option relaxedAutoImplicit false

/-!
# Work inside spans

A request is a piece of work that wants a span of its own and contains further requests. It is done
on the thread of the work around it, or apart from it on a thread of its own. The work is done
whether or not it is watched.

## Main definitions

* `Telemetry.Request` — requests.
* `Telemetry.Session` — a recorder, if there is one, and how much work was done.
* `Telemetry.Request.perform`, `Telemetry.performAll` — doing the work of requests.
-/

namespace NullLint.Telemetry

/-- A piece of work with a span of its own; `apart` tells that it is done on another thread. -/
inductive Request where
  | span (name : String) (attributes : Attributes) (apart : Bool) (children : List Request)
  deriving Repr, Inhabited

/-- The state of the work: the recorder that watches it, if any, the number of requests that were
done, and the number of threads that were started. -/
structure Session where
  recorder : Option Recorder
  performed : Nat := 0
  threads : Nat := 1

namespace Session

/-- The innermost span of a thread. -/
def current (s : Session) (thread : Nat) : Option Nat :=
  s.recorder.bind fun r => r.current thread

/-- Opens a span on a thread below the parent that is named. -/
def enterBelow (s : Session) (thread : Nat) (parent : Option Nat) (name : String)
    (attributes : Attributes) : Session :=
  { s with recorder := s.recorder.map fun r => r.enter thread parent name attributes }

/-- Opens a span on a thread inside the innermost one. -/
def enter (s : Session) (thread : Nat) (name : String) (attributes : Attributes) : Session :=
  s.enterBelow thread (s.current thread) name attributes

/-- Closes the innermost span of a thread. -/
def leave (s : Session) (thread : Nat) : Session :=
  { s with recorder := s.recorder.map fun r => r.leave thread }

/-- Counts a request that is done. -/
def count (s : Session) : Session :=
  { s with performed := s.performed + 1 }

/-- Starts a thread; its number is that of the threads before. -/
def startThread (s : Session) : Session :=
  { s with threads := s.threads + 1 }

end Session

mutual

/-- Does the work of a request on a thread. A request that is done apart gets a new thread, and a
span named `thread` around its own that names the innermost span of the old thread as its parent. -/
def Request.perform (thread : Nat) : Request → Session → Session
  | .span name attributes true children, s =>
    let worker := s.threads
    let s := (s.startThread).enterBelow worker (s.current thread) "thread" []
    let s := performAll worker children (s.count.enter worker name attributes)
    (s.leave worker).leave worker
  | .span name attributes false children, s =>
    (performAll thread children (s.count.enter thread name attributes)).leave thread

/-- Does the work of requests one after the other. -/
def performAll (thread : Nat) : List Request → Session → Session
  | [], s => s
  | r :: rs, s => performAll thread rs (r.perform thread s)

end

/-- A request that is done where it is asked for. -/
def Request.here : Request → Request
  | .span name attributes _ children => .span name attributes false children

/-- Does the work of the outermost requests, all of them on the first thread. -/
def performRoots (rs : List Request) (s : Session) : Session :=
  performAll 0 (rs.map Request.here) s

/-- Shuts down a recorder a number of times; the answers are in their order. -/
def shutdownTimes : Nat → Recorder → List (Except ShutdownError Unit)
  | 0, _ => []
  | n + 1, r =>
    match r.shutdown with
    | .error e => .error e :: shutdownTimes n r
    | .ok r => .ok () :: shutdownTimes n r

end NullLint.Telemetry
