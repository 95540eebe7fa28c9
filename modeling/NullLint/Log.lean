import NullLint.Text.Cut
import NullLint.Text.Quoted

set_option autoImplicit false
set_option relaxedAutoImplicit false

/-!
# Log events

What happens during a run is logged as events.

## Main definitions

* `Log.Level`, `Log.Event` — events and their levels.
* `Log.Event.lines` — the lines an event is written as.
-/

namespace NullLint.Log

/-- The levels of events, from the most important to the least. -/
inductive Level where
  | error
  | warn
  | info
  | debug
  | trace
  deriving DecidableEq, Repr, Inhabited

namespace Level

/-- All levels, from the most important to the least. -/
def all : List Level := [.error, .warn, .info, .debug, .trace]

/-- The number of a level: the higher, the less important. -/
def rank : Level → Nat
  | .error => 1
  | .warn => 2
  | .info => 3
  | .debug => 4
  | .trace => 5

/-- The name of a level. -/
def name : Level → String
  | .error => "ERROR"
  | .warn => "WARN"
  | .info => "INFO"
  | .debug => "DEBUG"
  | .trace => "TRACE"

end Level

/-- An event: its level, the part of the program it comes from, what happened, and named details
as they are shown. -/
structure Event where
  level : Level
  source : String
  message : String
  details : List (String × String) := []
  deriving DecidableEq, Repr

/-- An event as it is written, without the time. -/
def Event.text (e : Event) : String :=
  e.level.name ++ " " ++ e.source ++ ": " ++ e.message ++
    String.join (e.details.map fun d => " " ++ d.1 ++ "=" ++ d.2)

/-- The lines of an event. There are several if a detail that is shown as it is has line breaks. -/
def Event.lines (e : Event) : List String :=
  Text.pieces '\n' e.text

end NullLint.Log
