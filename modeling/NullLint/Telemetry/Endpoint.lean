import NullLint.Url.Parse

set_option autoImplicit false
set_option relaxedAutoImplicit false

/-!
# Endpoints for spans

Spans are sent to an endpoint, which is given by a URL. A URL without a path and the URL of the
endpoint for logs stand for the endpoint for spans on the same host.

## Main definitions

* `Telemetry.tracePath` — the path to which spans are sent.
* `Telemetry.endpoint` — the endpoint that a text stands for.
-/

namespace NullLint.Telemetry

/-- The path of the endpoint for spans. -/
def tracesPath : String := "/v1/traces"

/-- The path of the endpoint for logs. -/
def logsPath : String := "/v1/logs"

/-- The part of a text before an ending. -/
def dropEnding? (ending s : String) : Option String :=
  let cs := s.toList
  let n := cs.length - ending.length
  if cs.drop n = ending.toList then some (String.ofList (cs.take n)) else none

/-- The path to which spans are sent. -/
def tracePath (path : String) : String :=
  if path = "/" then tracesPath
  else
    match dropEnding? logsPath path with
    | some before => before ++ tracesPath
    | none => path

/-- The URL to which spans are sent. -/
def traceUrl (u : Url) : Url :=
  if tracePath u.path = u.path then u else u.withPath (tracePath u.path)

/-- The endpoint that a text stands for. -/
def endpoint (s : String) : Except Url.Fault Url :=
  (Url.parse s).map traceUrl

/-- The words for an endpoint that is no URL, from the general to the particular. -/
def endpointChain (fault : Url.Fault) : List String :=
  ["parse OTLP endpoint", fault.message]

end NullLint.Telemetry
