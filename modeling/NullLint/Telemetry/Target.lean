import NullLint.Telemetry.Endpoint

set_option autoImplicit false
set_option relaxedAutoImplicit false

/-!
# Targets of requests

Spans are sent by requests, and a request goes to a host. A URL without a host can be written as if
it were a host with a port, and is then accepted; any other URL without a host is not a target.

## Main definitions

* `Telemetry.TargetFault` — why a URL is no target.
* `Telemetry.targetFault?` — what is wrong with a URL as a target.
* `Telemetry.target` — the URL to which spans are sent.
-/

namespace NullLint.Telemetry

/-- Why a URL is no target of a request. -/
inductive TargetFault where
  | badCharacter
  | badAuthority
  | badFormat
  | empty
  | tooLong
  | longScheme
  deriving DecidableEq, Repr

/-- The words for a fault. -/
def TargetFault.message : TargetFault → String
  | .badCharacter => "invalid uri character"
  | .badAuthority => "invalid authority"
  | .badFormat => "invalid format"
  | .empty => "empty string"
  | .tooLong => "uri too long"
  | .longScheme => "scheme too long"

/-- Whether a character can stand where a host is expected. -/
def isHostChar (c : Char) : Bool :=
  c.isAlphanum ||
    ['!', '$', '&', '\'', '(', ')', '*', '+', ',', '-', '.', ':', ';', '=', '@', '[', ']', '_',
      '~', '%'].contains c

/-- Whether a character ends a host. -/
def endsHost (c : Char) : Bool :=
  c == '/' || c == '?' || c == '#'

/-- What was seen of a host: the colons and percent signs that do not belong to a name before an
at-sign or to an address in brackets, whether brackets were opened and closed, and whether the last
character was an at-sign. -/
structure HostScan where
  colons : Nat := 0
  percent : Bool := false
  opened : Bool := false
  closed : Bool := false
  atSign : Bool := false
  deriving DecidableEq, Repr

/-- Looks at one more character of a host. -/
def HostScan.step (h : HostScan) (c : Char) : Except TargetFault HostScan :=
  let h := { h with atSign := false }
  if !isHostChar c then .error .badCharacter
  else if c == ':' then
    if 8 ≤ h.colons then .error .badAuthority else .ok { h with colons := h.colons + 1 }
  else if c == '[' then
    if h.percent || h.opened then .error .badAuthority else .ok { h with opened := true }
  else if c == ']' then
    if !h.opened || h.closed then .error .badAuthority
    else .ok { h with closed := true, colons := 0, percent := false }
  else if c == '@' then .ok { h with colons := 0, percent := false, atSign := true }
  else if c == '%' then .ok { h with percent := true }
  else .ok h

/-- Whether a host is well-formed as far as it was looked at. -/
def HostScan.finish (h : HostScan) : Except TargetFault Unit :=
  if h.opened != h.closed || 1 < h.colons || h.atSign || h.percent then .error .badAuthority
  else .ok ()

/-- Looks at a host. -/
def scanHost (cs : List Char) : Except TargetFault Unit :=
  (cs.foldlM HostScan.step {}).bind HostScan.finish

/-- What is wrong with a URL as a target of a request. -/
def targetFault? (u : Url) : Option TargetFault :=
  let cs := u.text.toList
  let whole := cs.drop (u.scheme.length + 1)
  if 65534 < cs.length then some .tooLong
  else if u.authority.isSome then
    if 64 < u.scheme.length then some .longScheme
    else if whole.length = 2 then some .empty
    else
      let host := (whole.drop 2).takeWhile fun c => !endsHost c
      match scanHost host with
      | .error fault => some fault
      | .ok _ => if host.isEmpty then some .badFormat else none
  else
    let host := cs.takeWhile fun c => !endsHost c
    match scanHost host with
    | .error fault => some fault
    | .ok _ => if host.length < cs.length then some .badFormat else none

/-- Why spans cannot be sent: the endpoint is no URL, or its URL is no target. -/
inductive EndpointError where
  | malformed (fault : Url.Fault)
  | unusable (url : String) (fault : TargetFault)
  deriving DecidableEq, Repr

/-- The words for an error, from the general to the particular. -/
def EndpointError.chain : EndpointError → List String
  | .malformed fault => endpointChain fault
  | .unusable url fault =>
    ["build OTLP span exporter", "invalid URI " ++ url ++ ". Reason " ++ fault.message]

/-- The URL to which spans are sent for the endpoint that a text stands for. -/
def target (s : String) : Except EndpointError Url :=
  match endpoint s with
  | .error fault => .error (.malformed fault)
  | .ok u =>
    match targetFault? u with
    | none => .ok u
    | some fault => .error (.unusable u.text fault)

end NullLint.Telemetry
