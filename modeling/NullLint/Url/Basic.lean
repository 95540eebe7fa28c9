import NullLint.Url.Host

set_option autoImplicit false
set_option relaxedAutoImplicit false

/-!
# URLs

## Main definitions

* `Url` — a URL: its scheme, where it leads, and what is asked for there.
* `Url.text` — a URL as it is written.
* `Url.isSpecial`, `Url.defaultPort?` — what is known about some schemes.
-/

namespace NullLint

/-- Where a URL leads: a host, perhaps with a port and with a name and a password for it. The name
and the password are percent-encoded. -/
structure Url.Authority where
  username : String := ""
  password : Option String := none
  host : Url.Host
  port : Option Nat := none
  deriving DecidableEq, Repr

/-- What is asked for: a list of segments, or a text that is taken as it is. -/
inductive Url.Target where
  | segments (list : List String)
  | verbatim (text : String)
  deriving DecidableEq, Repr

/-- A URL. All of its parts are percent-encoded. -/
structure Url where
  scheme : String
  authority : Option Url.Authority := none
  target : Url.Target
  query : Option String := none
  fragment : Option String := none
  deriving DecidableEq, Repr

namespace Url

/-- Whether a scheme is one of those whose URLs always lead to a host or a file. -/
def isSpecial (scheme : String) : Bool :=
  ["http", "https", "ws", "wss", "ftp", "file"].contains scheme

/-- The port that a scheme implies. -/
def defaultPort? (scheme : String) : Option Nat :=
  if scheme = "http" || scheme = "ws" then some 80
  else if scheme = "https" || scheme = "wss" then some 443
  else if scheme = "ftp" then some 21
  else none

/-- The name and the password as they are written before the host. -/
def Authority.credentials (a : Authority) : String :=
  if a.username.isEmpty && a.password.isNone then ""
  else a.username ++ ((a.password.map fun p => ":" ++ p).getD "") ++ "@"

/-- The part of a URL that tells where it leads. -/
def Authority.text (a : Authority) : String :=
  a.credentials ++ a.host.text ++ (a.port.map fun p => ":" ++ toString p).getD ""

/-- The part of a URL that tells what is asked for. -/
def Target.text : Target → String
  | .segments list => String.join (list.map fun s => "/" ++ s)
  | .verbatim text => text

/-- What stands between the scheme and the path. Without a host, a path that starts with an empty
segment needs a mark so that the segment after it is not taken for a host. -/
def beforePath (u : Url) : String :=
  match u.authority, u.target with
  | some a, _ => "//" ++ a.text
  | none, .segments ("" :: _ :: _) => "/."
  | none, _ => ""

/-- The path of a URL. -/
def path (u : Url) : String :=
  u.target.text

/-- The path and the query of a URL, as they are sent to the host. -/
def pathAndQuery (u : Url) : String :=
  u.path ++ (u.query.map fun q => "?" ++ q).getD ""

/-- A URL as it is written. -/
def text (u : Url) : String :=
  u.scheme ++ ":" ++ u.beforePath ++ u.pathAndQuery ++ (u.fragment.map fun f => "#" ++ f).getD ""

end Url

end NullLint
