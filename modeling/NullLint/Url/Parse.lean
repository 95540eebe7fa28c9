import NullLint.Url.Basic

set_option autoImplicit false
set_option relaxedAutoImplicit false

/-!
# Reading URLs

A URL is read from left to right: the scheme, then the host with what belongs to it, the path, the
query and the fragment. What may be left out and which separators count depends on the scheme.

## Main definitions

* `Url.Fault` — why a text is no URL.
* `Url.Walk`, `Url.segmentsOf` — following a path, and the segments that are left of it.
* `Url.parse` — the URL of a text.
-/

namespace NullLint.Url

/-- Why a text is no URL. -/
inductive Fault where
  | noScheme
  | host (fault : HostFault)
  | badPort
  deriving DecidableEq, Repr

/-- The words for a fault. -/
def Fault.message : Fault → String
  | .noScheme => "relative URL without a base"
  | .host .empty => "empty host"
  | .host .badDomain => "invalid international domain name"
  | .host .badShort => "invalid IPv4 address"
  | .host .badLong => "invalid IPv6 address"
  | .host .badCharacter => "invalid domain character"
  | .badPort => "invalid port number"

/-- Whether a character is dropped at the two ends of a URL. -/
def isMargin (c : Char) : Bool := c.toNat ≤ 0x20

/-- A text without its margins. -/
def trimmed (s : String) : List Char :=
  ((s.toList.dropWhile isMargin).reverse.dropWhile isMargin).reverse

/-- Tabs and line breaks, which do not count. -/
def isGap (c : Char) : Bool :=
  c == '\t' || c == '\n' || c == '\r'

/-- The characters that count. -/
def withoutGaps (cs : List Char) : List Char :=
  cs.filter fun c => !isGap c

/-- Whether a scheme can go on with a character. -/
def isSchemeChar (c : Char) : Bool :=
  c.isAlphanum || c == '+' || c == '-' || c == '.'

/-- The scheme in lower case, and what follows its colon. -/
def splitScheme (cs : List Char) : Option (String × List Char) :=
  match cs with
  | [] => none
  | c :: _ =>
    if !c.isAlpha then none
    else
      match cs.dropWhile isSchemeChar with
      | ':' :: rest => some (String.ofList ((cs.takeWhile isSchemeChar).map Char.toLower), rest)
      | _ => none

/-- Whether a character separates the segments of a path. -/
def isSlash (special : Bool) (c : Char) : Bool :=
  c == '/' || (special && c == '\\')

/-- Whether the host and what belongs to it end before a character. -/
def endsAuthority (special : Bool) (c : Char) : Bool :=
  isSlash special c || c == '?' || c == '#'

/-- Whether a segment stands for the directory itself. -/
def isSingleDot (s : List Char) : Bool :=
  [".", "%2e", "%2E"].contains (String.ofList s)

/-- Whether a segment stands for the directory above. -/
def isDoubleDot (s : List Char) : Bool :=
  ["..", "%2e%2e", "%2e%2E", "%2E%2e", "%2E%2E", "%2e.", "%2E.", ".%2e", ".%2E"].contains
    (String.ofList s)

/-- Whether a segment is the letter of a drive. -/
def isDriveLetter : List Char → Bool
  | [c, d] => c.isAlpha && (d == ':' || d == '|')
  | _ => false

/-- Whether a segment starts with the letter of a drive and ends there or goes on with a reverse
solidus. -/
def startsWithDrive : List Char → Bool
  | [c, d] => isDriveLetter [c, d]
  | c :: d :: '\\' :: _ => isDriveLetter [c, d]
  | _ => false

/-- The segments between separators. -/
def rawSegments (special : Bool) : List Char → List (List Char)
  | [] => [[]]
  | c :: cs =>
    if isSlash special c then [] :: rawSegments special cs
    else
      match rawSegments special cs with
      | [] => [[c]]
      | s :: ss => (c :: s) :: ss

/-- A segment as it is written. -/
def segmentText (s : List Char) : String :=
  String.ofList (encode pathSet s)

/-- The letter of a drive with its colon and what follows them, if there is a gap in between. -/
def cutDrive? (s : List Char) : Option (List Char × List Char) :=
  match s.dropWhile isGap with
  | c :: s =>
    match s.dropWhile isGap with
    | ':' :: g :: s =>
      let rest := withoutGaps s
      if isDriveLetter [c, ':'] && isGap g && !rest.isEmpty then some ([c, ':'], rest) else none
    | _ => none
  | [] => none

/-- What has been followed of a path: the segments that are kept, and whether there is a drive whose
letter stands in the place of a host. -/
structure Walk where
  kept : List String := []
  drive : Bool := false
  deriving DecidableEq, Repr

namespace Walk

/-- Goes to the directory above. There is none above a drive. -/
def up (w : Walk) : Walk :=
  match w.kept.getLast? with
  | none => w
  | some s => if startsWithDrive s.toList then w else { w with kept := w.kept.dropLast }

/-- Goes on to a segment. At the start of the path of a file the letter of a drive is followed by a
colon; a gap after that colon separates segments. -/
def down (file : Bool) (w : Walk) (s : List Char) : Walk :=
  let name := withoutGaps s
  match file && w.kept.isEmpty, cutDrive? s with
  | true, some (drive, rest) => { w with kept := [String.ofList drive, segmentText rest] }
  | true, none =>
    if isDriveLetter name then ⟨[String.ofList (name.take 1 ++ [':'])], true⟩
    else { w with kept := [segmentText name] }
  | false, _ => { w with kept := w.kept ++ [segmentText name] }

/-- Comes to rest at a directory. -/
def rest (w : Walk) : Walk :=
  { w with kept := w.kept ++ [""] }

/-- Follows one segment after the other. Those that stand for a directory are not kept themselves;
if one is the last an empty segment stands in its place. -/
def follow (file : Bool) (w : Walk) : List (List Char) → Walk
  | [] => w
  | s :: ss =>
    let name := withoutGaps s
    if isDoubleDot name then follow file (if ss.isEmpty then w.up.rest else w.up) ss
    else if isSingleDot name then follow file (if ss.isEmpty then w.rest else w) ss
    else follow file (w.down file s) ss

end Walk

/-- The path of a file has no empty segments at its start. -/
def trimSegments (segments : List String) : List String :=
  match segments.dropWhile String.isEmpty with
  | [] => [""]
  | kept => kept

/-- A path without the separator at its start. -/
def afterSeparator (special : Bool) (cs : List Char) : List Char :=
  match cs with
  | [] => []
  | c :: rest => if isSlash special c then rest else c :: rest

/-- The segments of a path. A separator at its start is not part of a segment. -/
def segmentsOf (scheme : String) (cs : List Char) : List String :=
  let special := isSpecial scheme
  let file := scheme == "file"
  let w := Walk.follow file {} (rawSegments special (afterSeparator special cs))
  if file then trimSegments w.kept else w.kept

/-- The name and the password before a host. -/
def credentialsOf (cs : List Char) : String × Option String :=
  let name := String.ofList (encode userinfoSet (cs.takeWhile (· != ':')))
  match cs.dropWhile (· != ':') with
  | [] | [_] => (name, none)
  | _ :: password => (name, some (String.ofList (encode userinfoSet password)))

/-- The part of a text after its last at-sign, and the part before it if there is one. -/
def splitCredentials (cs : List Char) : Option (List Char) × List Char :=
  let host := Text.afterLastChars '@' cs
  if host.length < cs.length then (some (cs.take (cs.length - host.length - 1)), host)
  else (none, host)

/-- The characters of a host; a colon in brackets belongs to it. -/
def takeHost (inBrackets : Bool) : List Char → List Char
  | [] => []
  | c :: cs =>
    if c == ':' && !inBrackets then []
    else c :: takeHost (if c == '[' then true else if c == ']' then false else inBrackets) cs

/-- A port that is not the one the scheme implies, and what follows it. -/
def portOf (scheme : String) (cs : List Char) : Except Fault (Option Nat × List Char) :=
  let digits := cs.takeWhile Char.isDigit
  let rest := cs.drop digits.length
  match digitsValue? 10 digits with
  | none => .error .badPort
  | some n =>
    if 65535 < n then .error .badPort
    else if !rest.isEmpty && rest.head? != some '\\' then .error .badPort
    else .ok (if digits.isEmpty || defaultPort? scheme = some n then none else some n, rest)

/-- The port after a host, and what follows it. -/
def portAfterHost (scheme : String) (host : Host) :
    List Char → Except Fault (Option Nat × List Char)
  | ':' :: cs =>
    if host = .domain "" then .error (.host .empty) else portOf scheme cs
  | cs => .ok (none, cs)

/-- The host at the start of some characters, and what belongs to it. -/
def authorityOf (scheme : String) (cs : List Char) : Except Fault (Authority × List Char) :=
  let special := isSpecial scheme
  let part := cs.takeWhile fun c => !endsAuthority special c
  let after := cs.drop part.length
  let (credentials, hostPart) := splitCredentials part
  if credentials == some [] && hostPart.isEmpty && !after.isEmpty then .error (.host .empty)
  else
    let name := takeHost false hostPart
    let parsed := if special then parseHost name else parseOpaqueHost name
    match parsed with
    | .error fault => .error (.host fault)
    | .ok host =>
      match portAfterHost scheme host (hostPart.drop name.length) with
      | .error fault => .error fault
      | .ok (port, rest) =>
        let (username, password) := credentialsOf (credentials.getD [])
        if host = .domain "" && (!username.isEmpty || password.isSome) then .error (.host .empty)
        else .ok (⟨username, password, host, port⟩, rest ++ after)

/-- Cuts off what follows a path: the query and the fragment. -/
def splitSuffix (special : Bool) (cs : List Char) : List Char × Option String × Option String :=
  let path := cs.takeWhile fun c => c != '?' && c != '#'
  let fragmentOf (rest : List Char) : Option String :=
    match rest with
    | '#' :: f => some (String.ofList (encode fragmentSet (withoutGaps f)))
    | _ => none
  match cs.drop path.length with
  | '?' :: rest =>
    let query := rest.takeWhile (· != '#')
    (path, some (String.ofList (encode (querySet special) (withoutGaps query))),
      fragmentOf (rest.drop query.length))
  | rest => (path, none, fragmentOf rest)

/-- The URL with a host. -/
def withAuthority (scheme : String) (cs : List Char) : Except Fault Url :=
  match authorityOf scheme cs with
  | .error fault => .error fault
  | .ok (authority, rest) =>
    let (path, query, fragment) := splitSuffix (isSpecial scheme) rest
    let segments :=
      if path.isEmpty && !isSpecial scheme then [] else segmentsOf scheme path
    .ok ⟨scheme, some authority, .segments segments, query, fragment⟩

/-- The URL without a host. -/
def withoutAuthority (scheme : String) (cs : List Char) : Url :=
  let (path, query, fragment) := splitSuffix false cs
  match path with
  | '/' :: _ => ⟨scheme, none, .segments (segmentsOf scheme path), query, fragment⟩
  | _ => ⟨scheme, none, .verbatim (String.ofList (encode controlSet path)), query, fragment⟩

/-- The URL of a file on a host, which is empty for this computer. A drive is on this computer. -/
def fileOn (host : Host) (cs : List Char) : Url :=
  let (path, query, fragment) := splitSuffix true cs
  let w := Walk.follow true {} (rawSegments true path)
  ⟨"file", some { host := if w.drive then .domain "" else host }, .segments (trimSegments w.kept),
    query, fragment⟩

/-- What follows a separator. -/
def afterSlash? (cs : List Char) : Option (List Char) :=
  match cs.dropWhile isGap with
  | [] => none
  | c :: rest => if isSlash true c then some rest else none

/-- The URL of a file, from what follows two separators. Without a host the separator at the start
of the path is a segment of its own. -/
def fileWithHost (cs : List Char) : Except Fault Url :=
  let part := cs.takeWhile fun c => !endsAuthority true c
  let after := cs.drop part.length
  let name := withoutGaps part
  if name.isEmpty then .ok (fileOn (.domain "") after)
  else if isDriveLetter name then .ok (fileOn (.domain "") cs)
  else
    match parseHost name with
    | .error fault => .error (.host fault)
    | .ok host =>
      if host = .domain "localhost" then .ok (fileOn (.domain "") after)
      else .ok (fileOn host (afterSeparator true after))

/-- The URL of a file, from what follows the scheme. -/
def fileUrl (cs : List Char) : Except Fault Url :=
  match afterSlash? cs with
  | none => .ok (fileOn (.domain "") cs)
  | some rest =>
    match afterSlash? rest with
    | none => .ok (fileOn (.domain "") rest)
    | some rest => fileWithHost rest

/-- The URL of a text. Gaps are looked at in the path of a file only. -/
def parse (s : String) : Except Fault Url :=
  let cs := trimmed s
  match splitScheme (withoutGaps cs) with
  | none => .error .noScheme
  | some (scheme, rest) =>
    if scheme = "file" then fileUrl ((cs.dropWhile (· != ':')).drop 1)
    else if isSpecial scheme then withAuthority scheme (rest.dropWhile (isSlash true))
    else
      match rest with
      | '/' :: '/' :: rest => withAuthority scheme rest
      | _ => .ok (withoutAuthority scheme rest)

/-- A URL with another path. -/
def withPath (u : Url) (path : String) : Url :=
  match u.target with
  | .verbatim _ => { u with target := .verbatim (String.ofList (encode controlSet path.toList)) }
  | .segments _ => { u with target := .segments (segmentsOf u.scheme path.toList) }

end NullLint.Url
