import NullLint.Text.Letters
import NullLint.Url.Percent

set_option autoImplicit false
set_option relaxedAutoImplicit false

/-!
# Patterns

A filter can ask for the value of a detail by a pattern, a regular expression. No event has such a
value, so what a pattern matches makes no difference; but a filter with a pattern that cannot be
read is no filter. What a detail is compared with contains no comma, equals sign or closing brace,
so repetitions with a count and names in braces are never complete.

## Main definitions

* `Log.Pattern.isPattern` — whether some characters are a pattern.
* `Log.Pattern.isSignedNumber` — numbers with a plus sign, which are values without being patterns.
-/

namespace NullLint.Log.Pattern

/-! ### Escapes -/

/-- What an escape or a single character in a set stands for. -/
inductive Atom where
  | literal (c : Char)
  | several

/-- Takes a number of hexadecimal digits that are the code point of a character. -/
def codePoint? (width : Nat) (cs : List Char) : Option (Atom × List Char) :=
  let digits := cs.take width
  if digits.length < width || !digits.all (fun c => (Url.hexValue? c).isSome) then none
  else
    let n := digits.foldl (fun n c => 16 * n + (Url.hexValue? c).getD 0) 0
    if n.isValidChar then some (.literal (Char.ofNat n), cs.drop width) else none

/-- The letters of classes of characters that are named after a letter. -/
def isCategory (c : Char) : Bool :=
  ['C', 'L', 'M', 'N', 'P', 'S', 'Z'].contains c.toUpper

/-- What follows a reverse solidus: a class, a code point, a control character, or a character of
ASCII that is no letter or digit and stands for itself. -/
def escape? : List Char → Option (Atom × List Char)
  | 'x' :: cs => codePoint? 2 cs
  | 'u' :: cs => codePoint? 4 cs
  | 'U' :: cs => codePoint? 8 cs
  | 'p' :: c :: cs => if isCategory c then some (.several, cs) else none
  | 'P' :: c :: cs => if isCategory c then some (.several, cs) else none
  | c :: cs =>
    if ['d', 'D', 's', 'S', 'w', 'W'].contains c then some (.several, cs)
    else
      match c with
      | 'a' => some (.literal '\x07', cs)
      | 'f' => some (.literal '\x0c', cs)
      | 't' => some (.literal '\t', cs)
      | 'n' => some (.literal '\n', cs)
      | 'r' => some (.literal '\r', cs)
      | 'v' => some (.literal '\x0b', cs)
      | c =>
        if c.toNat < 0x80 && !c.isAlphanum && c != '<' && c != '>' then some (.literal c, cs)
        else none
  | [] => none

/-! ### Sets -/

/-- The names of classes in brackets and colons. -/
def className (s : List Char) : Bool :=
  ["alnum", "alpha", "ascii", "blank", "cntrl", "digit", "graph", "lower", "print", "punct",
    "space", "upper", "word", "xdigit"].contains (String.ofList s)

/-- What follows a named class, the bracket before which has been read. -/
def afterNamedClass? : List Char → Option (List Char)
  | ':' :: cs =>
    let cs := if cs.head? == some '^' then cs.drop 1 else cs
    let name := cs.takeWhile (· != ':')
    match cs.drop name.length with
    | ':' :: ']' :: rest => if className name then some rest else none
    | _ => none
  | _ => none

/-- What follows the opening of a set: a sign for the opposite, and characters that would have
another meaning later. -/
def afterOpening (cs : List Char) : List Char :=
  let cs := if cs.head? == some '^' then cs.drop 1 else cs
  match cs with
  | ']' :: rest => rest
  | cs => cs.dropWhile (· == '-')

/-- Whether two characters join two sets. -/
def isSetOperator (c d : Char) : Bool :=
  c == d && (c == '&' || c == '-' || c == '~')

/-- Takes a character of a set. -/
def setAtom? : List Char → Option (Atom × List Char)
  | [] => none
  | '\\' :: cs => escape? cs
  | c :: cs => some (.literal c, cs)

/-- Whether one character can be the start of a range and another one its end. -/
def isRange : Atom → Atom → Bool
  | .literal a, .literal b => decide (a ≤ b)
  | _, _ => false

/-- Takes a character or a range of a set. -/
def setItem? (cs : List Char) : Option (List Char) :=
  match setAtom? cs with
  | none => none
  | some (a, '-' :: c :: rest) =>
    if c == ']' || c == '-' then some ('-' :: c :: rest)
    else
      match setAtom? (c :: rest) with
      | none => none
      | some (b, rest) => if isRange a b then some rest else none
  | some (_, rest) => some rest

/-- What follows a set that is inside `depth` other sets. There are no more steps than
characters. -/
def afterSet? : Nat → Nat → List Char → Option (List Char)
  | 0, _, _ => none
  | _, _, [] => none
  | _ + 1, 0, ']' :: cs => some cs
  | fuel + 1, depth + 1, ']' :: cs => afterSet? fuel depth cs
  | fuel + 1, depth, '[' :: cs =>
    match afterNamedClass? cs with
    | some rest => afterSet? fuel depth rest
    | none => afterSet? fuel (depth + 1) (afterOpening cs)
  | fuel + 1, depth, c :: cs =>
    if cs.head?.any (isSetOperator c) then afterSet? fuel depth (cs.drop 1)
    else
      match setItem? (c :: cs) with
      | none => none
      | some rest => afterSet? fuel depth rest

/-! ### Groups -/

/-- How a group opens: with characters to match, or with settings alone, which are no group. -/
inductive Opening where
  | group (name : Option (List Char))
  | settings

/-- The name of a group, and what follows it. -/
def groupName? (cs : List Char) : Option (Opening × List Char) :=
  let name := cs.takeWhile (· != '>')
  match name, cs.drop name.length with
  | c :: rest, '>' :: after =>
    if (c == '_' || Text.isLetter c) &&
        rest.all (fun c => Text.isLetterOrNumber c || ['_', '.', '[', ']'].contains c) then
      some (.group (some name), after)
    else none
  | _, _ => none

/-- Whether characters are settings: each letter once, with a sign for switching off before some. -/
def areSettings (cs : List Char) : Bool :=
  cs.all (fun c => ['i', 'm', 's', 'U', 'u', 'x', 'R', '-'].contains c) && cs.Nodup &&
    cs.getLast? != some '-'

/-- The settings of a group, and what follows them. -/
def settings? (cs : List Char) : Option (Opening × List Char) :=
  let given := cs.takeWhile fun c => c != ')' && c != ':'
  if !areSettings given then none
  else
    match cs.drop given.length with
    | ':' :: rest => some (.group none, rest)
    | ')' :: rest => if given.isEmpty then none else some (.settings, rest)
    | _ => none

/-- What follows the opening of a group. -/
def opening? : List Char → Option (Opening × List Char)
  | '?' :: 'P' :: '<' :: cs => groupName? cs
  | '?' :: '<' :: cs => groupName? cs
  | '?' :: cs => settings? cs
  | cs => some (.group none, cs)

/-! ### Patterns -/

/-- What was seen of a pattern: how many groups are open, the names of groups, and whether something
stands before that can be repeated. -/
structure Reading where
  depth : Nat := 0
  names : List (List Char) := []
  repeatable : Bool := false

/-- Enters a group, whose name must be new. -/
def Reading.enter? (s : Reading) : Opening → Option Reading
  | .settings => some { s with repeatable := false }
  | .group none => some { s with depth := s.depth + 1, repeatable := false }
  | .group (some name) =>
    if s.names.contains name then none
    else some { depth := s.depth + 1, names := name :: s.names, repeatable := false }

/-- What follows a reverse solidus outside of sets: what can be escaped anywhere, or a sign for the
start or the end of a text. -/
def afterEscape? : List Char → Option (List Char)
  | 'A' :: cs => some cs
  | 'z' :: cs => some cs
  | cs => (escape? cs).map (·.2)

/-- Takes one part of a pattern. -/
def step? (s : Reading) : List Char → Option (Reading × List Char)
  | [] => none
  | '\\' :: cs => (afterEscape? cs).map fun rest => ({ s with repeatable := true }, rest)
  | '[' :: cs =>
    (afterSet? (cs.length + 1) 0 (afterOpening cs)).map fun rest =>
      ({ s with repeatable := true }, rest)
  | '(' :: cs => (opening? cs).bind fun o => (s.enter? o.1).map fun s => (s, o.2)
  | c :: cs =>
    if c == ')' then
      if s.depth = 0 then none else some ({ s with depth := s.depth - 1, repeatable := true }, cs)
    else if c == '|' then some ({ s with repeatable := false }, cs)
    else if c == '*' || c == '+' || c == '?' then if s.repeatable then some (s, cs) else none
    else if c == '\x7b' then none
    else some ({ s with repeatable := true }, cs)

/-- Whether the rest of a pattern is complete. There are no more steps than characters. -/
def isRest : Nat → Reading → List Char → Bool
  | _, s, [] => s.depth == 0
  | 0, _, _ :: _ => false
  | fuel + 1, s, c :: cs =>
    match step? s (c :: cs) with
    | none => false
    | some (s, rest) => isRest fuel s rest

/-- Whether characters are a pattern. -/
def isPattern (cs : List Char) : Bool :=
  isRest cs.length {} cs

/-! ### Numbers -/

/-- Whether characters are an exponent, or none at all. -/
def isExponent : List Char → Bool
  | [] => true
  | e :: cs =>
    let digits := if cs.head? == some '+' || cs.head? == some '-' then cs.drop 1 else cs
    (e == 'e' || e == 'E') && !digits.isEmpty && digits.all Char.isDigit

/-- Whether characters are digits, perhaps with a point and an exponent. -/
def isDecimal (cs : List Char) : Bool :=
  let whole := cs.takeWhile Char.isDigit
  match cs.drop whole.length with
  | '.' :: rest =>
    let places := rest.takeWhile Char.isDigit
    !(whole.isEmpty && places.isEmpty) && isExponent (rest.drop places.length)
  | rest => !whole.isEmpty && isExponent rest

/-- Whether characters are a number with a plus sign. -/
def isSignedNumber : List Char → Bool
  | '+' :: cs =>
    isDecimal cs || ["inf", "infinity", "nan"].contains (String.ofList (cs.map Char.toLower))
  | _ => false

end NullLint.Log.Pattern
