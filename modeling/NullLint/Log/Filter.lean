import NullLint.Log
import NullLint.Log.Pattern
import NullLint.Text.Blank
import NullLint.Text.Letters

set_option autoImplicit false
set_option relaxedAutoImplicit false

/-!
# Filters for events

A filter decides by the level of an event, the part of the program it comes from and the names of
its details which events are written.

## Main definitions

* `Log.Directive`, `Log.Filter` — filters are lists of directives.
* `Log.Filter.admits` — whether an event is written.
* `Log.Directive.parse?`, `Log.Filter.parse?` — reading directives and filters.

## Design

Each directive gives a threshold for the parts of the program whose name starts with a certain
text. Of the directives that concern an event the one with the longest text decides; of those with
the same text one that asks for a detail; and of two that are alike the later one.

A directive is read without the blanks around it, but its parts are cut out of the text as it was
given, at the places where they were found. So blanks at the end belong to the last part, and blanks
at the start move all parts but a single one.
-/

namespace NullLint.Log

/-- A directive: up to which rank events are written that come from parts whose name starts with
`source` and that have a detail of the name `detail`, if one is asked for. Rank zero writes none. -/
structure Directive where
  source : String
  detail : Option String := none
  rank : Nat
  deriving DecidableEq, Repr

namespace Directive

/-- Whether an event has a detail of some name. Its message is a detail, too. -/
def finds (name : String) (e : Event) : Bool :=
  name == "message" || e.details.any fun d => d.1 == name

/-- Whether a directive concerns an event. -/
def concerns (d : Directive) (e : Event) : Bool :=
  d.source.toList.isPrefixOf e.source.toList && d.detail.all fun name => finds name e

/-- Whether a detail is asked for at least as narrowly as another one: a name is narrower than
none, and names are compared so that no two are alike. -/
def asNarrow : Option String → Option String → Bool
  | _, none => true
  | none, some _ => false
  | some a, some b => decide (b ≤ a)

/-- Whether a directive goes before an earlier one that concerns the same event. -/
def goesBefore (d earlier : Directive) : Bool :=
  decide (earlier.source.length < d.source.length) ||
    (d.source.length == earlier.source.length && asNarrow d.detail earlier.detail)

end Directive

/-- A filter. -/
abbrev Filter := List Directive

namespace Filter

/-- The directive that decides on an event. -/
def deciding? (f : Filter) (e : Event) : Option Directive :=
  f.foldl (fun best d =>
    if d.concerns e && best.all d.goesBefore then some d else best) none

/-- Whether an event is written. -/
def admits (f : Filter) (e : Event) : Bool :=
  match f.deciding? e with
  | none => false
  | some d => decide (e.level.rank ≤ d.rank)

/-- All events of the program up to a rank from the parts whose name starts with a text. -/
def upTo (source : String) (rank : Nat) : Filter :=
  [{ source, rank }]

end Filter

/-! ### Reading thresholds -/

/-- A number in base ten, perhaps with a plus sign. -/
def numberOf? (s : List Char) : Option Nat :=
  let digits :=
    match s with
    | '+' :: cs => cs
    | cs => cs
  if digits.isEmpty || !digits.all Char.isDigit then none
  else some (digits.foldl (fun n c => 10 * n + (c.toNat - '0'.toNat)) 0)

/-- The threshold of a number up to five, or of a name in any case of letters: that of a level, or
`off`. -/
def rankOf? (s : List Char) : Option Nat :=
  match numberOf? s with
  | some n => if n ≤ 5 then some n else none
  | none =>
    let name := (String.ofList s).toUpper
    if name = "OFF" then some 0 else (Level.all.find? fun l => l.name == name).map Level.rank

/-- The threshold after an equals sign; if there is none, everything is written. -/
def thresholdOf? (s : List Char) : Option Nat :=
  if s.isEmpty then some 5 else rankOf? s

/-! ### Reading directives -/

/-- The length of characters in bytes. -/
def bytes (cs : List Char) : Nat :=
  cs.foldr (fun c n => c.utf8Size + n) 0

/-- Characters without the first `n` bytes. -/
def dropBytes : Nat → List Char → List Char
  | 0, cs => cs
  | _, [] => []
  | n + 1, c :: cs => dropBytes (n + 1 - c.utf8Size) cs

/-- The characters in the first `n` bytes. -/
def takeBytes : Nat → List Char → List Char
  | 0, _ => []
  | _, [] => []
  | n + 1, c :: cs => c :: takeBytes (n + 1 - c.utf8Size) cs

/-- Whether a directive can start with a character, apart from a bracket. -/
def startsDirective (c : Char) : Bool :=
  Text.isLetterOrNumber c || c == '-' || c == ':' || c == '_'

/-- Whether the value of a detail can be compared with some characters. -/
def isValue (cs : List Char) : Bool :=
  Pattern.isPattern cs || Pattern.isSignedNumber cs

/-- What a directive asks for in brackets: a span, which no event is part of, or an event with a
detail. The name of the detail comes with its value if one is asked for, which no event can meet. -/
inductive Bracket where
  | nowhere
  | detail (name : String)
  deriving DecidableEq, Repr

/-- The detail in braces. -/
def detailOf? (cs : List Char) : Option Bracket :=
  if cs.isEmpty then none
  else
    match Text.piecesChars '=' cs with
    | _ :: value :: _ => if isValue value then some .nowhere else none
    | _ => some (.detail (String.ofList cs))

/-- What stands in brackets, the first of which has been read, and what follows them. The parts are
cut from `whole` at the places they have in the text without blanks; `place` is that of `rest`. -/
def bracketOf? (whole : List Char) (place : Nat) (rest : List Char) :
    Option (Bracket × List Char) :=
  let name := rest.takeWhile fun c => c != ']' && c != '\x7b'
  match rest.drop name.length with
  | ']' :: after => some (.nowhere, after)
  | '\x7b' :: inside =>
    let detail := inside.takeWhile (· != '\x7d')
    let start := place + bytes name + 1
    match inside.drop detail.length with
    | '\x7d' :: ']' :: after =>
      (detailOf? (takeBytes (bytes detail) (dropBytes start whole))).map fun b =>
        (if (takeBytes (bytes name) (dropBytes place whole)).isEmpty then b else .nowhere, after)
    | _ => none
  | _ => none

/-- A directive of which all parts are known. One that asks for a span concerns no event. -/
def Bracket.directive (source : String) (rank : Nat) : Bracket → Option Directive
  | .nowhere => none
  | .detail name => some { source, detail := some name, rank }

/-- Reads a directive from its bracket on. -/
def bracketed? (source : String) (whole : List Char) (place : Nat) (rest : List Char) :
    Option (Option Directive) :=
  match bracketOf? whole place rest with
  | none => none
  | some (b, []) => some (b.directive source 5)
  | some (b, '=' :: threshold) =>
    (thresholdOf? (dropBytes (place + bytes rest - bytes threshold) whole)).map fun rank =>
      b.directive source rank
  | some _ => none

/-- The directive of a text, none if it is not one: a threshold, the name of a part of the program
with or without brackets, or brackets alone; after a name and after brackets a threshold can follow.
There is nothing in the result if the directive concerns no event. -/
def Directive.parse? (s : String) : Option (Option Directive) :=
  let whole := s.toList
  match Text.trimChars whole with
  | [] => none
  | '[' :: rest => bracketed? "" whole 1 rest
  | c :: cs =>
    if !startsDirective c then none
    else
      let head := (c :: cs).takeWhile fun c => c != '=' && c != '['
      let source := String.ofList (takeBytes (bytes head) whole)
      match (c :: cs).drop head.length with
      | '=' :: _ =>
        (thresholdOf? (dropBytes (bytes head + 1) whole)).map fun rank => some { source, rank }
      | '[' :: rest => bracketed? source whole (bytes head + 1) rest
      | _ =>
        match rankOf? whole with
        | some rank => some (some { source := "", rank })
        | none => some (some { source := s, rank := 5 })

/-- The filter of a text: directives with commas between them. If one of them is not a directive
there is no filter; if there are none at all only errors are written. -/
def Filter.parse? (s : String) : Option Filter :=
  match ((Text.pieces ',' s).filter fun d => !d.isEmpty).mapM Directive.parse? with
  | none => none
  | some [] => some (Filter.upTo "" 1)
  | some ds => some (ds.filterMap id)

end NullLint.Log
