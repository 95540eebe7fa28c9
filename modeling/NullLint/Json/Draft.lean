import NullLint.Json.Lexeme

set_option autoImplicit false
set_option relaxedAutoImplicit false

/-!
# JSON text read as far as it goes

A *draft* is what the grammar of JSON makes of a text, up to the place where the text stops
following it. Reading a draft never fails: where the text goes wrong the draft says how, and holds
nothing after that place. Whoever uses a draft meets its values in the order of the text, so the
first thing found wrong, be it a shape or the end of the draft, is the first thing wrong in the
text.

## Main definitions

* `Json.Draft` — a value; `Json.Items`, `Json.Members` — the contents of lists and objects.
* `Json.Draft.read` — the draft of a text and the text after it.

## Design

Values that are skipped are judged more leniently than values that are used (their numerals may be
too large, their strings may hold half a surrogate pair, they may nest to any depth), so a draft
keeps the lexemes as they stand in the text and counts no levels.
-/

namespace NullLint.Json

/-- How a list stops: it is closed, also directly after a comma; the text ends, after an item or
after a comma; or neither a comma nor the end of the list follows an item. -/
inductive ListStop where
  | closed
  | closedAfterComma
  | ended
  | endedAfterComma
  | noSeparator
  deriving DecidableEq, Repr

/-- How an object stops, where no value stands in the place of a key: it is closed, also directly
after a comma; the text ends, after a member or after a comma; no key follows a comma; or neither
a comma nor the end of the object follows a member. -/
inductive ObjectStop where
  | closed
  | closedAfterComma
  | ended
  | endedAfterComma
  | noKeyAfterComma
  | noSeparator
  deriving DecidableEq, Repr

/-- Why no value follows a key: the text ends, or something else than a colon follows. -/
inductive ColonStop where
  | ended
  | other
  deriving DecidableEq, Repr

mutual

/-- A value as far as the text goes. `missing` stands where the text ends, `stray` where no value
starts. -/
inductive Draft where
  | missing
  | stray
  | word (w : Word) (stop : Option WordStop)
  | numeral (n : Except NumeralStop Numeral)
  | quoted (q : Quoted)
  | list (items : Items)
  | object (members : Members)

/-- The contents of a list. -/
inductive Items where
  | stop (s : ListStop)
  | item (v : Draft) (rest : Items)

/-- The contents of an object. `notKey` holds the value that stands where the first key should;
`noValue` is a key that no value follows. -/
inductive Members where
  | stop (s : ObjectStop)
  | notKey (v : Draft)
  | noValue (key : Quoted) (s : ColonStop)
  | member (key : Quoted) (v : Draft) (rest : Members)

end

/-- A draft and the text after it, if the draft is whole. -/
abbrev Reading (α : Type) := α × Option (List Char)

namespace Draft

/-- Reads a word. -/
def readWord (w : Word) (s : List Char) : Reading Draft :=
  match scanWord w s with
  | .ok rest => (.word w none, some rest)
  | .error e => (.word w (some e), none)

/-- Reads a numeral. -/
def readNumeral (s : List Char) : Reading Draft :=
  match scanNumeral s with
  | .ok (n, rest) => (.numeral (.ok n), some rest)
  | .error e => (.numeral (.error e), none)

/-- Reads a string, after the mark that opens it. -/
def readQuoted (s : List Char) : Reading Draft :=
  let (q, rest) := scanQuoted s
  (.quoted q, if q.stop = .closed then some rest else none)

mutual

/-- Reads a value. The first argument bounds the number of values, items and members in each
other; twice the length of the text is enough. -/
def readValue : Nat → List Char → Reading Draft
  | 0, _ => (.missing, none)
  | fuel + 1, s =>
    match skipSpace s with
    | [] => (.missing, none)
    | c :: rest =>
      if c = 'n' then readWord .null (c :: rest)
      else if c = 't' then readWord .true (c :: rest)
      else if c = 'f' then readWord .false (c :: rest)
      else if c = '-' ∨ c.isDigit then readNumeral (c :: rest)
      else if c = '"' then readQuoted rest
      else if c = '[' then
        let (items, after) := readFirstItem fuel rest
        (.list items, after)
      else if c = '{' then
        let (members, after) := readFirstMember fuel rest
        (.object members, after)
      else (.stray, none)

/-- Reads a list after its opening bracket. -/
def readFirstItem : Nat → List Char → Reading Items
  | 0, _ => (.stop .ended, none)
  | fuel + 1, s =>
    match skipSpace s with
    | [] => (.stop .ended, none)
    | c :: rest =>
      if c = ']' then (.stop .closed, some rest)
      else readItem fuel (c :: rest)

/-- Reads an item of a list and what follows it. -/
def readItem : Nat → List Char → Reading Items
  | 0, _ => (.stop .ended, none)
  | fuel + 1, s =>
    match readValue fuel s with
    | (v, none) => (.item v (.stop .ended), none)
    | (v, some rest) =>
      let (items, after) := readNextItem fuel rest
      (.item v items, after)

/-- Reads a list after an item. -/
def readNextItem : Nat → List Char → Reading Items
  | 0, _ => (.stop .ended, none)
  | fuel + 1, s =>
    match skipSpace s with
    | [] => (.stop .ended, none)
    | c :: rest =>
      if c = ']' then (.stop .closed, some rest)
      else if c = ',' then
        match skipSpace rest with
        | [] => (.stop .endedAfterComma, none)
        | d :: rest' =>
          if d = ']' then (.stop .closedAfterComma, none) else readItem fuel (d :: rest')
      else (.stop .noSeparator, none)

/-- Reads an object after its opening brace. -/
def readFirstMember : Nat → List Char → Reading Members
  | 0, _ => (.stop .ended, none)
  | fuel + 1, s =>
    match skipSpace s with
    | [] => (.stop .ended, none)
    | c :: rest =>
      if c = '}' then (.stop .closed, some rest)
      else if c = '"' then readMember fuel rest
      else (.notKey (readValue fuel (c :: rest)).1, none)

/-- Reads a member of an object, after the mark that opens its key, and what follows it. -/
def readMember : Nat → List Char → Reading Members
  | 0, _ => (.stop .ended, none)
  | fuel + 1, s =>
    let (key, rest) := scanQuoted s
    if key.stop = .closed then
      match skipSpace rest with
      | [] => (.noValue key .ended, none)
      | c :: rest' =>
        if c = ':' then
          match readValue fuel rest' with
          | (v, none) => (.member key v (.stop .ended), none)
          | (v, some rest'') =>
            let (members, after) := readNextMember fuel rest''
            (.member key v members, after)
        else (.noValue key .other, none)
    else (.noValue key .ended, none)

/-- Reads an object after a member. -/
def readNextMember : Nat → List Char → Reading Members
  | 0, _ => (.stop .ended, none)
  | fuel + 1, s =>
    match skipSpace s with
    | [] => (.stop .ended, none)
    | c :: rest =>
      if c = '}' then (.stop .closed, some rest)
      else if c = ',' then
        match skipSpace rest with
        | [] => (.stop .endedAfterComma, none)
        | d :: rest' =>
          if d = '"' then readMember fuel rest'
          else if d = '}' then (.stop .closedAfterComma, none)
          else (.stop .noKeyAfterComma, none)
      else (.stop .noSeparator, none)

end

/-- The draft of a text, and the text after it if the draft is whole. Each value uses up a
character and hands the reading on at most three times before the next one does. -/
def read (s : List Char) : Reading Draft :=
  readValue (4 * s.length + 4) s

end Draft

end NullLint.Json
