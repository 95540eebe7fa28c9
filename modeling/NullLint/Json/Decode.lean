import NullLint.Json.Draft
import NullLint.Json.Fault

set_option autoImplicit false
set_option relaxedAutoImplicit false

/-!
# From drafts to data

The shapes that data take in JSON text: strings, lists, records and names of an enumeration. Every
decoder takes a draft and either gives the data or the first thing wrong with it, together with
the place of that fault as seen from the draft.

## Main definitions

* `Json.Quoted.text` — the characters of a string.
* `Json.Draft.value` — a whole JSON value.
* `Json.Draft.skip` — the check that a value which is not used has to pass.
* `Json.Draft.string`, `Json.Draft.listOf`, `Json.Draft.recordOf`, `Json.Draft.nameOf` — shapes.
* `Json.parse` — a whole text as a value.

## Design

Lists and objects may be nested only so many levels deep. The first argument `levels` of a decoder
is the number of levels that are still left; a list or an object takes one. The limit also bounds
the recursion, so that no decoder needs to look into the structure of drafts for its termination.
A value that is not used is skipped without such a limit.
-/

namespace NullLint.Json

/-- The number of levels to which a document may be nested. -/
def maxLevels : Nat := 127

/-! ### Strings -/

/-- Whether sixteen bits are the first half of a surrogate pair. -/
def isHighSurrogate (n : Nat) : Bool :=
  0xD800 ≤ n && n ≤ 0xDBFF

/-- Whether sixteen bits are the second half of a surrogate pair. -/
def isLowSurrogate (n : Nat) : Bool :=
  0xDC00 ≤ n && n ≤ 0xDFFF

/-- The character of a surrogate pair. -/
def pairChar (high low : Nat) : Char :=
  Char.ofNat ((high - 0xD800) * 0x400 + (low - 0xDC00) + 0x10000)

/-- What is wrong with a string that stops in some way. -/
def QuotedStop.fault? : QuotedStop → Option Fault
  | .closed => none
  | .ended => some .endInString
  | .control => some .controlCharacter
  | .unknownEscape => some .badEscape
  | .badUnit => some .badEscape

/-- What is wrong with a string that stops after the first half of a surrogate pair. -/
def QuotedStop.afterHighSurrogate : QuotedStop → Fault
  | .ended => .endInString
  | .badUnit => .badEscape
  | _ => .unpairedSurrogate

/-- The characters of the pieces of a string. The halves of a surrogate pair must stand in their
order and next to each other. -/
def pieceChars (stop : QuotedStop) : List Piece → Except Fault (List Char)
  | [] =>
    match stop.fault? with
    | none => .ok []
    | some f => .error f
  | .char c :: ps => (pieceChars stop ps).map (c :: ·)
  | [.unit n] =>
    if isLowSurrogate n then .error .loneSurrogate
    else if isHighSurrogate n then .error stop.afterHighSurrogate
    else
      match stop.fault? with
      | none => .ok [Char.ofNat n]
      | some f => .error f
  | .unit n :: .char c :: ps =>
    if isLowSurrogate n then .error .loneSurrogate
    else if isHighSurrogate n then .error .unpairedSurrogate
    else (pieceChars stop ps).map fun cs => Char.ofNat n :: c :: cs
  | .unit n :: .unit m :: ps =>
    if isLowSurrogate n then .error .loneSurrogate
    else if isHighSurrogate n then
      if isLowSurrogate m then (pieceChars stop ps).map (pairChar n m :: ·)
      else .error .loneSurrogate
    else (pieceChars stop (.unit m :: ps)).map (Char.ofNat n :: ·)

/-- The text of a string. -/
def Quoted.text (q : Quoted) : Except Fault String :=
  (pieceChars q.stop q.pieces).map String.ofList

/-! ### The ends of lists and objects -/

/-- What is wrong with a list that stops in some way. -/
def ListStop.fault? : ListStop → Option Fault
  | .closed => none
  | .closedAfterComma => some .trailingComma
  | .ended => some .endInList
  | .endedAfterComma => some .endInValue
  | .noSeparator => some .noListSeparator

/-- What is wrong with an object that stops in some way. -/
def ObjectStop.fault? : ObjectStop → Option Fault
  | .closed => none
  | .closedAfterComma => some .trailingComma
  | .ended => some .endInObject
  | .endedAfterComma => some .endInValue
  | .noKeyAfterComma => some .keyNotString
  | .noSeparator => some .noObjectSeparator

/-- What is wrong with a key that no value follows. -/
def ColonStop.fault : ColonStop → Fault
  | .ended => .endInObject
  | .other => .noColon

/-- What is wrong with a word that cannot be read. -/
def WordStop.fault : WordStop → Fault
  | .ended => .endInValue
  | .other => .noWord

/-- What is wrong with a numeral that cannot be read. -/
def NumeralStop.fault : NumeralStop → Fault
  | .ended => .endInValue
  | .noDigit => .badNumeral

/-- The number of a numeral. -/
def Numeral.number (n : Except NumeralStop Numeral) : Except Fault Number :=
  match n with
  | .error e => .error e.fault
  | .ok n =>
    match n.value? with
    | some x => .ok x
    | none => .error .numberTooLarge

/-! ### Lists and objects -/

/-- Decodes the items of a list one after the other, starting with the one of number `i`. -/
def Items.decode {α : Type} (f : Draft → Except Located α) : Nat → Items → Except Located (List α)
  | _, .stop s =>
    match s.fault? with
    | none => .ok []
    | some e => here e
  | i, .item v rest => do
    let a ← within (.index i) (f v)
    let as ← rest.decode f (i + 1)
    return a :: as

/-- A fault without a place as a fault of the value at hand. -/
def placed {α : Type} (r : Except Fault α) : Except Located α :=
  r.mapError fun f => ⟨[], f⟩

/-- Goes through the members of an object one after the other, with the key and the value of each.
A key is checked by `claim` as soon as it is read, before anything after it. A fault found where a
key is read has no known place inside the object. -/
def Members.fold {σ : Type} (claim : σ → String → Except Fault Unit)
    (f : σ → String → Draft → Except Located σ) : σ → Members → Except Located σ
  | a, .stop s =>
    match s.fault? with
    | none => .ok a
    | some e => within .unread (here e)
  | _, .notKey _ => within .unread (here .keyNotString)
  | a, .noValue key s => do
    let k ← within .unread (placed key.text)
    placed (claim a k)
    here s.fault
  | a, .member key v rest => do
    let k ← within .unread (placed key.text)
    placed (claim a k)
    let a ← f a k v
    rest.fold claim f a

/-! ### Whole values -/

/-- A draft as a JSON value. -/
def Draft.value : Nat → Draft → Except Located Value
  | _, .missing => here .endInValue
  | _, .stray => here .noValue
  | _, .word _ (some e) => here e.fault
  | _, .word .null none => .ok .null
  | _, .word .true none => .ok (.bool true)
  | _, .word .false none => .ok (.bool false)
  | _, .numeral n => (Numeral.number n).mapError (fun e => ⟨[], e⟩) |>.map Value.number
  | _, .quoted q => q.text.mapError (fun e => ⟨[], e⟩) |>.map Value.string
  | 0, .list _ => here .tooDeep
  | 0, .object _ => here .tooDeep
  | levels + 1, .list items => (items.decode (Draft.value levels) 0).map .array
  | levels + 1, .object members =>
    (members.fold (fun _ _ => .ok ()) (fun ms k v => do
      let v ← within (.key k) (Draft.value levels v)
      return ms ++ [(k, v)]) []).map .object

/-- What is wrong with a draft where another shape is expected. A list or an object is not looked
into; any other value has to be whole before its shape counts. -/
def Draft.wrongType (expected : String) : Draft → Fault
  | .missing => .endInValue
  | .stray => .noValue
  | .word _ (some e) => e.fault
  | .word .null none => .wrongType .null expected
  | .word .true none => .wrongType (.bool true) expected
  | .word .false none => .wrongType (.bool false) expected
  | .numeral n =>
    match Numeral.number n with
    | .ok x => .wrongType (.number x) expected
    | .error e => e
  | .quoted q =>
    match q.text with
    | .ok s => .wrongType (.string s) expected
    | .error e => e
  | .list _ => .wrongType .list expected
  | .object _ => .wrongType .map expected

/-! ### Values that are not used -/

/-- What is wrong with a list that is skipped and stops in some way: after a comma a value is
expected. -/
def ListStop.skipFault? : ListStop → Option Fault
  | .closedAfterComma => some .noValue
  | s => s.fault?

/-- What is wrong with an object that is skipped and stops in some way: after a comma a key is
expected. -/
def ObjectStop.skipFault? : ObjectStop → Option Fault
  | .closedAfterComma => some .keyNotString
  | .endedAfterComma => some .endInObject
  | s => s.fault?

/-- Success, or a fault if there is one. -/
def noFault (f : Option Fault) : Except Fault Unit :=
  match f with
  | none => .ok ()
  | some e => .error e

mutual

/-- Checks a value that is not used: it has to follow the grammar, but numerals may be of any size,
strings may hold any escapes, and values may be nested to any depth. -/
def Draft.skip : Draft → Except Fault Unit
  | .missing => .error .endInValue
  | .stray => .error .noValue
  | .word _ (some e) => .error e.fault
  | .word _ none => .ok ()
  | .numeral (.ok _) => .ok ()
  | .numeral (.error _) => .error .badNumeral
  | .quoted q => noFault q.stop.fault?
  | .list items => items.skip
  | .object members => members.skip

/-- Checks the items of a list that is not used. -/
def Items.skip : Items → Except Fault Unit
  | .stop s => noFault s.skipFault?
  | .item v rest => do
    v.skip
    rest.skip

/-- Checks the members of an object that is not used. -/
def Members.skip : Members → Except Fault Unit
  | .stop s => noFault s.skipFault?
  | .notKey _ => .error .keyNotString
  | .noValue key s => do
    noFault key.stop.fault?
    .error s.fault
  | .member key v rest => do
    noFault key.stop.fault?
    v.skip
    rest.skip

end

/-! ### Shapes -/

/-- Whether a draft is the word `null`. -/
def Draft.isNull : Draft → Bool
  | .word .null none => true
  | _ => false

/-- A string. -/
def Draft.string : Draft → Except Located String
  | .quoted q => q.text.mapError fun e => ⟨[], e⟩
  | d => here (d.wrongType "a string")

/-- The word `null`, or data of another shape. -/
def Draft.optional {α : Type} (f : Draft → Except Located α) (d : Draft) :
    Except Located (Option α) :=
  if d.isNull then .ok none else (f d).map some

/-- A list whose items are all of one shape. -/
def Draft.listOf {α : Type} (levels : Nat) (f : Draft → Except Located α) :
    Draft → Except Located (List α)
  | .list items => if levels = 0 then here .tooDeep else items.decode f 0
  | d => here (d.wrongType "a sequence")

/-- An object, whose members are gone through in their order. -/
def Draft.recordOf {σ : Type} (levels : Nat) (expected : String)
    (claim : σ → String → Except Fault Unit) (f : σ → String → Draft → Except Located σ)
    (start : σ) : Draft → Except Located σ
  | .object members => if levels = 0 then here .tooDeep else members.fold claim f start
  | d => here (d.wrongType expected)

/-- A name of an enumeration: a string, or an object with the name as its only key and `null` as
the value. -/
def Draft.nameOf {α : Type} (levels : Nat) (f : String → Except Fault α) :
    Draft → Except Located α
  | .missing => here .endInValue
  | .quoted q => do
    let name ← q.text.mapError fun e => ⟨[], e⟩
    (f name).mapError fun e => ⟨[], e⟩
  | .object members =>
    if levels = 0 then here .tooDeep
    else
      match members with
      | .stop .ended => here .endInObject
      | .stop _ => here .noValue
      | .notKey _ => here .keyNotString
      | .noValue key s => do
        let name ← key.text.mapError fun e => ⟨[], e⟩
        let _ ← (f name).mapError fun e => ⟨[], e⟩
        here s.fault
      | .member key v rest => do
        let name ← key.text.mapError fun e => ⟨[], e⟩
        let a ← (f name).mapError fun e => ⟨[], e⟩
        if v.isNull then
          match rest with
          | .stop .closed => return a
          | .stop .ended => here .endInObject
          | _ => here .noValue
        else within (.key name) (here (v.wrongType "unit"))
  | _ => here .noValue

/-! ### Whole texts -/

/-- A whole text as a JSON value, none if it is not JSON text. -/
def parse (s : String) : Option Value :=
  match Draft.read s.toList with
  | (d, some rest) =>
    if (skipSpace rest).isEmpty then (d.value maxLevels).toOption else none
  | (_, none) => none

end NullLint.Json
