import Mathlib.Data.List.Forall2
import NullLint.Json.Decode

set_option autoImplicit false
set_option relaxedAutoImplicit false

/-!
# The grammar of JSON text

Which texts are JSON documents, said without reading them. A draft in which nothing is missing is
the syntax tree of a document; the grammar says which texts have that tree: any blanks may stand
between lexemes, and a character of a string may be written in several ways.

What a syntax tree is worth is said apart from the text. The pieces of a string make up characters
unless half a surrogate pair stands alone, and a numeral has a number unless it is too large for a
double. So there are documents that follow the grammar and yet denote no value.

## Main definitions

* `Json.Numeral.IsSpelled`, `Json.IsSpelled` — the texts of numerals, and of the pieces of strings.
* `Json.Draft.IsSpelled`, `Json.Draft.IsTextOf` — the texts of values, and of documents.
* `Json.PiecesDenote`, `Json.Quoted.Denotes` — the characters of a string.
* `Json.Items.Are`, `Json.Members.Are` — the items of a list, and the members of an object.
* `Json.Draft.Denotes` — the value of a syntax tree.
* `Json.Draft.depth` — how deep lists and objects are nested.
-/

namespace NullLint.Json

/-! ## Texts -/

/-- A text of blanks only. -/
def IsBlank (s : List Char) : Prop := ∀ c ∈ s, isSpace c = true

theorem isBlank_nil : IsBlank [] := List.forall_mem_nil _

/-- One digit or more. -/
def IsDigits (ds : List Char) : Prop := ds ≠ [] ∧ ∀ d ∈ ds, d.isDigit = true

/-- Digits that start with a zero only if it is the only one. -/
def IsWhole (ds : List Char) : Prop := IsDigits ds ∧ (ds.head? = some '0' → ds = ['0'])

/-- The texts of the exponent of a numeral. -/
inductive ExponentSpelled : Option Int → List Char → Prop
  | absent : ExponentSpelled none []
  | plain {e : Char} {ds : List Char} (he : e = 'e' ∨ e = 'E') (hd : IsDigits ds) :
    ExponentSpelled (some (digitsValue ds)) (e :: ds)
  | plus {e : Char} {ds : List Char} (he : e = 'e' ∨ e = 'E') (hd : IsDigits ds) :
    ExponentSpelled (some (digitsValue ds)) (e :: '+' :: ds)
  | minus {e : Char} {ds : List Char} (he : e = 'e' ∨ e = 'E') (hd : IsDigits ds) :
    ExponentSpelled (some (-(digitsValue ds : Int))) (e :: '-' :: ds)

/-- The text of the sign of a numeral. -/
def Numeral.signChars (x : Numeral) : List Char := if x.negative then ['-'] else []

/-- The text of the digits after the point, with the point. -/
def fractionChars (fraction : Option (List Char)) : List Char :=
  match fraction with
  | none => []
  | some ds => '.' :: ds

/-- The texts of a numeral. -/
structure Numeral.IsSpelled (x : Numeral) (s : List Char) : Prop where
  whole : IsWhole x.whole
  fraction : ∀ ds, x.fraction = some ds → IsDigits ds
  exponent : ∃ e, ExponentSpelled x.exponent e ∧
    s = x.signChars ++ (x.whole ++ (fractionChars x.fraction ++ e))

/-- The texts of the pieces of a string. A character stands for itself, unless it is a quotation
mark, a backslash or a control character, or is written as a short escape; sixteen bits are written
as an escape with four digits. -/
inductive PiecesSpelled : List Piece → List Char → Prop
  | nil : PiecesSpelled [] []
  | plain {c : Char} {ps : List Piece} {s : List Char} (hquote : c ≠ '"') (hback : c ≠ '\\')
      (hcontrol : 0x20 ≤ c.toNat) (h : PiecesSpelled ps s) :
      PiecesSpelled (.char c :: ps) (c :: s)
  | short {e c : Char} {ps : List Piece} {s : List Char} (he : shortEscape e = some c)
      (h : PiecesSpelled ps s) : PiecesSpelled (.char c :: ps) ('\\' :: e :: s)
  | unit {a b c d : Char} {n : Nat} {ps : List Piece} {s : List Char}
      (hu : unitValue a b c d = some n) (h : PiecesSpelled ps s) :
      PiecesSpelled (.unit n :: ps) ('\\' :: 'u' :: a :: b :: c :: d :: s)

/-- The texts of a string, between its marks. -/
def Quoted.IsSpelled (q : Quoted) (s : List Char) : Prop :=
  q.stop = .closed ∧ PiecesSpelled q.pieces s

mutual

/-- The texts of a value, without blanks around it. -/
inductive Draft.IsSpelled : Draft → List Char → Prop
  | word (w : Word) : (Draft.word w none).IsSpelled w.letters
  | numeral {x : Numeral} {s : List Char} (h : x.IsSpelled s) :
    (Draft.numeral (.ok x)).IsSpelled s
  | quoted {q : Quoted} {s : List Char} (h : q.IsSpelled s) :
    (Draft.quoted q).IsSpelled ('"' :: (s ++ ['"']))
  | emptyList {b : List Char} (hb : IsBlank b) :
    (Draft.list (.stop .closed)).IsSpelled ('[' :: (b ++ [']']))
  | list {items : Items} {s : List Char} (h : items.IsSpelled s) :
    (Draft.list items).IsSpelled ('[' :: (s ++ [']']))
  | emptyObject {b : List Char} (hb : IsBlank b) :
    (Draft.object (.stop .closed)).IsSpelled ('\x7b' :: (b ++ ['\x7d']))
  | object {members : Members} {s : List Char} (h : members.IsSpelled s) :
    (Draft.object members).IsSpelled ('\x7b' :: (s ++ ['\x7d']))

/-- The texts of one item or more, with commas between them. -/
inductive Items.IsSpelled : Items → List Char → Prop
  | last {v : Draft} {b s b' : List Char} (hb : IsBlank b) (h : v.IsSpelled s)
      (hb' : IsBlank b') : (Items.item v (.stop .closed)).IsSpelled (b ++ (s ++ b'))
  | cons {v : Draft} {rest : Items} {b s b' s' : List Char} (hb : IsBlank b) (h : v.IsSpelled s)
      (hb' : IsBlank b') (hrest : rest.IsSpelled s') :
      (Items.item v rest).IsSpelled (b ++ (s ++ (b' ++ ',' :: s')))

/-- The texts of one member or more, with commas between them. -/
inductive Members.IsSpelled : Members → List Char → Prop
  | last {key : Quoted} {v : Draft} {b k b₁ b₂ s b₃ : List Char} (hb : IsBlank b)
      (hkey : key.IsSpelled k) (hb₁ : IsBlank b₁) (hb₂ : IsBlank b₂) (h : v.IsSpelled s)
      (hb₃ : IsBlank b₃) : (Members.member key v (.stop .closed)).IsSpelled
        (b ++ '"' :: (k ++ '"' :: (b₁ ++ ':' :: (b₂ ++ (s ++ b₃)))))
  | cons {key : Quoted} {v : Draft} {rest : Members} {b k b₁ b₂ s b₃ rs : List Char}
      (hb : IsBlank b) (hkey : key.IsSpelled k) (hb₁ : IsBlank b₁) (hb₂ : IsBlank b₂)
      (h : v.IsSpelled s) (hb₃ : IsBlank b₃) (hrest : rest.IsSpelled rs) :
      (Members.member key v rest).IsSpelled
        (b ++ '"' :: (k ++ '"' :: (b₁ ++ ':' :: (b₂ ++ (s ++ (b₃ ++ ',' :: rs))))))

end

/-- The texts of a document: a value with blanks around it. -/
def Draft.IsTextOf (d : Draft) (text : String) : Prop :=
  ∃ b s b', IsBlank b ∧ d.IsSpelled s ∧ IsBlank b' ∧ text.toList = b ++ (s ++ b')

/-! ## What syntax trees are worth -/

/-- The characters of the pieces of a string. Sixteen bits that are half of a surrogate pair make
up a character only together with the other half. -/
inductive PiecesDenote : List Piece → List Char → Prop
  | nil : PiecesDenote [] []
  | char {c : Char} {ps : List Piece} {cs : List Char} (h : PiecesDenote ps cs) :
    PiecesDenote (.char c :: ps) (c :: cs)
  | unit {n : Nat} {ps : List Piece} {cs : List Char} (hhigh : isHighSurrogate n = false)
      (hlow : isLowSurrogate n = false) (h : PiecesDenote ps cs) :
      PiecesDenote (.unit n :: ps) (Char.ofNat n :: cs)
  | pair {m n : Nat} {ps : List Piece} {cs : List Char} (hhigh : isHighSurrogate m = true)
      (hlow : isLowSurrogate n = true) (h : PiecesDenote ps cs) :
      PiecesDenote (.unit m :: .unit n :: ps) (pairChar m n :: cs)

/-- The text that a string stands for. -/
def Quoted.Denotes (q : Quoted) (s : String) : Prop :=
  q.stop = .closed ∧ PiecesDenote q.pieces s.toList

/-- The items of a list in which nothing is missing. -/
inductive Items.Are : Items → List Draft → Prop
  | nil : (Items.stop .closed).Are []
  | cons {v : Draft} {rest : Items} {vs : List Draft} (h : rest.Are vs) :
    (Items.item v rest).Are (v :: vs)

/-- The members of an object in which nothing is missing, with their names. -/
inductive Members.Are : Members → List (String × Draft) → Prop
  | nil : (Members.stop .closed).Are []
  | cons {key : Quoted} {name : String} {v : Draft} {rest : Members}
      {ms : List (String × Draft)} (hkey : key.Denotes name) (h : rest.Are ms) :
      (Members.member key v rest).Are ((name, v) :: ms)

/-- A draft is a list of some items. -/
def Draft.HasItems (d : Draft) (vs : List Draft) : Prop :=
  ∃ items, d = .list items ∧ items.Are vs

/-- A draft is an object of some members. -/
def Draft.HasMembers (d : Draft) (ms : List (String × Draft)) : Prop :=
  ∃ members, d = .object members ∧ members.Are ms

/-- The value of a syntax tree. -/
inductive Draft.Denotes : Draft → Value → Prop
  | null : (Draft.word .null none).Denotes .null
  | true : (Draft.word .true none).Denotes (.bool true)
  | false : (Draft.word .false none).Denotes (.bool false)
  | number {x : Numeral} {n : Number} (h : x.value? = some n) :
    (Draft.numeral (.ok x)).Denotes (.number n)
  | string {q : Quoted} {s : String} (h : q.Denotes s) : (Draft.quoted q).Denotes (.string s)
  | array {d : Draft} {ds : List Draft} {vs : List Value} (hd : d.HasItems ds)
      (h : List.Forall₂ Draft.Denotes ds vs) : d.Denotes (.array vs)
  | object {d : Draft} {ms : List (String × Draft)} {vs : List (String × Value)}
      (hd : d.HasMembers ms) (hnames : ms.map Prod.fst = vs.map Prod.fst)
      (h : List.Forall₂ Draft.Denotes (ms.map Prod.snd) (vs.map Prod.snd)) :
      d.Denotes (.object vs)

/-- A draft has a value. -/
def Draft.IsValue (d : Draft) : Prop := ∃ v, d.Denotes v

/-! ## Depth -/

mutual

/-- How deep lists and objects are nested in a draft. -/
def Draft.depth : Draft → Nat
  | .list items => items.depth + 1
  | .object members => members.depth + 1
  | _ => 0

/-- How deep the items of a list are nested. -/
def Items.depth : Items → Nat
  | .stop _ => 0
  | .item v rest => max v.depth rest.depth

/-- How deep the values of members are nested. -/
def Members.depth : Members → Nat
  | .stop _ => 0
  | .notKey _ => 0
  | .noValue _ _ => 0
  | .member _ v rest => max v.depth rest.depth

end

end NullLint.Json
