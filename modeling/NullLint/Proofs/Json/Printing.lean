import Mathlib.Tactic.IntervalCases
import NullLint.Proofs.Json.Lexeme

set_option autoImplicit false
set_option relaxedAutoImplicit false

/-!
# What is written as JSON text

The text of a value over several lines is a JSON document. It stands for the value if the numbers
of the value are integers of 64 bits.

## Main definitions

* `Json.Value.AllIntegers` — all numbers of a value are integers that meet a condition.
* `Json.IsExact` — an integer keeps its value when it is read.

## Main results

* `Json.exists_numeral_spelled`, `Json.exists_quoted_spelled` — the texts of integers and strings.
* `Json.Value.exists_isTextOf_pretty` — **the text of a value is a document that stands for it.**
-/

namespace NullLint.Json

/-! ## Integers -/

/-- An integer has 64 bits, with a sign if it is negative. -/
def IsExact (i : Int) : Prop := -(2 ^ 63 : Int) ≤ i ∧ i ≤ maxNatural

/-- The digits of a number start with a zero only if the number is zero. -/
theorem toDigits_of_head_zero {n : Nat} (h : (Nat.toDigits 10 n).head? = some '0') :
    Nat.toDigits 10 n = ['0'] := by
  induction n using Nat.strongRecOn with
  | ind n ih =>
    by_cases hn : n < 10
    · rw [Nat.toDigits_of_lt_base hn] at h ⊢
      simpa using h
    · rw [Nat.toDigits_of_base_le (by decide) (Nat.le_of_not_lt hn)] at h
      rw [List.head?_append_of_ne_nil _ Nat.toDigits_ne_nil] at h
      have hzero := ih (n / 10) (by omega) h
      have hvalue : n / 10 = 0 := by
        rw [← @Nat.ofDigitChars_ten_toDigits (n / 10), hzero]
        rfl
      omega

/-- The digits of a number are the digits before the point of a numeral. -/
theorem isWhole_toDigits (n : Nat) : IsWhole (Nat.toDigits 10 n) :=
  ⟨⟨Nat.toDigits_ne_nil, fun _ hd => Nat.isDigit_of_mem_toDigits (by decide) (by decide) hd⟩,
    toDigits_of_head_zero⟩

/-- A number is what its digits stand for. -/
theorem digitsValue_toDigits (n : Nat) : digitsValue (Nat.toDigits 10 n) = n :=
  Nat.ofDigitChars_ten_toDigits

/-- The digits of a number, with a sign or without, are a numeral. -/
theorem isSpelled_toDigits (negative : Bool) (n : Nat) :
    (Numeral.mk negative (Nat.toDigits 10 n) none none).IsSpelled
      ((if negative then ['-'] else []) ++ Nat.toDigits 10 n) where
  whole := isWhole_toDigits n
  fraction := by
    rintro ds ⟨⟩
  exponent := ⟨[], ExponentSpelled.absent, by simp [Numeral.signChars, fractionChars]⟩

/-- The text of an integer is a numeral; its value is the integer if it has 64 bits. -/
theorem exists_numeral_spelled (i : Int) :
    ∃ x : Numeral, x.IsSpelled (toString i).toList ∧
      (IsExact i → x.value? = some (.integer i)) := by
  cases i with
  | ofNat n =>
    have htext : (toString (Int.ofNat n)).toList = Nat.toDigits 10 n := by
      change (toString n).toList = _
      rw [Nat.toString_eq_ofList_toDigits, String.toList_ofList]
    refine ⟨⟨false, Nat.toDigits 10 n, none, none⟩, ?_, fun hexact => ?_⟩
    · rw [htext]
      exact isSpelled_toDigits false n
    · rw [Numeral.value?_eq_integer_iff]
      refine ⟨rfl, rfl, ?_, Or.inl ⟨rfl, ?_⟩⟩
      · rw [digitsValue_toDigits]
        exact Int.ofNat_le.mp hexact.2
      · rw [digitsValue_toDigits]
        rfl
  | negSucc n =>
    have htext : (toString (Int.negSucc n)).toList = '-' :: Nat.toDigits 10 (n + 1) := by
      change ("-" ++ toString (n + 1)).toList = _
      simp
    refine ⟨⟨true, Nat.toDigits 10 (n + 1), none, none⟩, ?_, fun hexact => ?_⟩
    · rw [htext]
      exact isSpelled_toDigits true (n + 1)
    · have hbound : n + 1 ≤ 2 ^ 63 := by
        have := hexact.1
        omega
      rw [Numeral.value?_eq_integer_iff]
      simp only [digitsValue_toDigits]
      refine ⟨trivial, trivial, Nat.le_trans hbound (by decide), Or.inr ⟨trivial, ?_, hbound, rfl⟩⟩
      exact Nat.succ_pos n

/-! ## Strings -/

/-- A control character is written as an escape of four digits that stands for it. -/
theorem exists_unit_of_lt {n : Nat} (h : n < 0x20) :
    ∃ a b, unitValue '0' '0' a b = some n ∧
      (if n < 0x10 then ['\\', 'u', '0', '0', '0'] ++ Nat.toDigits 16 n
        else ['\\', 'u', '0', '0'] ++ Nat.toDigits 16 n) = ['\\', 'u', '0', '0', a, b] := by
  interval_cases n <;> exact ⟨_, _, rfl, rfl⟩

/-- A short escape is a piece that stands for its character. -/
theorem exists_piece_of_short {e c : Char} (he : shortEscape e = some c) :
    ∃ p, (∀ ps s, PiecesSpelled ps s → PiecesSpelled (p :: ps) (['\\', e] ++ s)) ∧
      ∀ ps cs, PiecesDenote ps cs → PiecesDenote (p :: ps) (c :: cs) :=
  ⟨.char c, fun _ _ => PiecesSpelled.short he, fun _ _ => PiecesDenote.char⟩

/-- What is written for a character is a piece that stands for it. -/
theorem exists_piece_spelled (c : Char) :
    ∃ p, (∀ ps s, PiecesSpelled ps s → PiecesSpelled (p :: ps) (Value.escapeChar c ++ s)) ∧
      ∀ ps cs, PiecesDenote ps cs → PiecesDenote (p :: ps) (c :: cs) := by
  unfold Value.escapeChar
  split
  · exact exists_piece_of_short rfl
  · exact exists_piece_of_short rfl
  · exact exists_piece_of_short rfl
  · exact exists_piece_of_short rfl
  · exact exists_piece_of_short rfl
  · exact exists_piece_of_short rfl
  · exact exists_piece_of_short rfl
  · next hquote hback _ _ _ _ _ =>
    by_cases hcontrol : c.toNat < 0x20
    · obtain ⟨a, b, hvalue, htext⟩ := exists_unit_of_lt hcontrol
      rw [if_pos hcontrol, htext]
      refine ⟨.unit c.toNat, fun ps s h => PiecesSpelled.unit hvalue h, fun ps cs h => ?_⟩
      have hhigh : isHighSurrogate c.toNat = false := by
        simp only [isHighSurrogate, Bool.and_eq_false_imp, decide_eq_true_eq]
        omega
      have hlow : isLowSurrogate c.toNat = false := by
        simp only [isLowSurrogate, Bool.and_eq_false_imp, decide_eq_true_eq]
        omega
      simpa using PiecesDenote.unit hhigh hlow h
    · rw [if_neg (by omega), if_neg hcontrol]
      exact ⟨.char c, fun ps s h => PiecesSpelled.plain hquote hback (Nat.le_of_not_lt hcontrol) h,
        fun ps cs => PiecesDenote.char⟩

/-- What is written for a text, between its marks, is a string that stands for it. -/
theorem exists_quoted_spelled (s : String) :
    ∃ q : Quoted, q.IsSpelled (s.toList.flatMap Value.escapeChar) ∧ q.Denotes s := by
  obtain ⟨ps, hspelled, hden⟩ : ∃ ps, PiecesSpelled ps (s.toList.flatMap Value.escapeChar) ∧
      PiecesDenote ps s.toList := by
    induction s.toList with
    | nil => exact ⟨[], PiecesSpelled.nil, PiecesDenote.nil⟩
    | cons c cs ih =>
      obtain ⟨ps, hspelled, hden⟩ := ih
      obtain ⟨p, hp, hp'⟩ := exists_piece_spelled c
      exact ⟨p :: ps, hp ps _ hspelled, hp' ps cs hden⟩
  exact ⟨⟨ps, .closed⟩, ⟨rfl, hspelled⟩, rfl, hden⟩

/-! ## Values -/

namespace Value

mutual

/-- All numbers of a value are integers that meet a condition. -/
def AllIntegers (p : Int → Prop) : Value → Prop
  | .number (.integer i) => p i
  | .number (.real _) => False
  | .array vs => AllItems p vs
  | .object ms => AllMembers p ms
  | _ => True

/-- All numbers of some items are integers that meet a condition. -/
def AllItems (p : Int → Prop) : List Value → Prop
  | [] => True
  | v :: vs => AllIntegers p v ∧ AllItems p vs

/-- All numbers of some members are integers that meet a condition. -/
def AllMembers (p : Int → Prop) : List (String × Value) → Prop
  | [] => True
  | m :: ms => AllIntegers p m.2 ∧ AllMembers p ms

end

section

variable {p : Int → Prop}

@[simp]
theorem allIntegers_string (s : String) : (string s).AllIntegers p := by
  simp [AllIntegers]

@[simp]
theorem allIntegers_bool (b : Bool) : (bool b).AllIntegers p := by
  simp [AllIntegers]

@[simp]
theorem allIntegers_nat {n : Nat} : (nat n).AllIntegers p ↔ p n := by
  simp [nat, AllIntegers]

@[simp]
theorem allIntegers_array {vs : List Value} :
    (array vs).AllIntegers p ↔ ∀ v ∈ vs, v.AllIntegers p := by
  rw [AllIntegers]
  induction vs with
  | nil => simp [AllItems]
  | cons v vs ih => simp [AllItems, ih]

@[simp]
theorem allIntegers_object {ms : List (String × Value)} :
    (object ms).AllIntegers p ↔ ∀ m ∈ ms, m.2.AllIntegers p := by
  rw [AllIntegers]
  induction ms with
  | nil => simp [AllMembers]
  | cons m ms ih => simp only [AllMembers, ih, List.forall_mem_cons]

end

/-- A line break and the blanks after it are blanks. -/
theorem isBlank_newline (level : Nat) : IsBlank (newline level) := by
  intro c hc
  rcases List.mem_cons.mp hc with rfl | hc
  · rfl
  · rw [List.eq_of_mem_replicate hc]
    rfl

theorem isBlank_space : IsBlank [' '] := by
  intro c hc
  rw [List.mem_singleton.mp hc]
  rfl

mutual

/-- What is written for a value is the text of a syntax tree that stands for the value, if its
integers have 64 bits. -/
theorem exists_isSpelled_prettyChars {p : Int → Prop} :
    ∀ (v : Value) (level : Nat), v.AllIntegers p → ∃ d : Draft,
      d.IsSpelled (prettyChars level v) ∧ ((∀ i, p i → IsExact i) → d.Denotes v)
  | .null, _, _ => ⟨.word .null none, Draft.IsSpelled.word .null, fun _ => Draft.Denotes.null⟩
  | .bool true, _, _ =>
    ⟨.word .true none, Draft.IsSpelled.word .true, fun _ => Draft.Denotes.true⟩
  | .bool false, _, _ =>
    ⟨.word .false none, Draft.IsSpelled.word .false, fun _ => Draft.Denotes.false⟩
  | .number (.integer i), _, h => by
    obtain ⟨x, hspelled, hvalue⟩ := exists_numeral_spelled i
    exact ⟨.numeral (.ok x), Draft.IsSpelled.numeral hspelled,
      fun hexact => Draft.Denotes.number (hvalue (hexact i h))⟩
  | .number (.real _), _, h => by cases h
  | .string s, _, _ => by
    obtain ⟨q, hspelled, hden⟩ := exists_quoted_spelled s
    exact ⟨.quoted q, Draft.IsSpelled.quoted hspelled, fun _ => Draft.Denotes.string hden⟩
  | .array [], _, _ =>
    ⟨.list (.stop .closed), Draft.IsSpelled.emptyList isBlank_nil,
      fun _ => Draft.Denotes.array ⟨_, rfl, Items.Are.nil⟩ List.Forall₂.nil⟩
  | .array (v :: vs), level, h => by
    obtain ⟨items, ds, s, htext, hspelled, hare, hden⟩ :=
      exists_isSpelled_prettyItems (v :: vs) level (by simp) h
    refine ⟨.list items, ?_, fun hexact => Draft.Denotes.array ⟨_, rfl, hare⟩ (hden hexact)⟩
    have hlist := Draft.IsSpelled.list hspelled
    rw [prettyChars, htext]
    simpa using hlist
  | .object [], _, _ =>
    ⟨.object (.stop .closed), Draft.IsSpelled.emptyObject isBlank_nil,
      fun _ => Draft.Denotes.object ⟨_, rfl, Members.Are.nil⟩ rfl List.Forall₂.nil⟩
  | .object (m :: ms), level, h => by
    obtain ⟨members, ds, s, htext, hspelled, hare, hnames, hden⟩ :=
      exists_isSpelled_prettyMembers (m :: ms) level (by simp) h
    refine ⟨.object members, ?_,
      fun hexact => Draft.Denotes.object ⟨_, rfl, hare⟩ hnames (hden hexact)⟩
    have hobject := Draft.IsSpelled.object hspelled
    rw [prettyChars, htext]
    simpa using hobject

/-- What is written for the items of an array, with the blanks before them. -/
theorem exists_isSpelled_prettyItems {p : Int → Prop} :
    ∀ (vs : List Value) (level : Nat), vs ≠ [] → AllItems p vs → ∃ items ds s,
      prettyItems level vs = s ++ [']'] ∧
      Items.IsSpelled items (newline (level + 1) ++ s) ∧ Items.Are items ds ∧
      ((∀ i, p i → IsExact i) → List.Forall₂ Draft.Denotes ds vs)
  | [], _, h, _ => absurd rfl h
  | [v], level, _, h => by
    obtain ⟨d, hspelled, hden⟩ := exists_isSpelled_prettyChars v (level + 1) h.1
    exact ⟨.item d (.stop .closed), [d], prettyChars (level + 1) v ++ newline level, rfl,
      Items.IsSpelled.last (isBlank_newline _) hspelled (isBlank_newline _),
      Items.Are.cons Items.Are.nil,
      fun hexact => List.Forall₂.cons (hden hexact) List.Forall₂.nil⟩
  | v :: w :: vs, level, _, h => by
    obtain ⟨d, hspelled, hden⟩ := exists_isSpelled_prettyChars v (level + 1) h.1
    obtain ⟨items, ds, s, htext, hrest, hare, hrestden⟩ :=
      exists_isSpelled_prettyItems (w :: vs) level (by simp) h.2
    refine ⟨.item d items, d :: ds,
      prettyChars (level + 1) v ++ ',' :: newline (level + 1) ++ s, ?_, ?_, Items.Are.cons hare,
      fun hexact => List.Forall₂.cons (hden hexact) (hrestden hexact)⟩
    · rw [prettyItems, htext]
      · simp
      · simp
    · have hcons := Items.IsSpelled.cons (isBlank_newline (level + 1)) hspelled isBlank_nil hrest
      simpa using hcons

/-- What is written for the members of an object, with the blanks before them. -/
theorem exists_isSpelled_prettyMembers {p : Int → Prop} :
    ∀ (ms : List (String × Value)) (level : Nat), ms ≠ [] → AllMembers p ms →
      ∃ members ds s, prettyMembers level ms = s ++ ['\x7d'] ∧
      Members.IsSpelled members (newline (level + 1) ++ s) ∧ Members.Are members ds ∧
      ds.map Prod.fst = ms.map Prod.fst ∧
      ((∀ i, p i → IsExact i) →
        List.Forall₂ Draft.Denotes (ds.map Prod.snd) (ms.map Prod.snd))
  | [], _, h, _ => absurd rfl h
  | [(k, v)], level, _, h => by
    obtain ⟨q, hkey, hkeyden⟩ := exists_quoted_spelled k
    obtain ⟨d, hspelled, hden⟩ := exists_isSpelled_prettyChars v (level + 1) h.1
    refine ⟨.member q d (.stop .closed), [(k, d)],
      stringChars k ++ ':' :: ' ' :: prettyChars (level + 1) v ++ newline level, rfl, ?_,
      Members.Are.cons hkeyden Members.Are.nil, rfl,
      fun hexact => List.Forall₂.cons (hden hexact) List.Forall₂.nil⟩
    have hlast := Members.IsSpelled.last (isBlank_newline (level + 1)) hkey isBlank_nil
      isBlank_space hspelled (isBlank_newline level)
    simpa [stringChars] using hlast
  | (k, v) :: n :: ms, level, _, h => by
    obtain ⟨q, hkey, hkeyden⟩ := exists_quoted_spelled k
    obtain ⟨d, hspelled, hden⟩ := exists_isSpelled_prettyChars v (level + 1) h.1
    obtain ⟨members, ds, s, htext, hrest, hare, hnames, hrestden⟩ :=
      exists_isSpelled_prettyMembers (n :: ms) level (by simp) h.2
    refine ⟨.member q d members, (k, d) :: ds,
      stringChars k ++ ':' :: ' ' :: prettyChars (level + 1) v ++ ',' :: newline (level + 1) ++ s,
      ?_, ?_, Members.Are.cons hkeyden hare, by simpa using hnames,
      fun hexact => List.Forall₂.cons (hden hexact) (hrestden hexact)⟩
    · rw [prettyMembers, htext]
      · simp
      · simp
    · have hcons := Members.IsSpelled.cons (isBlank_newline (level + 1)) hkey isBlank_nil
        isBlank_space hspelled isBlank_nil hrest
      simpa [stringChars] using hcons

end

/-- **The text of a value is a document that stands for it.** The text over several lines of a
value without fractions is a JSON document, and its syntax tree stands for the value if the
integers of the value have 64 bits. -/
theorem exists_isTextOf_pretty {p : Int → Prop} {v : Value} (h : v.AllIntegers p) :
    ∃ d : Draft, d.IsTextOf v.pretty ∧ ((∀ i, p i → IsExact i) → d.Denotes v) := by
  obtain ⟨d, hspelled, hden⟩ := exists_isSpelled_prettyChars v 0 h
  exact ⟨d, ⟨[], _, [], isBlank_nil, hspelled, isBlank_nil, by simp [pretty]⟩, hden⟩

end Value

end NullLint.Json
