import Mathlib.Data.List.DropRight
import NullLint.Proofs.Json.Grammar

set_option autoImplicit false
set_option relaxedAutoImplicit false

/-!
# Reading what follows the grammar

A document that follows the grammar is read to its end, and what is read is its syntax tree. Each
scanner is treated apart: it takes a lexeme off the text in front of any text that does not go on
with it.

## Main definitions

* `Json.Ends` — a text does not go on with a numeral.

## Main results

* `Json.scanNumeral_append`, `Json.scanQuoted_append` — numerals and strings in front of a text.
* `Json.Draft.readValue_append` — a value in front of a text.
* `Json.Draft.read_of_isTextOf` — **a document is read as its syntax tree.**
-/

namespace NullLint.Json

/-! ## Blanks -/

section

variable {b s : List Char}

theorem skipSpace_append (hb : IsBlank b) : skipSpace (b ++ s) = skipSpace s := by
  rw [skipSpace, List.dropWhile_append_of_pos hb, skipSpace]

theorem skipSpace_skipSpace (s : List Char) : skipSpace (skipSpace s) = skipSpace s :=
  List.dropWhile_idempotent _ _

theorem skipSpace_cons_of_not {c : Char} (hc : isSpace c = false) :
    skipSpace (c :: s) = c :: s := by
  rw [skipSpace, List.dropWhile_cons_of_neg (by simp [hc])]

/-- Blanks in front of a text that starts with another character. -/
theorem skipSpace_append_cons {c : Char} (hb : IsBlank b) (hc : isSpace c = false) :
    skipSpace (b ++ c :: s) = c :: s := by
  rw [skipSpace_append hb, skipSpace_cons_of_not hc]

end

/-! ## Numerals -/

/-- A text does not start with a digit. -/
def NoDigit (s : List Char) : Prop := ∀ c, s.head? = some c → c.isDigit = false

/-- A text does not go on with a numeral. -/
def Ends (s : List Char) : Prop :=
  ∀ c, s.head? = some c → c.isDigit = false ∧ c ≠ '.' ∧ c ≠ 'e' ∧ c ≠ 'E'

theorem Ends.noDigit {s : List Char} (h : Ends s) : NoDigit s := fun c hc => (h c hc).1

theorem noDigit_cons {c : Char} {s : List Char} (hc : c.isDigit = false) : NoDigit (c :: s) := by
  rintro d ⟨⟩
  exact hc

/-- No blank goes on with a numeral. -/
theorem ends_append {b s : List Char} (hb : IsBlank b) (hs : Ends s) : Ends (b ++ s) := by
  cases b with
  | nil => exact hs
  | cons c b =>
    rintro d ⟨⟩
    have hspace := hb c (by simp)
    simp only [isSpace, Bool.or_eq_true, beq_iff_eq] at hspace
    rcases hspace with ((rfl | rfl) | rfl) | rfl <;> decide

theorem scanDigits_append {ds rest : List Char} (hds : IsDigits ds) (hrest : NoDigit rest) :
    scanDigits (ds ++ rest) = .ok (ds, rest) := by
  obtain ⟨hne, hall⟩ := hds
  have htake : (ds ++ rest).takeWhile Char.isDigit = ds := by
    rw [List.takeWhile_append_of_pos hall]
    cases rest with
    | nil => simp
    | cons c rest => simp [hrest c rfl]
  have hdrop : (ds ++ rest).dropWhile Char.isDigit = rest := by
    rw [List.dropWhile_append_of_pos hall]
    cases rest with
    | nil => rfl
    | cons c rest => simp [hrest c rfl]
  obtain ⟨d, ds', rfl⟩ := List.exists_cons_of_ne_nil hne
  rw [List.cons_append] at *
  rw [scanDigits, if_pos (hall d (by simp)), htake, hdrop]

theorem scanWhole_append {ds rest : List Char} (hds : IsWhole ds) (hrest : NoDigit rest) :
    scanWhole (ds ++ rest) = .ok (ds, rest) := by
  obtain ⟨hdigits, hzero⟩ := hds
  obtain ⟨d, ds', rfl⟩ := List.exists_cons_of_ne_nil hdigits.1
  by_cases hd : d = '0'
  · subst hd
    cases hzero rfl
    cases rest with
    | nil => rfl
    | cons c rest => simp [scanWhole, hrest c rfl]
  · have hscan : scanWhole (d :: ds' ++ rest) = scanDigits (d :: ds' ++ rest) := by
      rw [List.cons_append, scanWhole]
      rintro c s' h
      exact absurd (List.cons.inj h).1 hd
    rw [hscan, scanDigits_append hdigits hrest]

theorem scanFraction_append {fraction : Option (List Char)} {rest : List Char}
    (hfraction : ∀ ds, fraction = some ds → IsDigits ds) (hrest : NoDigit rest)
    (hpoint : rest.head? ≠ some '.') :
    scanFraction (fractionChars fraction ++ rest) = .ok (fraction, rest) := by
  cases fraction with
  | none =>
    rw [fractionChars, List.nil_append, scanFraction]
    rintro s rfl
    exact hpoint rfl
  | some ds =>
    rw [fractionChars, List.cons_append, scanFraction, scanDigits_append (hfraction ds rfl) hrest]
    rfl

theorem scanExponent_append {exponent : Option Int} {e rest : List Char}
    (he : ExponentSpelled exponent e) (hrest : Ends rest) :
    scanExponent (e ++ rest) = .ok (exponent, rest) := by
  cases he with
  | absent =>
    cases rest with
    | nil => rfl
    | cons c rest =>
      obtain ⟨-, -, he, hE⟩ := hrest c rfl
      simp [scanExponent, he, hE]
  | @plain c ds he hds =>
    have hsign : scanSign (ds ++ rest) = (false, ds ++ rest) := by
      obtain ⟨d, ds', rfl⟩ := List.exists_cons_of_ne_nil hds.1
      have hd := hds.2 d (by simp)
      rw [List.cons_append, scanSign]
      · rintro s h
        cases (List.cons.inj h).1
        cases hd
      · rintro s h
        cases (List.cons.inj h).1
        cases hd
    rw [List.cons_append, scanExponent, if_pos he, hsign]
    simp only [scanDigits_append hds hrest.noDigit]
    rfl
  | @plus c ds he hds =>
    rw [List.cons_append, scanExponent, if_pos he, List.cons_append, scanSign]
    simp only [scanDigits_append hds hrest.noDigit]
    rfl
  | @minus c ds he hds =>
    rw [List.cons_append, scanExponent, if_pos he, List.cons_append, scanSign]
    simp only [scanDigits_append hds hrest.noDigit]
    rfl

/-- An exponent starts with a letter, if there is one. -/
theorem noDigit_exponent {exponent : Option Int} {e rest : List Char}
    (he : ExponentSpelled exponent e) (hrest : Ends rest) :
    NoDigit (e ++ rest) ∧ (e ++ rest).head? ≠ some '.' := by
  cases he with
  | absent =>
    refine ⟨hrest.noDigit, fun h => ?_⟩
    exact (hrest '.' h).2.1 rfl
  | plain he => rcases he with rfl | rfl <;> exact ⟨noDigit_cons rfl, by simp⟩
  | plus he => rcases he with rfl | rfl <;> exact ⟨noDigit_cons rfl, by simp⟩
  | minus he => rcases he with rfl | rfl <;> exact ⟨noDigit_cons rfl, by simp⟩

/-- A numeral is read in front of a text that does not go on with it. -/
theorem scanNumeral_append {x : Numeral} {s rest : List Char} (hx : x.IsSpelled s)
    (hrest : Ends rest) : scanNumeral (s ++ rest) = .ok (x, rest) := by
  obtain ⟨hwhole, hfraction, e, he, rfl⟩ := hx
  obtain ⟨hnoDigit, hpoint⟩ := noDigit_exponent he hrest
  have hafter : NoDigit (fractionChars x.fraction ++ (e ++ rest)) := by
    cases x.fraction with
    | none => exact hnoDigit
    | some ds => exact noDigit_cons rfl
  obtain ⟨negative, whole, fraction, exponent⟩ := x
  simp only [List.append_assoc]
  have hread := scanWhole_append hwhole hafter
  have hfractionRead := scanFraction_append hfraction hnoDigit hpoint
  have hexponentRead := scanExponent_append he hrest
  cases negative with
  | true =>
    simp only [Numeral.signChars, if_true, List.cons_append, List.nil_append, scanNumeral]
    simp only [hread, hfractionRead, hexponentRead, bind, Except.bind]
    rfl
  | false =>
    obtain ⟨d, ds, rfl⟩ := List.exists_cons_of_ne_nil hwhole.1.1
    have hd : d.isDigit = true := hwhole.1.2 d (by simp)
    have hminus : d ≠ '-' := by
      rintro rfl
      cases hd
    simp only [Numeral.signChars, Bool.false_eq_true, if_false, List.nil_append, scanNumeral]
    rw [List.cons_append] at hread ⊢
    split
    · next h => exact absurd (List.cons.inj h).1 hminus
    · simp only [hread, hfractionRead, hexponentRead, bind, Except.bind]
      rfl

/-! ## Strings -/

/-- A character that stands for itself is read as such. -/
theorem scanQuoted_cons {c : Char} (hquote : c ≠ '"') (hback : c ≠ '\\')
    (hcontrol : 0x20 ≤ c.toNat) (s : List Char) :
    scanQuoted (c :: s) = Quoted.push (.char c) (scanQuoted s) := by
  rw [scanQuoted]
  · rw [if_neg (Nat.not_lt.mpr hcontrol)]
  · exact hquote
  · exact fun h _ => hback h
  · exact fun _ _ _ _ _ h _ => hback h
  · exact fun _ h _ => hback h
  · exact fun _ _ h _ => hback h

/-- A string is read up to the mark that closes it. -/
theorem scanQuoted_append {q : Quoted} {s : List Char} (h : q.IsSpelled s) (rest : List Char) :
    scanQuoted (s ++ '"' :: rest) = (q, rest) := by
  obtain ⟨pieces, stop⟩ := q
  obtain ⟨rfl : stop = .closed, h : PiecesSpelled pieces s⟩ := h
  induction h with
  | nil => rfl
  | plain hquote hback hcontrol _ ih =>
    rw [List.cons_append, scanQuoted_cons hquote hback hcontrol, ih]
    rfl
  | @short e c ps s he _ ih =>
    have hunit : e ≠ 'u' := by
      rintro rfl
      cases he
    simp only [List.cons_append]
    rw [scanQuoted, he]
    · simp only [ih]
      rfl
    · exact fun _ _ _ _ _ h _ => hunit h
    · exact hunit
  | unit hu _ ih =>
    simp only [List.cons_append]
    rw [scanQuoted, hu]
    simp only [ih]
    rfl

/-! ## Values -/

/-- A numeral starts with a minus or a digit. -/
theorem Numeral.IsSpelled.exists_cons {x : Numeral} {s : List Char} (h : x.IsSpelled s) :
    ∃ c s', s = c :: s' ∧ (c = '-' ∨ c.isDigit = true) := by
  obtain ⟨⟨⟨hne, hdigits⟩, -⟩, -, e, -, rfl⟩ := h
  obtain ⟨d, ds, hds⟩ := List.exists_cons_of_ne_nil hne
  rw [signChars, hds]
  cases x.negative with
  | true => exact ⟨_, _, rfl, Or.inl rfl⟩
  | false => exact ⟨_, _, rfl, Or.inr (hdigits d (by simp [hds]))⟩

/-- A minus and a digit are no other characters at which a value starts. -/
theorem ne_of_startsNumeral {c d : Char} (hc : c = '-' ∨ c.isDigit = true)
    (hd : d ≠ '-' ∧ d.isDigit = false) : c ≠ d := by
  rintro rfl
  rcases hc with hc | hc
  · exact hd.1 hc
  · rw [hd.2] at hc
    cases hc

/-- A value starts with a character that is neither a blank nor the end of a list. -/
theorem Draft.IsSpelled.exists_cons {d : Draft} {s : List Char} (h : d.IsSpelled s) :
    ∃ c s', s = c :: s' ∧ isSpace c = false ∧ c ≠ ']' := by
  cases h with
  | word w => cases w <;> exact ⟨_, _, rfl, rfl, by decide⟩
  | numeral h =>
    obtain ⟨c, s', rfl, hc⟩ := h.exists_cons
    have hne : ∀ d : Char, d ≠ '-' ∧ d.isDigit = false → c ≠ d := fun _ => ne_of_startsNumeral hc
    refine ⟨c, s', rfl, ?_, hne _ (by decide)⟩
    simp [isSpace, hne ' ' (by decide), hne '\n' (by decide), hne '\t' (by decide),
      hne '\r' (by decide)]
  | quoted => exact ⟨_, _, rfl, rfl, by decide⟩
  | emptyList => exact ⟨_, _, rfl, rfl, by decide⟩
  | list => exact ⟨_, _, rfl, rfl, by decide⟩
  | emptyObject => exact ⟨_, _, rfl, rfl, by decide⟩
  | object => exact ⟨_, _, rfl, rfl, by decide⟩

namespace Draft

theorem readValue_skipSpace (fuel : Nat) (s : List Char) :
    readValue fuel (skipSpace s) = readValue fuel s := by
  cases fuel with
  | zero => rfl
  | succ fuel => rw [readValue, readValue, skipSpace_skipSpace]

theorem readItem_skipSpace (fuel : Nat) (s : List Char) :
    readItem fuel (skipSpace s) = readItem fuel s := by
  cases fuel with
  | zero => rfl
  | succ fuel => rw [readItem, readItem, readValue_skipSpace]

/-- Blanks in front of a value do not count. -/
theorem readValue_blank_append {b : List Char} (hb : IsBlank b) (fuel : Nat) (s : List Char) :
    readValue fuel (b ++ s) = readValue fuel s := by
  rw [← readValue_skipSpace, skipSpace_append hb, readValue_skipSpace]

theorem readValue_word (w : Word) (fuel : Nat) (rest : List Char) :
    readValue (fuel + 1) (w.letters ++ rest) = (.word w none, some rest) := by
  cases w <;> rfl

theorem readValue_numeral {x : Numeral} {s rest : List Char} (hx : x.IsSpelled s)
    (hrest : Ends rest) (fuel : Nat) :
    readValue (fuel + 1) (s ++ rest) = (.numeral (.ok x), some rest) := by
  have hscan := scanNumeral_append hx hrest
  obtain ⟨c, s', rfl, hspace, -⟩ := (Draft.IsSpelled.numeral hx).exists_cons
  obtain ⟨c', s'', heq, hc⟩ := hx.exists_cons
  cases heq
  rw [List.cons_append] at hscan ⊢
  rw [readValue, skipSpace_cons_of_not hspace]
  simp only [if_neg (ne_of_startsNumeral hc (d := 'n') (by decide)),
    if_neg (ne_of_startsNumeral hc (d := 't') (by decide)),
    if_neg (ne_of_startsNumeral hc (d := 'f') (by decide)), if_pos hc, readNumeral, hscan]

theorem readValue_quoted {q : Quoted} {s : List Char} (hq : q.IsSpelled s) (fuel : Nat)
    (rest : List Char) :
    readValue (fuel + 1) ('"' :: (s ++ '"' :: rest)) = (.quoted q, some rest) := by
  rw [readValue, skipSpace_cons_of_not rfl]
  simp [readQuoted, scanQuoted_append hq, hq.1, Char.isDigit]

/-! ### Lists -/

theorem readValue_list (fuel : Nat) (s : List Char) :
    readValue (fuel + 1) ('[' :: s) =
      (.list (readFirstItem fuel s).1, (readFirstItem fuel s).2) := by
  rw [readValue, skipSpace_cons_of_not rfl]
  simp [Char.isDigit]

theorem readFirstItem_closed {b : List Char} (hb : IsBlank b) (fuel : Nat) (rest : List Char) :
    readFirstItem (fuel + 1) (b ++ ']' :: rest) = (.stop .closed, some rest) := by
  rw [readFirstItem, skipSpace_append_cons hb rfl]
  rfl

theorem readFirstItem_of_cons {s s' : List Char} {c : Char} (hs : skipSpace s = c :: s')
    (hc : c ≠ ']') (fuel : Nat) : readFirstItem (fuel + 1) s = readItem fuel s := by
  rw [readFirstItem, hs]
  simp only [if_neg hc]
  rw [← hs, readItem_skipSpace]

theorem readItem_value {fuel : Nat} {s rest : List Char} {v : Draft}
    (h : readValue fuel s = (v, some rest)) :
    readItem (fuel + 1) s = (.item v (readNextItem fuel rest).1, (readNextItem fuel rest).2) := by
  rw [readItem, h]

theorem readNextItem_closed {b : List Char} (hb : IsBlank b) (fuel : Nat) (rest : List Char) :
    readNextItem (fuel + 1) (b ++ ']' :: rest) = (.stop .closed, some rest) := by
  rw [readNextItem, skipSpace_append_cons hb rfl]
  rfl

theorem readNextItem_comma {b s s' : List Char} {c : Char} (hb : IsBlank b)
    (hs : skipSpace s = c :: s') (hc : c ≠ ']') (fuel : Nat) :
    readNextItem (fuel + 1) (b ++ ',' :: s) = readItem fuel s := by
  rw [readNextItem, skipSpace_append_cons hb rfl]
  simp only [Char.reduceEq, if_false, if_true, hs, if_neg hc]
  rw [← hs, readItem_skipSpace]

/-! ### Objects -/

theorem readValue_object (fuel : Nat) (s : List Char) :
    readValue (fuel + 1) ('\x7b' :: s) =
      (.object (readFirstMember fuel s).1, (readFirstMember fuel s).2) := by
  rw [readValue, skipSpace_cons_of_not rfl]
  simp [Char.isDigit]

theorem readFirstMember_closed {b : List Char} (hb : IsBlank b) (fuel : Nat)
    (rest : List Char) :
    readFirstMember (fuel + 1) (b ++ '\x7d' :: rest) = (.stop .closed, some rest) := by
  rw [readFirstMember, skipSpace_append_cons hb rfl]
  rfl

theorem readFirstMember_key {b : List Char} (hb : IsBlank b) (fuel : Nat) (s : List Char) :
    readFirstMember (fuel + 1) (b ++ '"' :: s) = readMember fuel s := by
  rw [readFirstMember, skipSpace_append_cons hb rfl]
  rfl

theorem readNextMember_closed {b : List Char} (hb : IsBlank b) (fuel : Nat)
    (rest : List Char) :
    readNextMember (fuel + 1) (b ++ '\x7d' :: rest) = (.stop .closed, some rest) := by
  rw [readNextMember, skipSpace_append_cons hb rfl]
  rfl

theorem readNextMember_comma {b b' : List Char} (hb : IsBlank b) (hb' : IsBlank b')
    (fuel : Nat) (s : List Char) :
    readNextMember (fuel + 1) (b ++ ',' :: (b' ++ '"' :: s)) = readMember fuel s := by
  rw [readNextMember, skipSpace_append_cons hb rfl]
  simp only [Char.reduceEq, if_false, if_true, skipSpace_append_cons hb' (c := '"') rfl]

/-- A key, the colon after it, and the value. -/
theorem readMember_value {key : Quoted} {k b s rest : List Char} {fuel : Nat} {v : Draft}
    (hkey : key.IsSpelled k) (hb : IsBlank b) (h : readValue fuel s = (v, some rest)) :
    readMember (fuel + 1) (k ++ '"' :: (b ++ ':' :: s)) =
      (.member key v (readNextMember fuel rest).1, (readNextMember fuel rest).2) := by
  rw [readMember, scanQuoted_append hkey]
  simp only [hkey.1, if_true, skipSpace_append_cons hb (c := ':') rfl, h]

end Draft

/-! ### The whole grammar -/

/-- The items of a list start with a character that does not end the list. -/
theorem Items.IsSpelled.exists_skipSpace {items : Items} {s : List Char} (h : items.IsSpelled s)
    (rest : List Char) : ∃ c s', skipSpace (s ++ rest) = c :: s' ∧ c ≠ ']' := by
  have hvalue : ∀ {v : Draft} {b t r : List Char}, IsBlank b → v.IsSpelled t →
      ∃ c s', skipSpace (b ++ (t ++ r)) = c :: s' ∧ c ≠ ']' := by
    intro v b t r hb ht
    obtain ⟨c, t', rfl, hspace, hc⟩ := ht.exists_cons
    exact ⟨c, t' ++ r, skipSpace_append_cons hb hspace, hc⟩
  cases h with
  | last hb h hb' =>
    simp only [List.append_assoc]
    exact hvalue hb h
  | cons hb h hb' hrest =>
    simp only [List.append_assoc]
    exact hvalue hb h

/-- A list or an object goes on after a value with a comma, or ends. -/
theorem ends_of_stop {b s : List Char} {c : Char} (hb : IsBlank b)
    (hc : c = ',' ∨ c = ']' ∨ c = '\x7d') : Ends (b ++ c :: s) := by
  refine ends_append hb ?_
  rintro d ⟨⟩
  rcases hc with rfl | rfl | rfl <;> decide

mutual

/-- A value is read in front of any text; a numeral, in front of a text that does not go on with
it. -/
theorem Draft.readValue_append : ∀ (d : Draft) {s : List Char} (rest : List Char) (fuel : Nat),
    d.IsSpelled s → (∀ x, d = .numeral x → Ends rest) → 2 * s.length ≤ fuel →
    Draft.readValue fuel (s ++ rest) = (d, some rest)
  | d, _, _, 0, h, _, hfuel => by
    obtain ⟨c, s', rfl, -⟩ := h.exists_cons
    cases hfuel
  | .missing, _, _, _ + 1, h, _, _ => by cases h
  | .stray, _, _, _ + 1, h, _, _ => by cases h
  | .word _ _, _, _, _ + 1, h, _, _ => by
    cases h
    exact Draft.readValue_word _ _ _
  | .numeral _, _, _, _ + 1, h, hrest, _ => by
    cases h with
    | numeral hx => exact Draft.readValue_numeral hx (hrest _ rfl) _
  | .quoted _, _, rest, _ + 1, h, _, _ => by
    cases h with
    | quoted hq => simpa using Draft.readValue_quoted hq _ rest
  | .list items, _, rest, fuel + 1, h, _, hfuel => by
    cases h with
    | @emptyList b hb =>
      simp only [List.length_cons, List.length_append] at hfuel
      obtain ⟨k, rfl⟩ : ∃ k, fuel = k + 1 := ⟨fuel - 1, by omega⟩
      rw [List.cons_append, List.append_assoc, Draft.readValue_list, List.singleton_append,
        Draft.readFirstItem_closed hb]
    | @list _ s h =>
      simp only [List.length_cons, List.length_append] at hfuel
      obtain ⟨k, rfl⟩ : ∃ k, fuel = k + 1 := ⟨fuel - 1, by omega⟩
      obtain ⟨c, s', hskip, hc⟩ := h.exists_skipSpace (']' :: rest)
      rw [List.cons_append, List.append_assoc, Draft.readValue_list, List.singleton_append,
        Draft.readFirstItem_of_cons hskip hc, items.readItem_append rest k h (by omega)]
  | .object members, _, rest, fuel + 1, h, _, hfuel => by
    cases h with
    | @emptyObject b hb =>
      simp only [List.length_cons, List.length_append] at hfuel
      obtain ⟨k, rfl⟩ : ∃ k, fuel = k + 1 := ⟨fuel - 1, by omega⟩
      rw [List.cons_append, List.append_assoc, Draft.readValue_object, List.singleton_append,
        Draft.readFirstMember_closed hb]
    | @object _ s h =>
      simp only [List.length_cons, List.length_append] at hfuel
      obtain ⟨k, rfl⟩ : ∃ k, fuel = k + 1 := ⟨fuel - 1, by omega⟩
      obtain ⟨b, t, rfl, hb, hread⟩ := members.readMember_append rest k h (by omega)
      rw [List.cons_append, List.append_assoc, Draft.readValue_object, List.singleton_append,
        List.append_assoc, List.cons_append, Draft.readFirstMember_key hb, hread]

/-- The items of a list are read up to the end of the list. -/
theorem Items.readItem_append : ∀ (items : Items) {s : List Char} (rest : List Char)
    (fuel : Nat), items.IsSpelled s → 2 * s.length + 1 ≤ fuel →
    Draft.readItem fuel (s ++ ']' :: rest) = (items, some rest)
  | _, _, _, 0, _, hfuel => by cases hfuel
  | .stop _, _, _, _ + 1, h, _ => by cases h
  | .item v items, _, rest, fuel + 1, h, hfuel => by
    cases h with
    | @last _ b s b' hb h hb' =>
      simp only [List.length_append] at hfuel
      obtain ⟨c, s', rfl, -⟩ := h.exists_cons
      obtain ⟨k, rfl⟩ : ∃ k, fuel = k + 1 :=
        ⟨fuel - 1, by rw [List.length_cons] at hfuel; omega⟩
      have hvalue := v.readValue_append (b' ++ ']' :: rest) (k + 1) h
        (fun _ _ => ends_of_stop hb' (by decide)) (by omega)
      rw [List.append_assoc, List.append_assoc, Draft.readItem_value
        ((Draft.readValue_blank_append hb _ _).trans hvalue), Draft.readNextItem_closed hb']
    | @cons _ _ b s b' s' hb h hb' hrest =>
      simp only [List.length_append, List.length_cons] at hfuel
      obtain ⟨k, rfl⟩ : ∃ k, fuel = k + 1 := ⟨fuel - 1, by omega⟩
      have hvalue := v.readValue_append (b' ++ ',' :: (s' ++ ']' :: rest)) (k + 1) h
        (fun _ _ => ends_of_stop hb' (by decide)) (by omega)
      obtain ⟨d, t', hskip, hd⟩ := hrest.exists_skipSpace (']' :: rest)
      simp only [List.append_assoc, List.cons_append]
      rw [Draft.readItem_value ((Draft.readValue_blank_append hb _ _).trans hvalue),
        Draft.readNextItem_comma hb' hskip hd, items.readItem_append rest k hrest (by omega)]

/-- The members of an object are read up to the end of the object, from the mark that opens the
first key. -/
theorem Members.readMember_append : ∀ (members : Members) {s : List Char} (rest : List Char)
    (fuel : Nat), members.IsSpelled s → 2 * s.length + 1 ≤ fuel →
    ∃ b t, s = b ++ '"' :: t ∧ IsBlank b ∧
      Draft.readMember fuel (t ++ '\x7d' :: rest) = (members, some rest)
  | _, _, _, 0, _, hfuel => by cases hfuel
  | .stop _, _, _, _ + 1, h, _ => by cases h
  | .notKey _, _, _, _ + 1, h, _ => by cases h
  | .noValue _ _, _, _, _ + 1, h, _ => by cases h
  | .member key v members, _, rest, fuel + 1, h, hfuel => by
    cases h with
    | @last _ _ b k b₁ b₂ s b₃ hb hkey hb₁ hb₂ h hb₃ =>
      refine ⟨b, _, rfl, hb, ?_⟩
      simp only [List.length_append, List.length_cons] at hfuel
      obtain ⟨n, rfl⟩ : ∃ n, fuel = n + 1 := ⟨fuel - 1, by omega⟩
      have hvalue := v.readValue_append (b₃ ++ '\x7d' :: rest) (n + 1) h
        (fun _ _ => ends_of_stop hb₃ (by decide)) (by omega)
      simp only [List.append_assoc, List.cons_append]
      rw [Draft.readMember_value hkey hb₁ ((Draft.readValue_blank_append hb₂ _ _).trans hvalue),
        Draft.readNextMember_closed hb₃]
    | @cons _ _ _ b k b₁ b₂ s b₃ s' hb hkey hb₁ hb₂ h hb₃ hrest =>
      refine ⟨b, _, rfl, hb, ?_⟩
      simp only [List.length_append, List.length_cons] at hfuel
      obtain ⟨n, rfl⟩ : ∃ n, fuel = n + 1 := ⟨fuel - 1, by omega⟩
      obtain ⟨b₄, t, rfl, hb₄, hread⟩ := members.readMember_append rest n hrest (by omega)
      have hvalue := v.readValue_append (b₃ ++ ',' :: (b₄ ++ '"' :: (t ++ '\x7d' :: rest)))
        (n + 1) h (fun _ _ => ends_of_stop hb₃ (by decide)) (by omega)
      simp only [List.append_assoc, List.cons_append]
      rw [Draft.readMember_value hkey hb₁ ((Draft.readValue_blank_append hb₂ _ _).trans hvalue),
        Draft.readNextMember_comma hb₃ hb₄, hread]

end

/-- A value with blanks in front of it is read in front of any text; a numeral, in front of a text
that does not go on with it. -/
theorem Draft.read_append {d : Draft} {b s rest : List Char} (hb : IsBlank b) (hs : d.IsSpelled s)
    (hrest : ∀ x, d = .numeral x → Ends rest) :
    Draft.read (b ++ (s ++ rest)) = (d, some rest) := by
  rw [Draft.read, Draft.readValue_blank_append hb]
  refine d.readValue_append rest _ hs hrest ?_
  simp only [List.length_append]
  omega

/-- **A document is read as its syntax tree.** Nothing but blanks is left behind it.

**Proof sketch.** The document is a value with blanks around it. Twice the length of the value is
enough fuel to read it, and a document is read with more. -/
theorem Draft.read_of_isTextOf {d : Draft} {text : String} (h : d.IsTextOf text) :
    ∃ rest, Draft.read text.toList = (d, some rest) ∧ IsBlank rest := by
  obtain ⟨b, s, b', hb, hspelled, hb', htext⟩ := h
  have hends : Ends b' := by
    have := ends_append (s := []) hb' (by rintro c ⟨⟩)
    simpa using this
  exact ⟨b', htext ▸ Draft.read_append hb hspelled fun _ _ => hends, hb'⟩

end NullLint.Json
