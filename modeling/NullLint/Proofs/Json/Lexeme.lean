import NullLint.Proofs.Json.Grammar
import NullLint.Proofs.Progress

set_option autoImplicit false
set_option relaxedAutoImplicit false

/-!
# What lexemes are worth

A numeral is an integer if it has neither fraction nor exponent and its digits fit into 64 bits. A
string has a text if its pieces make up characters. Both are said here for the functions that
decide it.

## Main results

* `Json.Numeral.value?_eq_integer_iff` — which numerals are integers, and which integers they are.
* `Json.Quoted.text_eq_ok_iff` — which strings have a text, and which text it is.
-/

namespace NullLint.Json

/-! ## Numerals -/

/-- Digits count up from the number they continue. -/
theorem le_ofDigitChars (n : Nat) (ds : List Char) : n ≤ Nat.ofDigitChars 10 ds n := by
  induction ds generalizing n with
  | nil => exact Nat.le_refl n
  | cons d ds ih =>
    have hstep := ih (10 * n + (d.toNat - '0'.toNat))
    rw [Nat.ofDigitChars, List.foldl_cons]
    rw [Nat.ofDigitChars] at hstep
    omega

/-- Digits that fit are all taken. -/
theorem absorb_of_le {n : Nat} {ds : List Char} (h : Nat.ofDigitChars 10 ds n ≤ maxNatural) :
    absorb n ds = (Nat.ofDigitChars 10 ds n, []) := by
  induction ds generalizing n with
  | nil => rfl
  | cons d ds ih =>
    have hle := le_ofDigitChars (10 * n + (d.toNat - '0'.toNat)) ds
    rw [absorb]
    exact (if_pos (Nat.le_trans hle h)).trans (ih h)

/-- If all digits are taken they fit. -/
theorem ofDigitChars_le_of_absorb {n : Nat} {ds : List Char} (hn : n ≤ maxNatural)
    (h : (absorb n ds).2 = []) : Nat.ofDigitChars 10 ds n ≤ maxNatural := by
  induction ds generalizing n with
  | nil => exact hn
  | cons d ds ih =>
    rw [absorb] at h
    split at h
    · next hle => exact ih hle h
    · cases h

/-- **Integers.** A numeral is an integer if it has neither a fraction nor an exponent, its digits
fit into 64 bits, and with a sign it is neither zero nor below the smallest integer of 64 bits. -/
theorem Numeral.value?_eq_integer_iff {x : Numeral} {i : Int} :
    x.value? = some (.integer i) ↔ x.fraction = none ∧ x.exponent = none ∧
      digitsValue x.whole ≤ maxNatural ∧
      ((x.negative = false ∧ i = digitsValue x.whole) ∨
        (x.negative = true ∧ 0 < digitsValue x.whole ∧ digitsValue x.whole ≤ Nat.pow 2 63 ∧
          i = -(digitsValue x.whole : Int))) := by
  have hvalue : digitsValue x.whole = Nat.ofDigitChars 10 x.whole 0 := rfl
  rw [hvalue]
  constructor
  · intro h
    rw [value?] at h
    dsimp only at h
    split at h
    · next hexact =>
      simp only [Bool.and_eq_true, Bool.or_eq_true, Option.isNone_iff_eq_none, List.isEmpty_iff,
        Bool.not_eq_true', decide_eq_true_eq] at hexact
      obtain ⟨⟨⟨hfraction, hexponent⟩, hdropped⟩, hsign⟩ := hexact
      have hle := ofDigitChars_le_of_absorb (Nat.zero_le _) hdropped
      rw [absorb_of_le hle] at h hsign
      refine ⟨hfraction, hexponent, hle, ?_⟩
      cases hneg : x.negative with
      | false =>
        simp only [hneg, Bool.false_eq_true, if_false, Option.some.injEq, Number.integer.injEq] at h
        exact Or.inl ⟨rfl, h.symm⟩
      | true =>
        simp only [hneg, if_true, Option.some.injEq, Number.integer.injEq] at h
        simp only [hneg, Bool.true_eq_false, false_or] at hsign
        exact Or.inr ⟨rfl, hsign.1, hsign.2, h.symm⟩
    · -- any other numeral is a double
      obtain ⟨m, -, hm⟩ := Option.map_eq_some_iff.mp h
      cases hm
  · rintro ⟨hfraction, hexponent, hle, hsign⟩
    rw [value?, absorb_of_le hle, hfraction, hexponent]
    rcases hsign with ⟨hneg, rfl⟩ | ⟨hneg, hpos, hbound, rfl⟩
    · simp [hneg]
    · have hbound' : Nat.ofDigitChars 10 x.whole 0 ≤ Nat.pow 2 63 := hbound
      simp only [hneg, Option.isNone_none, List.isEmpty_nil, Bool.and_true, Bool.not_true,
        Bool.false_or, decide_eq_true hpos, decide_eq_true hbound', if_true]

/-! ## Strings -/

section

variable {n : Nat} {c : Char} {ps : List Piece} {cs : List Char}

/-- A character stands for itself. -/
theorem piecesDenote_char_iff :
    PiecesDenote (.char c :: ps) cs ↔ ∃ cs', PiecesDenote ps cs' ∧ c :: cs' = cs := by
  constructor
  · intro h
    cases h with
    | char h => exact ⟨_, h, rfl⟩
  · rintro ⟨cs', h, rfl⟩
    exact PiecesDenote.char h

/-- The second half of a surrogate pair does not stand first. -/
theorem not_piecesDenote_of_low (hlow : isLowSurrogate n = true) :
    ¬PiecesDenote (.unit n :: ps) cs := by
  intro h
  cases h with
  | unit _ hnot _ => simp [hlow] at hnot
  | pair hhigh _ _ =>
    simp only [isLowSurrogate, isHighSurrogate, Bool.and_eq_true, decide_eq_true_eq] at hlow hhigh
    omega

/-- The first half of a surrogate pair stands for a character with the second half after it. -/
theorem piecesDenote_high_iff (hhigh : isHighSurrogate n = true) :
    PiecesDenote (.unit n :: ps) cs ↔ ∃ m ps' cs', ps = .unit m :: ps' ∧
      isLowSurrogate m = true ∧ PiecesDenote ps' cs' ∧ pairChar n m :: cs' = cs := by
  constructor
  · intro h
    cases h with
    | unit hnot _ _ => simp [hhigh] at hnot
    | pair _ hlow h => exact ⟨_, _, _, rfl, hlow, h, rfl⟩
  · rintro ⟨m, ps', cs', rfl, hlow, h, rfl⟩
    exact PiecesDenote.pair hhigh hlow h

/-- Sixteen bits outside surrogate pairs are a character. -/
theorem piecesDenote_unit_iff (hhigh : ¬isHighSurrogate n = true)
    (hlow : ¬isLowSurrogate n = true) :
    PiecesDenote (.unit n :: ps) cs ↔ ∃ cs', PiecesDenote ps cs' ∧ Char.ofNat n :: cs' = cs := by
  constructor
  · intro h
    cases h with
    | unit _ _ h => exact ⟨_, h, rfl⟩
    | pair hhigh' _ _ => exact absurd hhigh' hhigh
  · rintro ⟨cs', h, rfl⟩
    exact PiecesDenote.unit (by simpa using hhigh) (by simpa using hlow) h

end

theorem QuotedStop.fault?_eq_none_iff {stop : QuotedStop} :
    stop.fault? = none ↔ stop = .closed := by
  cases stop <;> simp [fault?]

theorem piecesDenote_nil_iff {cs : List Char} : PiecesDenote [] cs ↔ cs = [] := by
  constructor
  · rintro ⟨⟩
    rfl
  · rintro rfl
    exact PiecesDenote.nil

/-- The pieces of a string make up characters if the string is closed and no half of a surrogate
pair stands alone.

**Proof sketch.** Induction along `pieceChars`: at each step the first piece, and after the first
half of a pair also the second one, decide which rule of `PiecesDenote` can apply. -/
theorem pieceChars_eq_ok_iff {stop : QuotedStop} {ps : List Piece} {cs : List Char} :
    pieceChars stop ps = .ok cs ↔ stop = .closed ∧ PiecesDenote ps cs := by
  fun_induction pieceChars stop ps generalizing cs with
  | case1 h =>
    simp [QuotedStop.fault?_eq_none_iff.mp h, piecesDenote_nil_iff, eq_comm]
  | case2 f h =>
    have hopen : stop ≠ .closed := fun hclosed => by simp [QuotedStop.fault?, hclosed] at h
    simp [hopen]
  | case3 c ps ih =>
    rw [map_eq_ok_iff, piecesDenote_char_iff]
    simp only [ih, and_assoc, exists_and_left]
  | case4 n hlow => simp [not_piecesDenote_of_low hlow]
  | case5 n hlow hhigh => simp [piecesDenote_high_iff hhigh]
  | case6 n hlow hhigh h =>
    simp [QuotedStop.fault?_eq_none_iff.mp h, piecesDenote_unit_iff hhigh hlow,
      piecesDenote_nil_iff]
  | case7 n hlow hhigh f h =>
    have hopen : stop ≠ .closed := fun hclosed => by simp [QuotedStop.fault?, hclosed] at h
    simp [hopen]
  | case8 n c ps hlow => simp [not_piecesDenote_of_low hlow]
  | case9 n c ps hlow hhigh => simp [piecesDenote_high_iff hhigh]
  | case10 n c ps hlow hhigh ih =>
    rw [map_eq_ok_iff, piecesDenote_unit_iff hhigh hlow]
    constructor
    · rintro ⟨cs', hcs', rfl⟩
      obtain ⟨hstop, hden⟩ := ih.mp hcs'
      exact ⟨hstop, c :: cs', piecesDenote_char_iff.mpr ⟨cs', hden, rfl⟩, rfl⟩
    · rintro ⟨hstop, cs', hden, rfl⟩
      obtain ⟨cs'', htail, rfl⟩ := piecesDenote_char_iff.mp hden
      exact ⟨cs'', ih.mpr ⟨hstop, htail⟩, rfl⟩
  | case11 n m ps hlow => simp [not_piecesDenote_of_low hlow]
  | case12 n m ps hlow hhigh hlow' ih =>
    rw [map_eq_ok_iff, piecesDenote_high_iff hhigh]
    constructor
    · rintro ⟨cs', hcs', rfl⟩
      obtain ⟨hstop, hden⟩ := ih.mp hcs'
      exact ⟨hstop, m, ps, cs', rfl, hlow', hden, rfl⟩
    · rintro ⟨hstop, m', ps', cs', hps, -, hden, rfl⟩
      cases hps
      exact ⟨cs', ih.mpr ⟨hstop, hden⟩, rfl⟩
  | case13 n m ps hlow hhigh hlow' =>
    rw [piecesDenote_high_iff hhigh]
    refine iff_of_false (by rintro ⟨⟩) ?_
    rintro ⟨-, m', ps', cs', hps, hm, -⟩
    cases hps
    exact hlow' hm
  | case14 n m ps hlow hhigh ih =>
    rw [map_eq_ok_iff, piecesDenote_unit_iff hhigh hlow]
    simp only [ih, and_assoc, exists_and_left]

/-- **Texts.** The text of a string is the one that it stands for, if it stands for one. -/
theorem Quoted.text_eq_ok_iff {q : Quoted} {s : String} : q.text = .ok s ↔ q.Denotes s := by
  rw [text, map_eq_ok_iff]
  constructor
  · rintro ⟨cs, hcs, rfl⟩
    obtain ⟨hstop, hden⟩ := pieceChars_eq_ok_iff.mp hcs
    exact ⟨hstop, by simpa using hden⟩
  · rintro ⟨hstop, hden⟩
    exact ⟨s.toList, pieceChars_eq_ok_iff.mpr ⟨hstop, hden⟩, by simp⟩

/-- A string stands for one text at most. -/
theorem Quoted.Denotes.unique {q : Quoted} {s t : String} (hs : q.Denotes s) (ht : q.Denotes t) :
    s = t :=
  Except.ok.inj ((Quoted.text_eq_ok_iff.mpr hs).symm.trans (Quoted.text_eq_ok_iff.mpr ht))

/-! ## Plain strings -/

/-- The string whose characters stand for themselves. -/
def Quoted.plain (s : String) : Quoted := ⟨s.toList.map .char, .closed⟩

theorem Quoted.denotes_plain (s : String) : (plain s).Denotes s := by
  refine ⟨rfl, ?_⟩
  rw [plain]
  induction s.toList with
  | nil => exact .nil
  | cons c cs ih => exact .char ih

/-- A string is spelled as itself if it has no quotation marks, backslashes and control
characters. -/
theorem Quoted.isSpelled_plain {s : String}
    (h : ∀ c ∈ s.toList, c ≠ '"' ∧ c ≠ '\\' ∧ 0x20 ≤ c.toNat) : (plain s).IsSpelled s.toList := by
  refine ⟨rfl, ?_⟩
  rw [plain]
  generalize s.toList = cs at h ⊢
  induction cs with
  | nil => exact .nil
  | cons c cs ih =>
    obtain ⟨⟨hquote, hback, hcontrol⟩, h⟩ := List.forall_mem_cons.mp h
    exact .plain hquote hback hcontrol (ih h)

end NullLint.Json
