import NullLint.Proofs.Json.Reading
import NullLint.Proofs.Json.Value

set_option autoImplicit false
set_option relaxedAutoImplicit false

/-!
# What is read whole follows the grammar

The converse of reading what follows the grammar. If nothing is wrong with the draft of a text, then
the text starts with blanks and a text of that draft, and what is left is what follows. So a draft
that can be used tells how far the text was read.

## Main definitions

* `Json.TakesOff` — a reading takes one of the texts of its result off the front.

## Main results

* `Json.isSpelled_of_scanNumeral`, `Json.isSpelled_of_scanQuoted` — numerals and strings.
* `Json.Draft.exists_isSpelled_of_read` — **a value that can be skipped was read off one of its
  texts.**

## Design

A reading that runs out of fuel leaves a draft that ends too early, so nothing has to be said here
about how much fuel there is.
-/

namespace NullLint.Json

/-! ## Blanks and words -/

theorem isBlank_append {b b' : List Char} : IsBlank (b ++ b') ↔ IsBlank b ∧ IsBlank b' :=
  List.forall_mem_append

/-- A text from its first character that is not a blank, with the blanks before it. -/
theorem exists_blank_append (s : List Char) : ∃ b, IsBlank b ∧ s = b ++ skipSpace s :=
  ⟨s.takeWhile isSpace, fun _ hc => List.mem_takeWhile_imp hc,
    (List.takeWhile_append_dropWhile (p := isSpace) (l := s)).symm⟩

theorem eq_append_of_scanLetters {ls s rest : List Char} (h : scanLetters ls s = .ok rest) :
    s = ls ++ rest := by
  induction ls generalizing s with
  | nil => exact Except.ok.inj h
  | cons l ls ih =>
    cases s with
    | nil => cases h
    | cons c s =>
      rw [scanLetters] at h
      split at h
      · next hc => rw [hc, ih h, List.cons_append]
      · cases h

/-! ## Numerals -/

section

variable {s ds rest : List Char}

theorem isDigits_of_scanDigits (h : scanDigits s = .ok (ds, rest)) :
    IsDigits ds ∧ s = ds ++ rest := by
  cases s with
  | nil => cases h
  | cons c s =>
    rw [scanDigits] at h
    split at h
    · next hc =>
      cases h
      refine ⟨⟨?_, fun d hd => List.mem_takeWhile_imp hd⟩, ?_⟩
      · rw [List.takeWhile_cons_of_pos hc]
        exact List.cons_ne_nil _ _
      · exact List.takeWhile_append_dropWhile.symm
    · cases h

theorem isWhole_of_scanWhole (h : scanWhole s = .ok (ds, rest)) : IsWhole ds ∧ s = ds ++ rest := by
  unfold scanWhole at h
  split at h
  · split at h
    · cases h
    · cases h
      exact ⟨⟨⟨List.cons_ne_nil _ _, by simp⟩, fun _ => rfl⟩, rfl⟩
  · next hzero =>
    obtain ⟨hdigits, rfl⟩ := isDigits_of_scanDigits h
    refine ⟨⟨hdigits, fun hhead => ?_⟩, rfl⟩
    obtain ⟨d, ds, rfl⟩ := List.exists_cons_of_ne_nil hdigits.1
    cases hhead
    cases ds with
    | nil => rfl
    | cons d' ds => exact absurd rfl (hzero d' (ds ++ rest))

theorem isDigits_of_scanFraction {fraction : Option (List Char)}
    (h : scanFraction s = .ok (fraction, rest)) :
    (∀ ds, fraction = some ds → IsDigits ds) ∧ s = fractionChars fraction ++ rest := by
  unfold scanFraction at h
  split at h
  · obtain ⟨⟨ds, rest'⟩, hscan, heq⟩ := map_eq_ok_iff.mp h
    cases heq
    obtain ⟨hdigits, rfl⟩ := isDigits_of_scanDigits hscan
    refine ⟨?_, rfl⟩
    rintro _ ⟨⟩
    exact hdigits
  · cases h
    exact ⟨by rintro _ ⟨⟩, rfl⟩

/-- The sign of an exponent, if there is one, and what follows it. -/
theorem eq_of_scanSign {minus : Bool} (h : scanSign s = (minus, rest)) :
    (minus = false ∧ s = '+' :: rest) ∨ (minus = true ∧ s = '-' :: rest) ∨
      (minus = false ∧ s = rest) := by
  unfold scanSign at h
  split at h <;> cases h
  · exact Or.inl ⟨rfl, rfl⟩
  · exact Or.inr (Or.inl ⟨rfl, rfl⟩)
  · exact Or.inr (Or.inr ⟨rfl, rfl⟩)

theorem exponentSpelled_of_scanExponent {exponent : Option Int}
    (h : scanExponent s = .ok (exponent, rest)) :
    ∃ e, ExponentSpelled exponent e ∧ s = e ++ rest := by
  cases s with
  | nil =>
    cases h
    exact ⟨[], .absent, rfl⟩
  | cons c s =>
    rw [scanExponent] at h
    split at h
    · next hc =>
      cases hsign : scanSign s with
      | mk minus s' =>
        rw [hsign] at h
        obtain ⟨⟨ds, rest'⟩, hscan, heq⟩ := map_eq_ok_iff.mp h
        cases heq
        obtain ⟨hdigits, rfl⟩ := isDigits_of_scanDigits hscan
        obtain ⟨rfl, rfl⟩ | ⟨rfl, rfl⟩ | ⟨rfl, rfl⟩ := eq_of_scanSign hsign
        · exact ⟨_, .plus hc hdigits, rfl⟩
        · exact ⟨_, .minus hc hdigits, rfl⟩
        · exact ⟨_, .plain hc hdigits, rfl⟩
    · cases h
      exact ⟨[], .absent, rfl⟩

/-- A numeral is read off one of its texts. -/
theorem isSpelled_of_scanNumeral {x : Numeral} (h : scanNumeral s = .ok (x, rest)) :
    ∃ t, x.IsSpelled t ∧ s = t ++ rest := by
  unfold scanNumeral at h
  split at h
  next negative s' hsign =>
  simp only [monadBind_eq_ok_iff] at h
  obtain ⟨⟨whole, s₁⟩, hwhole, ⟨fraction, s₂⟩, hfraction, ⟨exponent, s₃⟩, hexponent, h⟩ := h
  cases h
  obtain ⟨his, rfl⟩ := isWhole_of_scanWhole hwhole
  obtain ⟨hdigits, rfl⟩ := isDigits_of_scanFraction hfraction
  obtain ⟨e, he, rfl⟩ := exponentSpelled_of_scanExponent hexponent
  refine ⟨_, ⟨his, hdigits, e, he, rfl⟩, ?_⟩
  simp only [List.append_assoc, Numeral.signChars]
  split at hsign <;> cases hsign <;> rfl

end

/-! ## Strings -/

/-- An escape without its four digits does not close a string. -/
theorem unitStop_ne_closed (s : List Char) : unitStop s ≠ .closed := by
  unfold unitStop
  split <;> simp

/-- A string that is closed is read off one of its texts. -/
theorem isSpelled_of_scanQuoted {s rest : List Char} {q : Quoted} (h : scanQuoted s = (q, rest))
    (hstop : q.stop = .closed) : ∃ t, q.IsSpelled t ∧ s = t ++ '"' :: rest := by
  fun_induction scanQuoted s generalizing q rest with
  | case2 s =>
    cases h
    exact ⟨[], ⟨rfl, .nil⟩, rfl⟩
  | case4 a b c d s n hn ih =>
    cases h
    obtain ⟨t, ht, hs⟩ := ih rfl hstop
    exact ⟨_, ⟨hstop, .unit hn ht.2⟩, congrArg ('\\' :: 'u' :: a :: b :: c :: d :: ·) hs⟩
  | case6 s =>
    cases h
    exact absurd hstop (unitStop_ne_closed s)
  | case7 e s _ _ c hc ih =>
    cases h
    obtain ⟨t, ht, hs⟩ := ih rfl hstop
    exact ⟨_, ⟨hstop, .short hc ht.2⟩, congrArg ('\\' :: e :: ·) hs⟩
  | case10 c s hquote hlast _ _ hback hcontrol ih =>
    cases h
    obtain ⟨t, ht, hs⟩ := ih rfl hstop
    -- a backslash has either nothing behind it or the letter of an escape
    have hne : c ≠ '\\' := fun hc => by
      cases s with
      | nil => exact hlast hc rfl
      | cons e s => exact hback e s hc rfl
    exact ⟨_, ⟨hstop, .plain hquote hne (Nat.le_of_not_lt hcontrol) ht.2⟩, congrArg (c :: ·) hs⟩
  | _ =>
    cases h
    cases hstop

/-! ## Readings -/

/-- If nothing is wrong with the result of a reading, the reading took one of the texts of the
result off the front, and the mark that closes it. -/
def TakesOff {α : Type} (skip : α → Except Fault Unit) (Spelled : α → List Char → Prop)
    (close : List Char) (s : List Char) (r : Reading α) : Prop :=
  skip r.1 = .ok () → ∃ t rest, Spelled r.1 t ∧ r.2 = some rest ∧ s = t ++ (close ++ rest)

/-- The texts of a value with blanks in front of it. -/
def Draft.IsPadded (d : Draft) (t : List Char) : Prop :=
  ∃ b u, IsBlank b ∧ d.IsSpelled u ∧ t = b ++ u

/-- The texts of the contents of a list, of which there may be none. -/
def Items.IsContent (items : Items) (t : List Char) : Prop :=
  (Draft.list items).IsSpelled ('[' :: (t ++ [']']))

/-- The texts of what follows an item. -/
def Items.IsRest (items : Items) (t : List Char) : Prop :=
  ∀ v b u, IsBlank b → v.IsSpelled u → (Items.item v items).IsSpelled (b ++ (u ++ t))

/-- The texts of the contents of an object, of which there may be none. -/
def Members.IsContent (members : Members) (t : List Char) : Prop :=
  (Draft.object members).IsSpelled ('\x7b' :: (t ++ ['\x7d']))

/-- The texts of members from the mark that opens the first key. -/
def Members.IsOpened (members : Members) (t : List Char) : Prop :=
  ∀ b, IsBlank b → members.IsSpelled (b ++ '"' :: t)

/-- The texts of what follows a member. -/
def Members.IsRest (members : Members) (t : List Char) : Prop :=
  ∀ key k b₁ v b₂ u, key.IsSpelled k → IsBlank b₁ → IsBlank b₂ → v.IsSpelled u →
    (Members.member key v members).IsOpened (k ++ '"' :: (b₁ ++ ':' :: (b₂ ++ (u ++ t))))

/-- A text from its first character that is not a blank. -/
theorem exists_blank_append_cons {s rest : List Char} {c : Char} (h : skipSpace s = c :: rest) :
    ∃ b, IsBlank b ∧ s = b ++ c :: rest :=
  h ▸ exists_blank_append s

namespace Draft

variable {s : List Char}

theorem takesOff_readWord (w : Word) : TakesOff skip IsSpelled [] s (readWord w s) := by
  intro hskip
  rw [readWord] at hskip ⊢
  cases h : scanWord w s with
  | ok rest => exact ⟨_, rest, .word w, rfl, eq_append_of_scanLetters h⟩
  | error e => simp [h, skip] at hskip

theorem takesOff_readNumeral : TakesOff skip IsSpelled [] s (readNumeral s) := by
  intro hskip
  rw [readNumeral] at hskip ⊢
  cases h : scanNumeral s with
  | ok r =>
    obtain ⟨t, ht, hs⟩ := isSpelled_of_scanNumeral h
    exact ⟨t, r.2, .numeral ht, rfl, hs⟩
  | error e => simp [h, skip] at hskip

theorem takesOff_readQuoted : TakesOff skip IsSpelled [] ('"' :: s) (readQuoted s) := by
  intro hskip
  have hstop : (scanQuoted s).1.stop = .closed := by
    simp only [readQuoted, skip] at hskip
    refine QuotedStop.fault?_eq_none_iff.mp ?_
    cases hfault : (scanQuoted s).1.stop.fault? with
    | none => rfl
    | some f => simp [noFault, hfault] at hskip
  obtain ⟨t, ht, hs⟩ := isSpelled_of_scanQuoted rfl hstop
  exact ⟨_, _, .quoted ht, if_pos hstop, by simpa using hs⟩

end Draft

/-- Blanks may stand in front of the first item. -/
theorem Items.IsSpelled.blank_append {items : Items} {b s : List Char} (h : items.IsSpelled s)
    (hb : IsBlank b) : items.IsSpelled (b ++ s) := by
  cases h with
  | last hb' h hb'' =>
    rw [← List.append_assoc]
    exact .last (isBlank_append.mpr ⟨hb, hb'⟩) h hb''
  | cons hb' h hb'' hrest =>
    rw [← List.append_assoc]
    exact .cons (isBlank_append.mpr ⟨hb, hb'⟩) h hb'' hrest

/-- A key that no value follows is not skipped. -/
theorem Members.skip_noValue_ne (key : Quoted) (stop : ColonStop) :
    (Members.noValue key stop).skip ≠ .ok () := by
  intro h
  rw [Members.skip, monadBind_eq_ok_iff] at h
  obtain ⟨_, -, h⟩ := h
  cases h

mutual

/-- A value is taken off with the blanks in front of it. -/
theorem Draft.takesOff_readValue : ∀ (fuel : Nat) (s : List Char),
    TakesOff Draft.skip Draft.IsPadded [] s (Draft.readValue fuel s)
  | 0, _, hskip => by cases hskip
  | fuel + 1, s, hskip => by
    cases hs : skipSpace s with
    | nil => simp [Draft.readValue, hs, Draft.skip] at hskip
    | cons c rest =>
      obtain ⟨b, hb, rfl⟩ := exists_blank_append_cons hs
      have hpadded : ∀ r : Reading Draft, TakesOff Draft.skip Draft.IsSpelled [] (c :: rest) r →
          TakesOff Draft.skip Draft.IsPadded [] (b ++ c :: rest) r := by
        intro r h hskip
        obtain ⟨t, rest', ht, hafter, hrest⟩ := h hskip
        exact ⟨b ++ t, rest', ⟨b, t, hb, ht, rfl⟩, hafter, by rw [hrest, List.append_assoc]⟩
      refine hpadded _ ?_ hskip
      rw [Draft.readValue]
      simp only [hs]
      split_ifs with hnull htrue hfalse hnumeral hquoted hlist hobject
      · exact Draft.takesOff_readWord _
      · exact Draft.takesOff_readWord _
      · exact Draft.takesOff_readWord _
      · exact Draft.takesOff_readNumeral
      · exact hquoted ▸ Draft.takesOff_readQuoted
      · intro hskip
        obtain ⟨t, rest', ht, hafter, rfl⟩ := Items.takesOff_readFirstItem fuel rest hskip
        exact ⟨_, rest', ht, hafter, by simp [hlist]⟩
      · intro hskip
        obtain ⟨t, rest', ht, hafter, rfl⟩ := Members.takesOff_readFirstMember fuel rest hskip
        exact ⟨_, rest', ht, hafter, by simp [hobject]⟩
      · rintro ⟨⟩

/-- A list is taken off after its opening bracket. -/
theorem Items.takesOff_readFirstItem : ∀ (fuel : Nat) (s : List Char),
    TakesOff Items.skip Items.IsContent [']'] s (Draft.readFirstItem fuel s)
  | 0, _, hskip => by cases hskip
  | fuel + 1, s, hskip => by
    rw [Draft.readFirstItem] at hskip ⊢
    cases hs : skipSpace s with
    | nil =>
      rw [hs] at hskip
      cases hskip
    | cons c rest =>
      obtain ⟨b, hb, rfl⟩ := exists_blank_append_cons hs
      simp only [hs] at hskip ⊢
      split_ifs at hskip ⊢ with hclosed
      · exact ⟨b, rest, .emptyList hb, rfl, by rw [hclosed]; rfl⟩
      · obtain ⟨t, rest', ht, hafter, hrest⟩ := Items.takesOff_readItem fuel (c :: rest) hskip
        exact ⟨b ++ t, rest', .list (ht.blank_append hb), hafter, by rw [hrest, List.append_assoc]⟩

/-- An item of a list is taken off, and what follows it. -/
theorem Items.takesOff_readItem : ∀ (fuel : Nat) (s : List Char),
    TakesOff Items.skip Items.IsSpelled [']'] s (Draft.readItem fuel s)
  | 0, _, hskip => by cases hskip
  | fuel + 1, s, hskip => by
    have hvalue := Draft.takesOff_readValue fuel s
    rw [Draft.readItem] at hskip ⊢
    match hread : Draft.readValue fuel s with
    | (v, none) =>
      rw [hread] at hskip
      exact absurd (Items.skip_item_iff.mp hskip).2 (by rintro ⟨⟩)
    | (v, some rest) =>
      rw [hread] at hskip hvalue
      obtain ⟨hv, hrest⟩ := Items.skip_item_iff.mp hskip
      obtain ⟨_, _, ⟨b, u, hb, hu, rfl⟩, ⟨⟩, rfl⟩ := hvalue hv
      obtain ⟨t, rest', ht, hafter, rfl⟩ := Items.takesOff_readNextItem fuel rest hrest
      exact ⟨_, rest', ht v b u hb hu, hafter, by simp⟩

/-- What follows an item is taken off. -/
theorem Items.takesOff_readNextItem : ∀ (fuel : Nat) (s : List Char),
    TakesOff Items.skip Items.IsRest [']'] s (Draft.readNextItem fuel s)
  | 0, _, hskip => by cases hskip
  | fuel + 1, s, hskip => by
    rw [Draft.readNextItem] at hskip ⊢
    cases hs : skipSpace s with
    | nil =>
      rw [hs] at hskip
      cases hskip
    | cons c rest =>
      obtain ⟨b, hb, rfl⟩ := exists_blank_append_cons hs
      simp only [hs] at hskip ⊢
      split_ifs at hskip ⊢ with hclosed hcomma
      · exact ⟨b, rest, fun _ _ _ hb' hu => .last hb' hu hb, rfl, by rw [hclosed]; rfl⟩
      · cases hs' : skipSpace rest with
        | nil =>
          rw [hs'] at hskip
          cases hskip
        | cons d rest' =>
          obtain ⟨b', hb', rfl⟩ := exists_blank_append_cons hs'
          simp only [hs'] at hskip ⊢
          split_ifs at hskip ⊢ with hend
          · cases hskip
          · obtain ⟨t, rest'', ht, hafter, hrest⟩ :=
              Items.takesOff_readItem fuel (d :: rest') hskip
            refine ⟨b ++ ',' :: (b' ++ t), rest'', fun _ _ _ hb₀ hu => ?_, hafter, ?_⟩
            · exact .cons hb₀ hu hb (ht.blank_append hb')
            · simp [hcomma, hrest]
      · cases hskip

/-- An object is taken off after its opening brace. -/
theorem Members.takesOff_readFirstMember : ∀ (fuel : Nat) (s : List Char),
    TakesOff Members.skip Members.IsContent ['\x7d'] s (Draft.readFirstMember fuel s)
  | 0, _, hskip => by cases hskip
  | fuel + 1, s, hskip => by
    rw [Draft.readFirstMember] at hskip ⊢
    cases hs : skipSpace s with
    | nil =>
      rw [hs] at hskip
      cases hskip
    | cons c rest =>
      obtain ⟨b, hb, rfl⟩ := exists_blank_append_cons hs
      simp only [hs] at hskip ⊢
      split_ifs at hskip ⊢ with hclosed hkey
      · exact ⟨b, rest, .emptyObject hb, rfl, by rw [hclosed]; rfl⟩
      · obtain ⟨t, rest', ht, hafter, hrest⟩ := Members.takesOff_readMember fuel rest hskip
        exact ⟨b ++ '"' :: t, rest', .object (ht b hb), hafter, by simp [hkey, hrest]⟩
      · cases hskip

/-- A member of an object is taken off after the mark that opens its key, and what follows it. -/
theorem Members.takesOff_readMember : ∀ (fuel : Nat) (s : List Char),
    TakesOff Members.skip Members.IsOpened ['\x7d'] s (Draft.readMember fuel s)
  | 0, _, hskip => by cases hskip
  | fuel + 1, s, hskip => by
    rw [Draft.readMember] at hskip ⊢
    match hkey : scanQuoted s with
    | (key, rest) =>
      simp only [hkey] at hskip ⊢
      split_ifs at hskip ⊢ with hstop
      · obtain ⟨k, hk, rfl⟩ := isSpelled_of_scanQuoted hkey hstop
        cases hs : skipSpace rest with
        | nil =>
          rw [hs] at hskip
          exact absurd hskip (Members.skip_noValue_ne key .ended)
        | cons c rest' =>
          obtain ⟨b₁, hb₁, rfl⟩ := exists_blank_append_cons hs
          simp only [hs] at hskip ⊢
          split_ifs at hskip ⊢ with hcolon
          · have hvalue := Draft.takesOff_readValue fuel rest'
            match hread : Draft.readValue fuel rest' with
            | (v, none) =>
              rw [hread] at hskip
              exact absurd (Members.skip_member_iff.mp hskip).2.2 (by rintro ⟨⟩)
            | (v, some rest'') =>
              rw [hread] at hskip hvalue
              obtain ⟨-, hv, hrest⟩ := Members.skip_member_iff.mp hskip
              obtain ⟨_, _, ⟨b₂, u, hb₂, hu, rfl⟩, ⟨⟩, rfl⟩ := hvalue hv
              obtain ⟨t, rest', ht, hafter, rfl⟩ :=
                Members.takesOff_readNextMember fuel rest'' hrest
              exact ⟨_, rest', ht key k b₁ v b₂ u hk hb₁ hb₂ hu, hafter, by simp [hcolon]⟩
          · exact absurd hskip (Members.skip_noValue_ne key .other)
      · exact absurd hskip (Members.skip_noValue_ne key .ended)

/-- What follows a member is taken off. -/
theorem Members.takesOff_readNextMember : ∀ (fuel : Nat) (s : List Char),
    TakesOff Members.skip Members.IsRest ['\x7d'] s (Draft.readNextMember fuel s)
  | 0, _, hskip => by cases hskip
  | fuel + 1, s, hskip => by
    rw [Draft.readNextMember] at hskip ⊢
    cases hs : skipSpace s with
    | nil =>
      rw [hs] at hskip
      cases hskip
    | cons c rest =>
      obtain ⟨b, hb, rfl⟩ := exists_blank_append_cons hs
      simp only [hs] at hskip ⊢
      split_ifs at hskip ⊢ with hclosed hcomma
      · exact ⟨b, rest, fun _ _ _ _ _ _ hk hb₁ hb₂ hu _ hb₀ => .last hb₀ hk hb₁ hb₂ hu hb, rfl,
          by rw [hclosed]; rfl⟩
      · cases hs' : skipSpace rest with
        | nil =>
          rw [hs'] at hskip
          cases hskip
        | cons d rest' =>
          obtain ⟨b', hb', rfl⟩ := exists_blank_append_cons hs'
          simp only [hs'] at hskip ⊢
          split_ifs at hskip ⊢ with hkey hend
          · obtain ⟨t, rest'', ht, hafter, hrest⟩ := Members.takesOff_readMember fuel rest' hskip
            refine ⟨b ++ ',' :: (b' ++ '"' :: t), rest'',
              fun _ _ _ _ _ _ hk hb₁ hb₂ hu _ hb₀ => ?_, hafter, ?_⟩
            · exact .cons hb₀ hk hb₁ hb₂ hu hb (ht b' hb')
            · simp [hcomma, hkey, hrest]
          · cases hskip
          · cases hskip
      · cases hskip

end

/-- **A value that can be skipped was read off one of its texts.** What is left is the text after
it.

**Proof sketch.** Induction on the fuel. Each reading takes off what its own rule of the grammar
says, and a reading that stops early leaves a draft that cannot be skipped. -/
theorem Draft.exists_isSpelled_of_read {s : List Char} {d : Draft} {after : Option (List Char)}
    (h : Draft.read s = (d, after)) (hskip : d.skip = .ok ()) :
    ∃ b t rest, IsBlank b ∧ d.IsSpelled t ∧ after = some rest ∧ s = b ++ (t ++ rest) := by
  have hread := Draft.takesOff_readValue (4 * s.length + 4) s
  rw [← Draft.read, h] at hread
  obtain ⟨_, rest, ⟨b, t, hb, ht, rfl⟩, hafter, hs⟩ := hread hskip
  exact ⟨b, t, rest, hb, ht, hafter, by simpa using hs⟩

-- what is read of a given text can be found by evaluation
deriving instance DecidableEq for Draft, Items, Members

/-- A text that is read to its end is a document if nothing is wrong with what is read. -/
theorem Draft.isTextOf_of_read {d : Draft} {text : String} {b : List Char}
    (h : Draft.read text.toList = (d, some b)) (hb : IsBlank b) (hskip : d.skip = .ok ()) :
    d.IsTextOf text := by
  obtain ⟨b₀, t, _, hb₀, ht, ⟨⟩, htext⟩ := exists_isSpelled_of_read h hskip
  exact ⟨b₀, t, b, hb₀, ht, hb, htext⟩

end NullLint.Json
