import Mathlib.Data.String.Basic
import NullLint.Url.Parse

set_option autoImplicit false
set_option relaxedAutoImplicit false

/-!
# What encoding leaves

The parts of a URL are kept encoded. What is encoded holds no character of the set any more, so that
it is left as it is when it is encoded again. The sets are made of the characters that would be
taken for something else: what is outside of the set of a part can be written in that part.

## Main definitions

* `Url.Free` — a text without characters of a set.
* `Url.LeavesCodes` — a set without percent signs and hexadecimal digits.
* `Url.HasCode` — a text in which some byte is written as a percent sign and two digits.

## Main results

* `Url.free_encode`, `Url.encode_of_free` — encoding frees a text from a set, and does nothing to a
  text that is free from it.
* `Url.exists_code_infix` — where a character has been encoded there is the code of its first byte.
* `Url.decode_of_not_hasCode`, `Url.length_decode_lt` — decoding leaves a text without codes as it
  is, and makes one with a code shorter.
* `Url.isMargin_of_set`, `Url.withoutGaps_of_free` — nothing is dropped from what is encoded.
-/

namespace NullLint.Url

/-- None of the characters belongs to the set. -/
def Free (set : Char → Bool) (cs : List Char) : Prop :=
  ∀ c ∈ cs, set c = false

instance (set : Char → Bool) (cs : List Char) : Decidable (Free set cs) :=
  List.decidableBAll (fun c => set c = false) cs

/-- The set has none of the characters by which a byte is written. -/
def LeavesCodes (set : Char → Bool) : Prop :=
  set '%' = false ∧ ∀ n < 16, set (hexDigit n) = false

instance (set : Char → Bool) : Decidable (LeavesCodes set) :=
  inferInstanceAs (Decidable (set '%' = false ∧ ∀ n < 16, set (hexDigit n) = false))

section Free

variable {set other : Char → Bool} {cs ds : List Char}

theorem free_append : Free set (cs ++ ds) ↔ Free set cs ∧ Free set ds := by
  simp only [Free, List.mem_append, or_imp, forall_and]

theorem free_cons {c : Char} : Free set (c :: cs) ↔ set c = false ∧ Free set cs := by
  simp only [Free, List.mem_cons, forall_eq_or_imp]

theorem free_nil : Free set [] := fun _ hc => absurd hc List.not_mem_nil

/-- What is free from a set is free from a smaller one. -/
theorem Free.mono (h : Free set cs) (hle : ∀ c, set c = false → other c = false) : Free other cs :=
  fun c hc => hle c (h c hc)

/-- A character outside of a set is not one of the set. -/
theorem ne_of_set {c d : Char} (hc : set c = false) (hd : set d = true) : c ≠ d := by
  rintro rfl
  rw [hc] at hd
  cases hd

/-- A character of the set is not among the characters. -/
theorem Free.notMem (h : Free set cs) {c : Char} (hc : set c = true) : c ∉ cs :=
  fun hmem => ne_of_set (h c hmem) hc rfl

/-- What is free from a set is free from any characters of the set. -/
theorem Free.of_all (h : Free set cs) (hds : ds.all set = true) : Free ds.contains cs := by
  intro c hc
  rw [Bool.eq_false_iff, ne_eq, List.contains_iff_mem]
  exact fun hmem => h.notMem (List.all_eq_true.mp hds c hmem) hc

/-- What is free from a set goes up to the first character of the set. -/
theorem takeWhile_of_free (h : Free set cs) (hds : ∀ c ∈ ds.head?, set c = true) :
    (cs ++ ds).takeWhile (fun c => !set c) = cs := by
  have hall : ∀ d ∈ cs, (!set d) = true := fun d hd => by rw [h d hd]; rfl
  rw [List.takeWhile_append_of_pos hall]
  cases ds with
  | nil => exact List.append_nil cs
  | cons c ds => rw [List.takeWhile_cons_of_neg (by simp [hds c rfl]), List.append_nil]

/-- What follows a text that is free from a set starts with the first character of the set. -/
theorem dropWhile_of_free (h : Free set cs) (hds : ∀ c ∈ ds.head?, set c = true) :
    (cs ++ ds).dropWhile (fun c => !set c) = ds := by
  have hall : ∀ d ∈ cs, (!set d) = true := fun d hd => by rw [h d hd]; rfl
  rw [List.dropWhile_append_of_pos hall]
  cases ds with
  | nil => rfl
  | cons c ds => rw [List.dropWhile_cons_of_neg (by simp [hds c rfl])]

end Free

/-! ## Encoding -/

section Encode

variable {set other : Char → Bool} {cs : List Char}

theorem encode_cons (c : Char) : encode set (c :: cs) = encodeChar set c ++ encode set cs :=
  List.flatMap_cons

theorem encode_append (ds : List Char) : encode set (cs ++ ds) = encode set cs ++ encode set ds :=
  List.flatMap_append

/-- A byte is written with a percent sign and two digits. -/
theorem free_encodeByte (h : LeavesCodes other) (b : UInt8) : Free other (encodeByte b) := by
  have hb : b.toNat < 256 := b.toNat_lt
  intro c hc
  simp only [encodeByte, List.mem_cons, List.not_mem_nil, or_false] at hc
  rcases hc with rfl | rfl | rfl
  · exact h.1
  · exact h.2 _ (by omega)
  · exact h.2 _ (by omega)

/-- **Encoding frees a text** from all characters that are not used to write a byte and that are
either encoded or not there. -/
theorem free_encode (h : LeavesCodes other) (hcs : ∀ c ∈ cs, set c = false → other c = false) :
    Free other (encode set cs) := by
  intro d hd
  obtain ⟨c, hc, hd⟩ := List.mem_flatMap.mp hd
  unfold encodeChar at hd
  split at hd
  · obtain ⟨b, -, hd⟩ := List.mem_flatMap.mp hd
    exact free_encodeByte h b d hd
  · next hset =>
    rw [List.mem_singleton.mp hd]
    exact hcs c hc (Bool.eq_false_iff.mpr hset)

/-- Encoding leaves something of every character. -/
theorem encode_ne_nil (h : cs ≠ []) : encode set cs ≠ [] := by
  obtain ⟨c, cs, rfl⟩ := List.exists_cons_of_ne_nil h
  have hchar : encodeChar set c ≠ [] := by
    obtain ⟨b, bs, hbytes⟩ := List.exists_cons_of_ne_nil (String.utf8EncodeChar_ne_nil (c := c))
    unfold encodeChar
    split
    · rw [hbytes, List.flatMap_cons]
      exact List.append_ne_nil_of_left_ne_nil (List.cons_ne_nil _ _) _
    · exact List.cons_ne_nil c []
  rw [encode_cons]
  exact List.append_ne_nil_of_left_ne_nil hchar _

/-- **What is free from a set is left as it is.** -/
theorem encode_of_free (h : Free set cs) : encode set cs = cs := by
  induction cs with
  | nil => rfl
  | cons c cs ih =>
    obtain ⟨hc, hcs⟩ := free_cons.mp h
    rw [encode_cons, ih hcs, encodeChar, hc]
    rfl

/-- The first byte of a character below 128 is the character. -/
theorem exists_utf8EncodeChar_eq_cons (c : Char) :
    ∃ b bs, String.utf8EncodeChar c = b :: bs ∧ (b.toNat < 0x80 → b.toNat = c.toNat) := by
  unfold String.utf8EncodeChar
  have hval : c.toNat = c.val.toNat := rfl
  rw [hval]
  generalize c.val.toNat = v
  dsimp only
  split_ifs
  · exact ⟨_, _, rfl, fun _ => by rw [UInt8.toNat_ofNat']; omega⟩
  all_goals
    refine ⟨_, _, rfl, fun hb => ?_⟩
    rw [UInt8.toNat_ofNat'] at hb
    omega

/-- Where a character has been encoded there is the code of a byte that is the character itself if
it is below 128. -/
theorem exists_code_infix {c : Char} (hc : c ∈ cs) (hset : set c = true) :
    ∃ b : UInt8, encodeByte b <:+: encode set cs ∧ (b.toNat < 0x80 → b.toNat = c.toNat) := by
  obtain ⟨front, back, rfl⟩ := List.append_of_mem hc
  obtain ⟨b, bs, hbytes, hb⟩ := exists_utf8EncodeChar_eq_cons c
  refine ⟨b, ⟨encode set front, bs.flatMap encodeByte ++ encode set back, ?_⟩, hb⟩
  rw [encode_append, encode_cons, encodeChar, hset, if_pos rfl, hbytes, List.flatMap_cons]
  simp only [List.append_assoc]

end Encode

/-! ## Decoding -/

section Decode

variable {c : Char} {cs : List Char}

/-- The characters start with a code: a percent sign and two digits, which stand for a byte. -/
def StartsWithCode (cs : List Char) : Prop :=
  ∃ a b, (hexValue? a).isSome ∧ (hexValue? b).isSome ∧ ['%', a, b] <+: cs

/-- There is a code somewhere among the characters. -/
def HasCode (cs : List Char) : Prop :=
  ∃ ds, StartsWithCode ds ∧ ds <:+ cs

theorem not_hasCode_nil : ¬HasCode [] := by
  rintro ⟨ds, ⟨a, b, -, -, h⟩, hds⟩
  rw [List.suffix_nil.mp hds] at h
  exact absurd (List.prefix_nil.mp h) (List.cons_ne_nil _ _)

theorem hasCode_cons_iff : HasCode (c :: cs) ↔ StartsWithCode (c :: cs) ∨ HasCode cs := by
  simp only [HasCode, List.suffix_cons_iff, and_or_left, exists_or, exists_eq_right]

/-- There are no codes without percent signs. -/
theorem not_hasCode_of_notMem (h : '%' ∉ cs) : ¬HasCode cs := by
  rintro ⟨ds, ⟨a, b, -, -, hcode⟩, hds⟩
  exact h (hds.mem (hcode.mem List.mem_cons_self))

/-- A code stands for one byte. -/
theorem exists_decode_of_startsWithCode (h : StartsWithCode cs) :
    ∃ a b rest byte, cs = '%' :: a :: b :: rest ∧ decode cs = byte :: decode rest := by
  obtain ⟨a, b, ha, hb, rest, rfl⟩ := h
  obtain ⟨x, hx⟩ := Option.isSome_iff_exists.mp ha
  obtain ⟨y, hy⟩ := Option.isSome_iff_exists.mp hb
  refine ⟨a, b, rest, UInt8.ofNat (16 * x + y), rfl, ?_⟩
  simp only [List.cons_append, List.nil_append, decode, hx, hy]

/-- A character that starts no code stands for its own bytes. -/
theorem decode_cons (h : ¬StartsWithCode (c :: cs)) :
    decode (c :: cs) = String.utf8EncodeChar c ++ decode cs := by
  generalize hds : c :: cs = ds at h
  fun_cases decode ds with
  | case1 => cases hds
  | case2 a b rest x y hb ha =>
    exact absurd ⟨a, b, Option.isSome_of_eq_some ha, Option.isSome_of_eq_some hb,
      List.prefix_append _ rest⟩ h
  | case3 =>
    cases hds
    rfl
  | case4 =>
    cases hds
    rfl

/-- Characters without codes stand for their own bytes. -/
theorem decode_of_not_hasCode (h : ¬HasCode cs) :
    decode cs = cs.flatMap String.utf8EncodeChar := by
  induction cs with
  | nil => rfl
  | cons c cs ih =>
    rw [hasCode_cons_iff, not_or] at h
    rw [decode_cons h.1, ih h.2, List.flatMap_cons]

/-- Characters that are not encoded stand for their own bytes. -/
theorem decode_of_notMem (h : '%' ∉ cs) : decode cs = cs.flatMap String.utf8EncodeChar :=
  decode_of_not_hasCode (not_hasCode_of_notMem h)

/-- Decoding does not leave more bytes. -/
theorem length_decode_le (cs : List Char) :
    (decode cs).length ≤ (cs.flatMap String.utf8EncodeChar).length := by
  fun_induction decode cs with
  | case1 => exact Nat.le_refl 0
  | case2 a b cs x y hb ha ih =>
    have ha := List.length_pos_of_ne_nil (String.utf8EncodeChar_ne_nil (c := a))
    simp only [List.flatMap_cons, List.length_append, List.length_cons]
    omega
  | case3 a b cs h ih =>
    rw [List.flatMap_cons, List.length_append, List.length_append]
    omega
  | case4 c cs h ih =>
    rw [List.flatMap_cons, List.length_append, List.length_append]
    omega

/-- Where there is a code, decoding leaves fewer bytes: a code takes three characters, and leaves
one byte. -/
theorem length_decode_lt (h : HasCode cs) :
    (decode cs).length < (cs.flatMap String.utf8EncodeChar).length := by
  induction cs with
  | nil => exact absurd h not_hasCode_nil
  | cons c cs ih =>
    by_cases hstart : StartsWithCode (c :: cs)
    · obtain ⟨a, b, rest, byte, hcs, hdecode⟩ := exists_decode_of_startsWithCode hstart
      have ha := List.length_pos_of_ne_nil (String.utf8EncodeChar_ne_nil (c := a))
      have hb := List.length_pos_of_ne_nil (String.utf8EncodeChar_ne_nil (c := b))
      have hrest := length_decode_le rest
      rw [hdecode, hcs]
      simp only [List.flatMap_cons, List.length_append, List.length_cons]
      omega
    · have hcs := ih ((hasCode_cons_iff.mp h).resolve_left hstart)
      rw [decode_cons hstart, List.flatMap_cons, List.length_append, List.length_append]
      omega

/-- The beginning of a text stands for the bytes of the text only if it is the whole text and there
is no code in it. -/
theorem decode_eq_iff_of_prefix {front : List Char} (h : front <+: cs) :
    decode front = cs.flatMap String.utf8EncodeChar ↔ front = cs ∧ ¬HasCode cs := by
  constructor
  · intro heq
    obtain ⟨back, rfl⟩ := h
    have hlength := congrArg List.length heq
    rw [List.flatMap_append, List.length_append] at hlength
    have hle := length_decode_le front
    have hback : back = [] := by
      cases back with
      | nil => rfl
      | cons c back =>
        have hc := List.length_pos_of_ne_nil (String.utf8EncodeChar_ne_nil (c := c))
        rw [List.flatMap_cons, List.length_append] at hlength
        omega
    subst hback
    rw [List.append_nil] at heq ⊢
    exact ⟨rfl, fun hcode => (length_decode_lt hcode).ne (congrArg List.length heq)⟩
  · rintro ⟨rfl, hcode⟩
    exact decode_of_not_hasCode hcode

end Decode
/-! ## The sets of the parts -/

theorem leavesCodes_fragmentSet : LeavesCodes fragmentSet := by decide

theorem leavesCodes_querySet (special : Bool) : LeavesCodes (querySet special) := by
  cases special <;> decide

theorem leavesCodes_pathSet : LeavesCodes pathSet := by decide

theorem leavesCodes_userinfoSet : LeavesCodes userinfoSet := by decide

/-- What can be written in a path can be written in a fragment. -/
theorem fragmentSet_of_pathSet {c : Char} (h : pathSet c = false) : fragmentSet c = false :=
  (Bool.or_eq_false_iff.mp h).1

/-! ## Margins and gaps -/

section Margins

variable {c : Char}

/-- The margins belong to every set that has the space and the control characters. -/
theorem isMargin_of_set {set : Char → Bool} (hspace : set ' ' = true)
    (hcontrol : ∀ c : Char, c.toNat < 0x20 → set c = true) (h : set c = false) :
    isMargin c = false := by
  have hle : 0x20 ≤ c.toNat := by
    by_contra hlt
    exact ne_of_set h (hcontrol c (Nat.lt_of_not_le hlt)) rfl
  have hne : c.toNat ≠ 0x20 := fun heq => ne_of_set h hspace (Char.toNat_inj.mp heq)
  rw [isMargin, decide_eq_false_iff_not]
  omega

/-- What can be written in a fragment is no margin. -/
theorem isMargin_of_fragmentSet (h : fragmentSet c = false) : isMargin c = false :=
  isMargin_of_set (by decide) (fun c hlt => by simp [fragmentSet, controlSet, hlt]) h

/-- What can be written in a path is no margin. -/
theorem isMargin_of_pathSet (h : pathSet c = false) : isMargin c = false :=
  isMargin_of_fragmentSet (fragmentSet_of_pathSet h)

/-- What can be written in a query is no margin. -/
theorem isMargin_of_querySet {special : Bool} (h : querySet special c = false) :
    isMargin c = false :=
  isMargin_of_set (by cases special <;> decide)
    (fun c hlt => by simp [querySet, controlSet, hlt]) h

/-- Gaps are margins, so that nothing is dropped from a text without margins. -/
theorem withoutGaps_of_free {cs : List Char} (h : Free isMargin cs) : withoutGaps cs = cs := by
  rw [withoutGaps, List.filter_eq_self]
  intro c hc
  cases hgap : isGap c with
  | false => rfl
  | true =>
    have hmargin : isMargin c = true := by
      rcases (by simpa [isGap, or_assoc] using hgap : c = '\t' ∨ c = '\n' ∨ c = '\r') with
        rfl | rfl | rfl <;> decide
    exact absurd hc (h.notMem hmargin)

end Margins

end NullLint.Url
