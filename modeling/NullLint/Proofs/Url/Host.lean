import NullLint.Proofs.Url.Address
import NullLint.Proofs.Url.Domain

set_option autoImplicit false
set_option relaxedAutoImplicit false

/-!
# Hosts as they are written

What is written for a host shows where the host ends: it holds no character that ends the part of a
URL to which the host belongs, and a colon only in brackets. It is read as the same host. For
addresses this is so without further ado; a domain name has to be one that is left as it is.

## Main definitions

* `Url.Host.IsValid` — the hosts that are read.
* `Url.isOutside` — the characters at which a host ends in a URL.

## Main results

* `Url.Host.isValid_of_parseHost` — what is read is valid.
* `Url.Host.IsValid.free_text`, `Url.Host.IsValid.takeHost_text` — where the text of a host ends.
* `Url.Host.IsValid.parseHost_text_iff` — when a host is read back.
-/

namespace NullLint.Url

/-- The hosts that are read. -/
inductive Host.IsValid : Host → Prop
  | domain {name : String} (hne : name.toList ≠ [])
      (hfree : Free Domain.isForbidden name.toList)
      (hnumber : endsInNumber name.toList = false) : IsValid (.domain name)
  | short {n : Nat} (hn : n < 2 ^ 32) : IsValid (.short n)
  | long {groups : List Nat} (hlength : groups.length = 8) (hgroups : ∀ g ∈ groups, g < 2 ^ 16) :
      IsValid (.long groups)

theorem Host.isValid_of_bracketed {cs : List Char} {host : Host} (h : bracketed cs = .ok host) :
    host.IsValid := by
  unfold bracketed at h
  split at h
  · split at h
    · next groups hgroups =>
      cases h
      obtain ⟨hlength, hlt⟩ := groups_of_parseLong hgroups
      exact .long hlength hlt
    · cases h
  · cases h

/-- **What is read as a host is valid.** -/
theorem Host.isValid_of_parseHost {cs : List Char} {host : Host} (h : parseHost cs = .ok host) :
    host.IsValid := by
  unfold parseHost at h
  split at h
  · exact isValid_of_bracketed h
  · split at h
    · cases h
    · cases h
    · next name hne hname =>
      obtain ⟨read, -, hascii⟩ := Option.bind_eq_some_iff.mp hname
      split at h
      · split at h
        · next n hn =>
          cases h
          exact .short (lt_of_parseShort hn)
        · cases h
      · next hnumber =>
        cases h
        constructor <;> rw [String.toList_ofList]
        · exact hne
        · exact Domain.free_of_ascii? hascii
        · exact Bool.eq_false_iff.mpr hnumber

/-! ## Where a host ends -/

/-- The characters at which a host ends in a URL, or which do not count there. -/
def isOutside (c : Char) : Bool :=
  endsAuthority true c || c == '@' || isMargin c

/-- A set with all signs and control characters at which a host ends. -/
theorem isOutside_of_set {set : Char → Bool}
    (hsign : ['/', '\\', '?', '#', '@', ' '].all set = true)
    (hcontrol : ∀ c : Char, c.toNat < 0x20 → set c = true) {c : Char} (h : set c = false) :
    isOutside c = false := by
  have hset : ∀ d ∈ ['/', '\\', '?', '#', '@', ' '], set d = true := List.all_eq_true.mp hsign
  have hne : ∀ d ∈ ['/', '\\', '?', '#', '@', ' '], c ≠ d := fun d hd => ne_of_set h (hset d hd)
  have hmargin : isMargin c = false := isMargin_of_set (hset ' ' (by decide)) hcontrol h
  simp [isOutside, endsAuthority, isSlash, hmargin, hne]

/-- The characters at which a host ends are those that no domain name contains. -/
theorem isOutside_of_isForbidden {c : Char} (h : Domain.isForbidden c = false) :
    isOutside c = false :=
  isOutside_of_set (by decide) (fun c hlt => by simp [Domain.isForbidden, hlt]) h

/-- Hexadecimal digits and colons belong to the host. -/
theorem isOutside_of_hexValue? {c : Char} (h : (!((hexValue? c).isSome || c == ':')) = false) :
    isOutside c = false := by
  have hall : ∀ n < 0x67, (!((hexValue? (Char.ofNat n)).isSome || Char.ofNat n == ':')) = false →
      isOutside (Char.ofNat n) = false := by decide +kernel
  have hlt : c.toNat < 0x67 := by
    have hle : ∀ {d : Char}, c ≤ d → d.toNat < 0x67 → c.toNat < 0x67 := fun hle hd =>
      Nat.lt_of_le_of_lt hle hd
    rw [Bool.not_eq_false', Bool.or_eq_true, beq_iff_eq] at h
    rcases h with h | rfl
    · unfold hexValue? at h
      split_ifs at h with h₁ h₂ h₃
      · exact hle h₁.2 (by decide)
      · exact hle h₂.2 (by decide)
      · exact hle h₃.2 (by decide)
      · cases h
    · decide
  have := hall c.toNat hlt
  rw [Char.ofNat_toNat] at this
  exact this h

section TakeHost

variable {inside : Bool} {cs after : List Char}

/-- A host goes on up to a bracket, and outside of brackets up to a colon. -/
theorem takeHost_append (hbrackets : Free ['[', ']'].contains cs)
    (hcolon : inside = true ∨ ':' ∉ cs) :
    takeHost inside (cs ++ after) = cs ++ takeHost inside after := by
  induction cs with
  | nil => rfl
  | cons c cs ih =>
    obtain ⟨hc, hcs⟩ := free_cons.mp hbrackets
    obtain ⟨hopen, hclose⟩ : c ≠ '[' ∧ c ≠ ']' := by simpa using hc
    have hgoes : (c == ':' && !inside) = false := by
      rcases hcolon with rfl | hcolon
      · rw [Bool.not_true, Bool.and_false]
      · rw [List.mem_cons, not_or] at hcolon
        rw [beq_eq_false_iff_ne.mpr fun h => hcolon.1 h.symm, Bool.false_and]
    have hrest := ih hcs (hcolon.imp_right fun h hmem => h (List.mem_cons_of_mem c hmem))
    rw [List.cons_append, takeHost, hgoes, if_neg Bool.false_ne_true, beq_eq_false_iff_ne.mpr hopen,
      beq_eq_false_iff_ne.mpr hclose, if_neg Bool.false_ne_true, if_neg Bool.false_ne_true, hrest,
      List.cons_append]

/-- A colon ends a host. -/
theorem takeHost_colon (hafter : ∀ c ∈ after.head?, c = ':') : takeHost false after = [] := by
  cases after with
  | nil => rfl
  | cons c after =>
    rw [hafter c rfl]
    rfl

end TakeHost

/-! ## Hosts are read back -/

/-- The characters of an address of the long form. -/
theorem free_longText (groups : List Nat) :
    Free (fun c => !((hexValue? c).isSome || c == ':')) (longText groups).toList := by
  have hgroups : ∀ gs, Free (fun c => !((hexValue? c).isSome || c == ':')) (groupChars gs) := by
    intro gs
    refine free_intercalate (by decide) fun p hp c hc => ?_
    obtain ⟨g, -, rfl⟩ := List.mem_map.mp hp
    rw [isSome_hexValue?_of_mem_toDigits hc]
    rfl
  rw [toList_longText]
  split
  · exact hgroups _
  · exact free_append.mpr
      ⟨hgroups _, free_cons.mpr ⟨by decide, free_cons.mpr ⟨by decide, hgroups _⟩⟩⟩

/-- The characters of an address of the short form. -/
theorem free_shortText (n : Nat) :
    Free (fun c => !(c.isDigit || c == '.')) (shortText n).toList := by
  rw [toList_shortText]
  refine free_intercalate (by decide) fun p hp c hc => ?_
  obtain ⟨b, -, rfl⟩ := List.mem_map.mp hp
  rw [Nat.isDigit_of_mem_toDigits (by decide) (by decide) hc]
  rfl

/-- Digits and points are plain. -/
theorem isPlain_of_mem_shortText {n : Nat} {c : Char} (hc : c ∈ (shortText n).toList) :
    Domain.IsPlain c := by
  have hdigits : ∀ m < 58, 48 ≤ m → Domain.IsPlain (Char.ofNat m) := by decide
  have hfree := free_shortText n c hc
  rw [Bool.not_eq_false', Bool.or_eq_true, beq_iff_eq, Char.isDigit_iff_toNat] at hfree
  rcases hfree with ⟨hle, hlt⟩ | rfl
  · have := hdigits c.toNat (Nat.lt_succ_of_le hlt) hle
    rwa [Char.ofNat_toNat] at this
  · decide

/-- An address of the short form is left as it is when it is taken for a domain name. -/
theorem ascii?_shortText (n : Nat) :
    Domain.ascii? (shortText n).toList = some (shortText n).toList := by
  refine Domain.ascii?_of_plain (fun c hc => isPlain_of_mem_shortText hc) fun p hp hmark => ?_
  rw [piecesChars_shortText] at hp
  obtain ⟨b, -, rfl⟩ := List.mem_map.mp hp
  have hx : 'x' ∈ Nat.toDigits 10 b := hmark.subset (by decide)
  exact absurd (Nat.isDigit_of_mem_toDigits (by decide) (by decide) hx) (by decide)

/-- The bytes of a text stand for it. -/
theorem charsOf?_flatMap (cs : List Char) :
    charsOf? (cs.flatMap String.utf8EncodeChar) = some cs := by
  have hbytes : (⟨(cs.flatMap String.utf8EncodeChar).toArray⟩ : ByteArray) = cs.utf8Encode := by
    refine ByteArray.ext (Array.toList_inj.mp ?_)
    rw [List.utf8Encode, List.toList_data_toByteArray]
  have htext : String.fromUTF8? cs.utf8Encode = some (String.ofList cs) :=
    dif_pos (ByteArray.IsValidUTF8.intro cs rfl)
  rw [charsOf?, hbytes, htext, Option.map_some, String.toList_ofList]

/-- A text that a domain name may contain is taken for one as it is. -/
theorem charsOf?_decode_of_free {cs : List Char} (h : Free Domain.isForbidden cs) :
    charsOf? (decode cs) = some cs := by
  rw [decode_of_notMem (h.notMem (by decide)), charsOf?_flatMap]

/-- What is read of such a text. -/
theorem parseHost_of_ascii? {cs name : List Char} (h : Free Domain.isForbidden cs)
    (hascii : Domain.ascii? cs = some name) (hne : name ≠ []) :
    parseHost cs =
      if endsInNumber name then (parseShort name).elim (.error .badShort) fun n => .ok (.short n)
      else .ok (.domain (String.ofList name)) := by
  obtain ⟨c, ds, rfl⟩ := List.exists_cons_of_ne_nil hne
  unfold parseHost
  split
  · next cs => exact absurd (h '[' List.mem_cons_self) (by decide)
  · rw [charsOf?_decode_of_free h, Option.bind_some, hascii]
    dsimp only
    cases parseShort (c :: ds) <;> rfl

/-- A domain name that is read of such a text is what the text is written as. -/
theorem ascii?_of_parseHost {cs : List Char} {name : String} (h : Free Domain.isForbidden cs)
    (hread : parseHost cs = .ok (.domain name)) : Domain.ascii? cs = some name.toList := by
  unfold parseHost at hread
  split at hread
  · next cs => exact absurd (h '[' List.mem_cons_self) (by decide)
  · rw [charsOf?_decode_of_free h, Option.bind_some] at hread
    split at hread
    · cases hread
    · cases hread
    · next hascii =>
      split at hread
      · split at hread <;> cases hread
      · cases hread
        rw [hascii, String.toList_ofList]

/-- The text of an address of the long form in brackets. -/
theorem parseHost_brackets {cs : List Char} {groups : List Nat} (h : parseLong cs = some groups) :
    parseHost ('[' :: (cs ++ [']'])) = .ok (.long groups) := by
  have hlast : (cs ++ [']']).getLast? == some ']' := by simp
  rw [parseHost, bracketed, if_pos hlast, List.dropLast_concat, h]

namespace Host

theorem toList_text_long (groups : List Nat) :
    (long groups).text.toList = '[' :: ((longText groups).toList ++ [']']) := by
  simp [text]

namespace IsValid

variable {host : Host}

/-- A host is not empty. -/
theorem toList_text_ne_nil (h : host.IsValid) : host.text.toList ≠ [] := by
  cases h with
  | domain hne => exact hne
  | @short n =>
    intro hempty
    have hnumber := endsInNumber_shortText n
    rw [show (shortText n).toList = [] from hempty] at hnumber
    exact absurd hnumber (by decide)
  | @long groups =>
    rw [toList_text_long]
    exact List.cons_ne_nil _ _

/-- No host is the empty name. -/
theorem ne_domain_empty (h : host.IsValid) : host ≠ .domain "" := by
  rintro rfl
  exact h.toList_text_ne_nil rfl

/-- **A host holds no character at which a host ends.** -/
theorem free_text (h : host.IsValid) : Free isOutside host.text.toList := by
  cases h with
  | domain _ hfree => exact hfree.mono fun _ => isOutside_of_isForbidden
  | short => exact fun c hc => isOutside_of_isForbidden (isPlain_of_mem_shortText hc).2.2
  | @long groups =>
    rw [toList_text_long]
    have hgroups := (free_longText groups).mono fun c => isOutside_of_hexValue?
    exact free_cons.mpr ⟨by decide, free_append.mpr ⟨hgroups, by decide⟩⟩

/-- **A host ends at a colon** that does not belong to it. -/
theorem takeHost_text (h : host.IsValid) {after : List Char} (hafter : ∀ c ∈ after.head?, c = ':') :
    takeHost false (host.text.toList ++ after) = host.text.toList := by
  have hname : ∀ {cs : List Char}, Free Domain.isForbidden cs →
      takeHost false (cs ++ after) = cs := by
    intro cs hcs
    have hbrackets : Free ['[', ']'].contains cs := hcs.of_all (by decide)
    rw [takeHost_append hbrackets (Or.inr (hcs.notMem (by decide))), takeHost_colon hafter,
      List.append_nil]
  cases h with
  | domain _ hfree => exact hname hfree
  | short => exact hname fun c hc => (isPlain_of_mem_shortText hc).2.2
  | @long groups =>
    have hbrackets : Free ['[', ']'].contains (longText groups).toList :=
      (free_longText groups).of_all (by decide)
    rw [toList_text_long, List.cons_append, List.append_assoc]
    change '[' :: takeHost true _ = _
    rw [takeHost_append hbrackets (Or.inl rfl)]
    change '[' :: (_ ++ ']' :: takeHost false after) = _
    rw [takeHost_colon hafter]

/-- **A host is read back** if it is an address, or if it is a domain name that is left as it is. -/
theorem parseHost_text_iff (h : host.IsValid) :
    parseHost host.text.toList = .ok host ↔
      ∀ name, host = .domain name → Domain.ascii? name.toList = some name.toList := by
  have hne := h.toList_text_ne_nil
  cases h with
  | @domain name _ hfree hnumber =>
    constructor
    · rintro h _ ⟨⟩
      exact ascii?_of_parseHost hfree h
    · intro h
      have hread := parseHost_of_ascii? hfree (h name rfl) hne
      rwa [hnumber, if_neg Bool.false_ne_true, String.ofList_toList] at hread
  | @short n hn =>
    refine iff_of_true ?_ fun name h => nomatch h
    have hfree : Free Domain.isForbidden (shortText n).toList := fun c hc =>
      (isPlain_of_mem_shortText hc).2.2
    have hread := parseHost_of_ascii? hfree (ascii?_shortText n) hne
    rwa [endsInNumber_shortText n, if_pos rfl, parseShort_shortText hn] at hread
  | @long groups hlength hgroups =>
    refine iff_of_true ?_ fun name h => nomatch h
    rw [toList_text_long]
    exact parseHost_brackets (parseLong_longText hlength hgroups)

end IsValid

end Host

end NullLint.Url
