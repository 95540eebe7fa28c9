import Mathlib.Data.String.Basic
import NullLint.Proofs.Matching
import NullLint.Proofs.Progress
import NullLint.Proofs.Text.Cut
import NullLint.Url.Address

set_option autoImplicit false
set_option relaxedAutoImplicit false

/-!
# Addresses as they are written

An address is read back from what is written for it. The short form is four bytes in decimal. The
long form leaves out a run of zeros; the length of the run is known because there are eight groups
in all.

## Main results

* `Url.digitsValue?_toDigits` — the digits of a number stand for it.
* `Url.lt_of_parseShort`, `Url.parseShort_shortText` — addresses of 32 bits are written and read.
* `Url.groups_of_parseLong`, `Url.parseLong_longText` — so are addresses of 128 bits.
-/

namespace NullLint.Url

/-! ## Digits -/

section Digits

variable {base : Nat} {cs : List Char}

theorem digitsValue?_concat (c : Char) :
    digitsValue? base (cs ++ [c]) =
      (digitsValue? base cs).bind fun n =>
        (hexValue? c).bind fun d => if d < base then some (base * n + d) else none := by
  rw [digitsValue?, List.foldl_append, ← digitsValue?]
  cases digitsValue? base cs with
  | none => rfl
  | some n =>
    rw [List.foldl_cons, List.foldl_nil]
    cases hexValue? c <;> rfl

/-- As many digits as there are stand for a number below that power of the base. -/
theorem lt_of_digitsValue? {n : Nat} (h : digitsValue? base cs = some n) :
    n < base ^ cs.length := by
  induction cs using List.reverseRecOn generalizing n with
  | nil =>
    cases h
    exact Nat.one_pos
  | append_singleton cs c ih =>
    rw [digitsValue?_concat] at h
    obtain ⟨m, hm, h⟩ := Option.bind_eq_some_iff.mp h
    obtain ⟨d, -, h⟩ := Option.bind_eq_some_iff.mp h
    split at h
    · next hd =>
      cases h
      rw [List.length_append, List.length_singleton, Nat.pow_succ]
      calc base * m + d < base * m + base := Nat.add_lt_add_left hd _
        _ = base * (m + 1) := (Nat.mul_succ base m).symm
        _ ≤ base * base ^ cs.length := Nat.mul_le_mul_left base (ih hm)
        _ = base ^ cs.length * base := Nat.mul_comm _ _
    · cases h

/-- Only digits stand for numbers. -/
theorem isSome_hexValue?_of_digitsValue? {n : Nat} (h : digitsValue? base cs = some n) :
    ∀ c ∈ cs, (hexValue? c).isSome = true := by
  induction cs using List.reverseRecOn generalizing n with
  | nil => exact fun c hc => absurd hc List.not_mem_nil
  | append_singleton cs c ih =>
    rw [digitsValue?_concat] at h
    obtain ⟨m, hm, h⟩ := Option.bind_eq_some_iff.mp h
    obtain ⟨d, hd, -⟩ := Option.bind_eq_some_iff.mp h
    intro c' hc'
    rcases List.mem_append.mp hc' with hc' | hc'
    · exact ih hm c' hc'
    · rw [List.mem_singleton.mp hc', hd]
      rfl

/-- **The digits of a number stand for it.** -/
theorem digitsValue?_toDigits (hbase : 1 < base) (hle : base ≤ 16) (n : Nat) :
    digitsValue? base (Nat.toDigits base n) = some n := by
  have hdigit : ∀ d < 16, hexValue? (Nat.digitChar d) = some d := by decide
  have hlast : ∀ {ds m d}, d < base → digitsValue? base ds = some m →
      digitsValue? base (ds ++ [Nat.digitChar d]) = some (base * m + d) := by
    intro ds m d hd hm
    rw [digitsValue?_concat, hm, Option.bind_some, hdigit d (by omega), Option.bind_some, if_pos hd]
  induction n using Nat.strongRecOn with
  | ind n ih =>
    by_cases hn : n < base
    · rw [Nat.toDigits_of_lt_base hn]
      have := hlast hn (show digitsValue? base [] = some 0 from rfl)
      rwa [Nat.mul_zero, Nat.zero_add] at this
    · have hn : base ≤ n := Nat.le_of_not_lt hn
      have hless : n / base < n := Nat.div_lt_self (by omega) hbase
      rw [Nat.toDigits_of_base_le hbase hn,
        hlast (Nat.mod_lt n (by omega)) (ih _ hless), Nat.div_add_mod]

end Digits

/-! ## Addresses of 32 bits -/

/-- The bytes of an address of 32 bits. -/
def bytesOf (n : Nat) : List Nat :=
  [n / 256 ^ 3, n / 256 ^ 2 % 256, n / 256 % 256, n % 256]

theorem toList_shortText (n : Nat) :
    (shortText n).toList = ['.'].intercalate ((bytesOf n).map (Nat.toDigits 10)) := by
  simp only [shortText, String.toList_intercalate, bytesOf, List.map_cons, List.map_nil,
    Nat.toString_eq_ofList_toDigits, String.toList_ofList]
  rfl

theorem piecesChars_shortText (n : Nat) :
    Text.piecesChars '.' (shortText n).toList = (bytesOf n).map (Nat.toDigits 10) := by
  rw [Text.piecesChars_eq_iff]
  refine ⟨List.cons_ne_nil _ _, fun p hp hpoint => ?_, toList_shortText n⟩
  obtain ⟨b, -, rfl⟩ := List.mem_map.mp hp
  have hdigit := Nat.isDigit_of_mem_toDigits (by decide) (by decide) hpoint
  exact absurd hdigit (by decide)

/-- None of the parts of an address is empty. -/
theorem nameParts_shortText (n : Nat) :
    nameParts (shortText n).toList = (bytesOf n).map (Nat.toDigits 10) := by
  have hlast : (Nat.toDigits 10 (n % 256)).isEmpty = false := by simp
  rw [nameParts, piecesChars_shortText]
  exact if_neg (by simp [bytesOf, hlast])

/-- What is written for an address cannot be a domain name. -/
theorem endsInNumber_shortText (n : Nat) : endsInNumber (shortText n).toList = true := by
  have hlast : ((bytesOf n).map (Nat.toDigits 10)).getLast? = some (Nat.toDigits 10 (n % 256)) :=
    rfl
  have hempty : (Nat.toDigits 10 (n % 256)).isEmpty = false := by simp
  have hdigits : (Nat.toDigits 10 (n % 256)).all Char.isDigit = true :=
    List.all_eq_true.mpr fun c hc => Nat.isDigit_of_mem_toDigits (by decide) (by decide) hc
  rw [endsInNumber, nameParts_shortText, hlast]
  dsimp only
  rw [hempty, hdigits]
  rfl

/-- Bytes are read as decimal numbers. -/
theorem shortNumber?_toDigits {b : Nat} (h : b < 256) :
    shortNumber? (Nat.toDigits 10 b) = some b := by
  have hall : ∀ b < 256, shortNumber? (Nat.toDigits 10 b) = some b := by decide +kernel
  exact hall b h

theorem shortValue?_bytesOf {n : Nat} (h : n < 2 ^ 32) : shortValue? (bytesOf n) = some n := by
  have h₃ : n / 256 ^ 3 < 256 := by omega
  simp [shortValue?, bytesOf]
  omega

/-- **An address of 32 bits is read back.** -/
theorem parseShort_shortText {n : Nat} (h : n < 2 ^ 32) :
    parseShort (shortText n).toList = some n := by
  have hnumbers : ((bytesOf n).map (Nat.toDigits 10)).mapM shortNumber? = some (bytesOf n) := by
    rw [mapM_eq_some_iff, List.forall₂_map_left_iff, List.forall₂_same]
    intro b hb
    refine shortNumber?_toDigits ?_
    simp only [bytesOf, List.mem_cons, List.not_mem_nil, or_false] at hb
    omega
  rw [parseShort, nameParts_shortText, hnumbers, Option.bind_some, shortValue?_bytesOf h]

/-- Bytes before the last number are the upper part of an address. -/
theorem foldl_bytes_lt {bs : List Nat} (h : ∀ b ∈ bs, b ≤ 255) :
    bs.foldl (fun acc b => 256 * acc + b) 0 < 256 ^ bs.length := by
  induction bs using List.reverseRecOn with
  | nil => exact Nat.one_pos
  | append_singleton bs b ih =>
    have hb : b ≤ 255 := h b (by simp)
    have := ih fun c hc => h c (by simp [hc])
    rw [List.foldl_append, List.length_append, List.length_singleton, Nat.pow_succ]
    change 256 * _ + b < _
    omega

/-- An address of the short form has 32 bits. -/
theorem lt_of_shortValue? {numbers : List Nat} {n : Nat} (h : shortValue? numbers = some n) :
    n < 2 ^ 32 := by
  unfold shortValue? at h
  split at h
  · cases h
  next last bytes hreverse =>
  dsimp only at h
  split at h
  · cases h
  next hbounds =>
  cases h
  simp only [Bool.or_eq_true, decide_eq_true_eq, List.any_eq_true, not_or, not_exists, not_and,
    Nat.not_lt, Nat.not_le] at hbounds
  obtain ⟨⟨hcount, hbytes⟩, hlast⟩ := hbounds
  have hlength : numbers.length = bytes.length + 1 := by
    rw [← List.length_reverse, hreverse, List.length_cons]
  have hupper : bytes.reverse.foldl (fun acc b => 256 * acc + b) 0 < 256 ^ bytes.length := by
    rw [← List.length_reverse]
    exact foldl_bytes_lt fun b hb => hbytes b (List.mem_reverse.mp hb)
  generalize bytes.reverse.foldl (fun acc b => 256 * acc + b) 0 = upper at hupper
  calc upper * 256 ^ (4 - bytes.length) + last
      < upper * 256 ^ (4 - bytes.length) + 256 ^ (4 - bytes.length) := Nat.add_lt_add_left hlast _
    _ = (upper + 1) * 256 ^ (4 - bytes.length) := (Nat.succ_mul _ _).symm
    _ ≤ 256 ^ bytes.length * 256 ^ (4 - bytes.length) := Nat.mul_le_mul_right _ hupper
    _ = 256 ^ 4 := by rw [← Nat.pow_add, Nat.add_sub_cancel' (by omega)]
    _ = 2 ^ 32 := by decide

theorem lt_of_parseShort {cs : List Char} {n : Nat} (h : parseShort cs = some n) : n < 2 ^ 32 := by
  obtain ⟨numbers, -, h⟩ := Option.bind_eq_some_iff.mp h
  exact lt_of_shortValue? h

/-! ## Addresses of 128 bits -/

/-- Groups as they are written. -/
def groupChars (groups : List Nat) : List Char :=
  [':'].intercalate (groups.map (Nat.toDigits 16))

theorem groupChars_singleton (g : Nat) : groupChars [g] = Nat.toDigits 16 g :=
  List.intercalate_singleton

theorem groupChars_cons_cons (g g' : Nat) (gs : List Nat) :
    groupChars (g :: g' :: gs) = Nat.toDigits 16 g ++ ':' :: groupChars (g' :: gs) := by
  rw [groupChars, List.map_cons, List.map_cons, List.intercalate_cons_cons, List.append_assoc]
  rfl

/-- A group is written with hexadecimal digits. -/
theorem isSome_hexValue?_of_mem_toDigits {g : Nat} {c : Char} (hc : c ∈ Nat.toDigits 16 g) :
    (hexValue? c).isSome = true :=
  isSome_hexValue?_of_digitsValue? (digitsValue?_toDigits (by decide) (by decide) g) c hc

/-- What is written for a group starts with a digit. -/
theorem exists_toDigits_eq_cons (g : Nat) :
    ∃ c cs, Nat.toDigits 16 g = c :: cs ∧ c ≠ ':' := by
  obtain ⟨c, cs, hcs⟩ := List.exists_cons_of_ne_nil (Nat.toDigits_ne_nil : Nat.toDigits 16 g ≠ [])
  refine ⟨c, cs, hcs, ?_⟩
  rintro rfl
  have := isSome_hexValue?_of_mem_toDigits (g := g) (hcs ▸ List.mem_cons_self)
  exact absurd this (by decide)

/-- What is written for groups starts with a digit. -/
theorem exists_groupChars_eq_cons (g : Nat) (gs : List Nat) :
    ∃ c cs, groupChars (g :: gs) = c :: cs ∧ c ≠ ':' := by
  obtain ⟨c, cs, hcs, hc⟩ := exists_toDigits_eq_cons g
  cases gs with
  | nil => exact ⟨c, cs, by rw [groupChars_singleton, hcs], hc⟩
  | cons g' gs => exact ⟨c, _, by rw [groupChars_cons_cons, hcs, List.cons_append], hc⟩

section ReadGroups

variable {g fuel : Nat} {state : Groups} {cs : List Char}

/-- The digits at the start of a text are those of a group if no other digit follows them. -/
theorem takeWhile_take_toDigits (hg : g < 2 ^ 16) (hcs : ∀ c ∈ cs.head?, hexValue? c = none) :
    ((Nat.toDigits 16 g ++ cs).take 4).takeWhile (fun c => (hexValue? c).isSome) =
      Nat.toDigits 16 g := by
  have hlength : (Nat.toDigits 16 g).length ≤ 4 :=
    (Nat.length_toDigits_le_iff (by decide) (by decide)).mpr hg
  have hrest : ∀ k, (cs.take k).takeWhile (fun c => (hexValue? c).isSome) = [] := by
    intro k
    cases cs with
    | nil => rw [List.take_nil, List.takeWhile_nil]
    | cons c cs =>
      have hc : hexValue? c = none := hcs c rfl
      cases k <;> simp [hc]
  rw [List.take_append, List.take_of_length_le hlength,
    List.takeWhile_append_of_pos fun c hc => isSome_hexValue?_of_mem_toDigits hc, hrest,
    List.append_nil]

/-- A text that starts with a group is neither empty nor does it start with a colon. -/
theorem toDigits_append_ne (g : Nat) (cs : List Char) :
    (Nat.toDigits 16 g ++ cs = [] → False) ∧
      ∀ cs', Nat.toDigits 16 g ++ cs = ':' :: cs' → False := by
  obtain ⟨d, ds, hds, hd⟩ := exists_toDigits_eq_cons g
  rw [hds]
  exact ⟨List.cons_ne_nil d _, fun cs' h => hd (List.cons.inj h).1⟩

/-- The last group is read to the end of the text. -/
theorem readGroups_toDigits (hg : g < 2 ^ 16) :
    readGroups (fuel + 1) state (Nat.toDigits 16 g) =
      some { state with values := state.values ++ [g] } := by
  obtain ⟨hne, hcolon⟩ := toDigits_append_ne g []
  have hdigits := takeWhile_take_toDigits hg
    (show ∀ c ∈ ([] : List Char).head?, hexValue? c = none from fun c hc => nomatch hc)
  rw [List.append_nil] at hne hcolon hdigits
  rw [readGroups.eq_4 _ _ _ hne hcolon, hdigits, List.drop_length,
    digitsValue?_toDigits (by decide) (by decide)]
  rfl

/-- Any other group is read up to the colon after it. -/
theorem readGroups_toDigits_append (hg : g < 2 ^ 16) (c : Char) :
    readGroups (fuel + 1) state (Nat.toDigits 16 g ++ ':' :: c :: cs) =
      readGroups fuel { state with values := state.values ++ [g] } (c :: cs) := by
  obtain ⟨hne, hcolon⟩ := toDigits_append_ne g (':' :: c :: cs)
  have hend : ∀ d ∈ (':' :: c :: cs).head?, hexValue? d = none := by
    rintro d ⟨⟩
    rfl
  rw [readGroups.eq_4 _ _ _ hne hcolon, takeWhile_take_toDigits hg hend, List.drop_left,
    digitsValue?_toDigits (by decide) (by decide)]
  rfl

/-- **Groups are read** one after the other. -/
theorem readGroups_groupChars {gs : List Nat} (hgs : ∀ g ∈ gs, g < 2 ^ 16)
    (hfuel : gs.length ≤ fuel) :
    readGroups fuel state (groupChars gs) =
      some { state with values := state.values ++ gs } := by
  induction gs generalizing fuel state with
  | nil =>
    rw [List.append_nil]
    exact readGroups.eq_1 fuel state
  | cons g gs ih =>
    obtain ⟨hg, hgs⟩ := List.forall_mem_cons.mp hgs
    obtain ⟨fuel, rfl⟩ : ∃ n, fuel = n + 1 := ⟨fuel - 1, by simp at hfuel; omega⟩
    have hfuel : gs.length ≤ fuel := Nat.le_of_succ_le_succ hfuel
    cases gs with
    | nil =>
      rw [groupChars_singleton]
      exact readGroups_toDigits hg
    | cons g' gs =>
      obtain ⟨c, cs, hcs, -⟩ := exists_groupChars_eq_cons g' gs
      rw [groupChars_cons_cons, hcs, readGroups_toDigits_append hg, ← hcs, ih hgs hfuel,
        List.append_assoc]
      rfl

/-- Groups before a gap are read one after the other, and the gap as a group of its own. -/
theorem readGroups_groupChars_append {gs : List Nat} (hgs : ∀ g ∈ gs, g < 2 ^ 16) (hne : gs ≠ [])
    (hgap : state.gap = none) :
    readGroups (fuel + gs.length + 1) state (groupChars gs ++ ':' :: ':' :: cs) =
      readGroups fuel ⟨state.values ++ gs ++ [0], some (state.values.length + gs.length + 1)⟩
        cs := by
  induction gs generalizing fuel state with
  | nil => exact absurd rfl hne
  | cons g gs ih =>
    obtain ⟨hg, hgs⟩ := List.forall_mem_cons.mp hgs
    cases gs with
    | nil =>
      rw [groupChars_singleton, List.length_singleton, readGroups_toDigits_append hg,
        readGroups.eq_3, hgap, Option.isSome_none, if_neg Bool.false_ne_true, List.length_append]
      rfl
    | cons g' gs =>
      obtain ⟨c, ds, hds, -⟩ := exists_groupChars_eq_cons g' gs
      have hfuel : fuel + (g :: g' :: gs).length = fuel + (g' :: gs).length + 1 := rfl
      rw [hfuel, groupChars_cons_cons, hds, List.append_assoc, List.cons_append, List.cons_append,
        readGroups_toDigits_append hg, ← List.cons_append, ← hds]
      have hcount : (state.values ++ [g]).length + (g' :: gs).length + 1 =
          state.values.length + (g :: g' :: gs).length + 1 := by
        simp only [List.length_append, List.length_cons, List.length_nil]
        omega
      rw [ih hgs (List.cons_ne_nil g' gs) (by exact hgap), hcount, List.append_assoc state.values]
      rfl

end ReadGroups

/-- A run of zeros: where it starts and how long it is. -/
def IsRun (groups : List Nat) (run : Nat × Nat) : Prop :=
  groups.take run.1 ++ List.replicate run.2 0 ++ groups.drop (run.1 + run.2) = groups

theorem isRun_takeWhile (groups : List Nat) (i : Nat) :
    IsRun groups (i, ((groups.drop i).takeWhile (· == 0)).length) := by
  have hzeros : ∀ ns : List Nat, ns.takeWhile (· == 0) =
      List.replicate (ns.takeWhile (· == 0)).length 0 := fun ns =>
    List.eq_replicate_iff.mpr ⟨rfl, fun n hn => by simpa using List.mem_takeWhile_imp hn⟩
  have hrest : ∀ ns : List Nat, ns.drop (ns.takeWhile (· == 0)).length = ns.dropWhile (· == 0) := by
    intro ns
    calc ns.drop (ns.takeWhile (· == 0)).length
        = (ns.takeWhile (· == 0) ++ ns.dropWhile (· == 0)).drop (ns.takeWhile (· == 0)).length := by
          rw [List.takeWhile_append_dropWhile]
      _ = ns.dropWhile (· == 0) := List.drop_left
  rw [IsRun, ← hzeros, ← List.drop_drop, hrest, List.append_assoc,
    List.takeWhile_append_dropWhile, List.take_append_drop]

/-- What is left out of an address is a run of zeros. -/
theorem isRun_zeroRun (groups : List Nat) : IsRun groups (zeroRun groups) := by
  have hfold : ∀ (is : List Nat) (best : Nat × Nat), IsRun groups best →
      IsRun groups (is.foldl (fun best i =>
        let n := ((groups.drop i).takeWhile (· == 0)).length
        if best.2 < n then (i, n) else best) best) := by
    intro is
    induction is with
    | nil => exact fun best h => h
    | cons i is ih =>
      intro best h
      refine ih _ ?_
      dsimp only
      split
      · exact isRun_takeWhile groups i
      · exact h
  exact hfold _ _ (by simp [IsRun])

/-- The text of an address, with a gap in the place of a run of zeros if there is one. -/
theorem toList_longText (groups : List Nat) :
    (longText groups).toList =
      if (zeroRun groups).2 < 2 then groupChars groups
      else groupChars (groups.take (zeroRun groups).1) ++
        ':' :: ':' :: groupChars (groups.drop ((zeroRun groups).1 + (zeroRun groups).2)) := by
  have hjoin : ∀ gs : List Nat,
      (String.intercalate ":" (gs.map groupText)).toList = groupChars gs := by
    intro gs
    rw [String.toList_intercalate, groupChars, List.map_map]
    exact congrArg _ (List.map_congr_left fun g _ => String.toList_ofList)
  rw [longText]
  dsimp only
  split
  · exact hjoin groups
  · rw [← List.map_take, ← List.map_drop, String.toList_append, String.toList_append, hjoin, hjoin,
      List.append_assoc]
    rfl

/-- All groups of an address without a gap. -/
theorem filled?_of_no_gap {values : List Nat} (h : values.length = 8) :
    Groups.filled? ⟨values, none⟩ = some values := by
  simp [Groups.filled?, h]

/-- The groups of an address with a gap in the place of a run of zeros. -/
theorem filled?_of_gap {before after : List Nat} {n : Nat}
    (h : before.length + n + after.length = 8) (hn : n ≠ 0) :
    Groups.filled? ⟨before ++ [0] ++ after, some (before.length + 1)⟩ =
      some (before ++ List.replicate n 0 ++ after) := by
  have hlast : (before ++ [0]).length = before.length + 1 := List.length_append
  have hlength : (before ++ [0] ++ after).length = before.length + 1 + after.length := by
    rw [List.length_append, hlast]
  rw [Groups.filled?]
  dsimp only
  rw [if_neg (by omega), hlength, ← hlast, List.take_left, List.drop_left, hlast,
    show n = 8 - (before.length + 1 + after.length) + 1 by omega, List.replicate_succ]
  simp

/-- An address that does not start with a gap is read from its first group on. -/
theorem parseLong_cons {c : Char} {cs : List Char} (hc : c ≠ ':') (hcs : cs ≠ []) :
    parseLong (c :: cs) = (readGroups 8 {} (c :: cs)).bind Groups.filled? := by
  obtain ⟨d, ds, rfl⟩ := List.exists_cons_of_ne_nil hcs
  unfold parseLong
  split
  · next h => exact absurd (List.cons.inj h).1 hc
  · next h => exact absurd (List.cons.inj h).1 hc
  · exact if_neg (by simp)

/-- **An address of 128 bits is read back.**

**Proof sketch.** The groups before the gap, the gap and the groups after it are read one after the
other. The gap stands for as many zeros as there are groups missing, which is the length of the run
that has been left out. -/
theorem parseLong_longText {groups : List Nat} (hlength : groups.length = 8)
    (hgroups : ∀ g ∈ groups, g < 2 ^ 16) : parseLong (longText groups).toList = some groups := by
  have hrun := isRun_zeroRun groups
  rw [toList_longText]
  split
  · match groups, hlength with
    | g :: g' :: gs, hlength =>
      obtain ⟨c, cs, hcs, hc⟩ := exists_toDigits_eq_cons g
      have htext : groupChars (g :: g' :: gs) = c :: (cs ++ ':' :: groupChars (g' :: gs)) := by
        rw [groupChars_cons_cons, hcs, List.cons_append]
      rw [htext, parseLong_cons hc (by simp), ← htext,
        readGroups_groupChars hgroups (Nat.le_of_eq hlength), Option.bind_some]
      exact filled?_of_no_gap hlength
  · next hlong =>
    have hbefore : ∀ g ∈ groups.take (zeroRun groups).1, g < 2 ^ 16 := fun g hg =>
      hgroups g (List.mem_of_mem_take hg)
    have hafter : ∀ g ∈ groups.drop ((zeroRun groups).1 + (zeroRun groups).2), g < 2 ^ 16 :=
      fun g hg => hgroups g (List.mem_of_mem_drop hg)
    rw [IsRun] at hrun
    generalize groups.take (zeroRun groups).1 = before at hrun hbefore
    generalize groups.drop ((zeroRun groups).1 + (zeroRun groups).2) = after at hrun hafter
    generalize (zeroRun groups).2 = n at hrun hlong
    subst hrun
    simp only [List.length_append, List.length_replicate] at hlength
    cases before with
    | nil =>
      change (readGroups 7 ⟨[0], some 1⟩ (groupChars after)).bind Groups.filled? = _
      rw [readGroups_groupChars hafter (by simp at hlength; omega), Option.bind_some]
      exact filled?_of_gap hlength (by omega)
    | cons g gs =>
      obtain ⟨c, cs, hcs, hc⟩ := exists_groupChars_eq_cons g gs
      have hfuel : 8 = (7 - (g :: gs).length) + (g :: gs).length + 1 := by omega
      rw [hcs, List.cons_append, parseLong_cons hc (by simp), ← List.cons_append, ← hcs, hfuel,
        readGroups_groupChars_append hbefore (List.cons_ne_nil g gs) rfl,
        readGroups_groupChars hafter (by omega), Option.bind_some]
      change Groups.filled? ⟨_, some (0 + (g :: gs).length + 1)⟩ = _
      rw [Nat.zero_add]
      exact filled?_of_gap hlength (by omega)

/-! ### What is read is an address -/

theorem le_of_plainByte? {cs : List Char} {n : Nat} (h : plainByte? cs = some n) : n ≤ 255 := by
  unfold plainByte? at h
  split at h
  · cases h
  · cases h
    decide
  · cases h
  · split at h
    · exact of_decide_eq_true (Option.filter_eq_some_iff.mp h).2
    · cases h

/-- Two bytes make a group. -/
theorem lt_of_mem_embedded? {cs : List Char} {ns : List Nat} (h : embedded? cs = some ns) :
    ∀ n ∈ ns, n < 2 ^ 16 := by
  unfold embedded? at h
  split at h
  · next a b c d hbytes =>
    cases h
    have hle : ∀ n ∈ [a, b, c, d], n ≤ 255 := by
      intro n hn
      obtain ⟨part, -, hpart⟩ := exists_of_forall₂_of_mem (mapM_eq_some_iff.mp hbytes) hn
      exact le_of_plainByte? hpart
    simp only [List.forall_mem_cons] at hle
    intro n hn
    simp only [List.mem_cons, List.not_mem_nil, or_false] at hn
    omega
  · cases h

/-- Four hexadecimal digits make a group. -/
theorem lt_of_digitsValue?_takeWhile {cs : List Char} {p : Char → Bool} {n : Nat}
    (h : digitsValue? 16 ((cs.take 4).takeWhile p) = some n) : n < 2 ^ 16 := by
  have hlength : ((cs.take 4).takeWhile p).length ≤ 4 :=
    Nat.le_trans (List.takeWhile_sublist p).length_le (List.length_take_le 4 cs)
  calc n < 16 ^ ((cs.take 4).takeWhile p).length := lt_of_digitsValue? h
    _ ≤ 16 ^ 4 := Nat.pow_le_pow_right (by decide) hlength
    _ = 2 ^ 16 := by decide

/-- All groups that are read have 16 bits. -/
theorem lt_of_mem_readGroups {fuel : Nat} {state final : Groups} {cs : List Char}
    (hstate : ∀ v ∈ state.values, v < 2 ^ 16) (h : readGroups fuel state cs = some final) :
    ∀ v ∈ final.values, v < 2 ^ 16 := by
  have happend : ∀ {vs ws : List Nat}, (∀ v ∈ vs, v < 2 ^ 16) → (∀ v ∈ ws, v < 2 ^ 16) →
      ∀ v ∈ vs ++ ws, v < 2 ^ 16 := fun hvs hws v hv =>
    (List.mem_append.mp hv).elim (hvs v) (hws v)
  induction fuel generalizing state cs with
  | zero =>
    cases cs with
    | nil =>
      cases h
      exact hstate
    | cons c cs => cases h
  | succ fuel ih =>
    cases cs with
    | nil =>
      cases h
      exact hstate
    | cons c cs =>
      by_cases hc : c = ':'
      · subst hc
        rw [readGroups.eq_3] at h
        split at h
        · cases h
        · exact ih (happend hstate (by simp)) h
      · rw [readGroups.eq_4 _ _ _ (List.cons_ne_nil c cs) fun _ h => hc (List.cons.inj h).1] at h
        split at h
        · obtain ⟨n, hn, rfl⟩ := Option.map_eq_some_iff.mp h
          exact happend hstate (by simpa using lt_of_digitsValue?_takeWhile hn)
        · split at h
          · cases h
          · obtain ⟨ns, hns, rfl⟩ := Option.map_eq_some_iff.mp h
            exact happend hstate (lt_of_mem_embedded? hns)
        · obtain ⟨n, hn, h⟩ := Option.bind_eq_some_iff.mp h
          exact ih (happend hstate (by simpa using lt_of_digitsValue?_takeWhile hn)) h
        · cases h

/-- An address of the long form has eight groups. -/
theorem groups_of_filled? {state : Groups} {groups : List Nat}
    (hstate : ∀ v ∈ state.values, v < 2 ^ 16) (h : state.filled? = some groups) :
    groups.length = 8 ∧ ∀ g ∈ groups, g < 2 ^ 16 := by
  unfold Groups.filled? at h
  split at h
  · split at h
    · next hlength =>
      cases h
      exact ⟨hlength, hstate⟩
    · cases h
  · split at h
    · cases h
    · next n _ hle =>
      cases h
      refine ⟨by simp; omega, fun g hg => ?_⟩
      rcases List.mem_append.mp hg with hg | hg
      · rcases List.mem_append.mp hg with hg | hg
        · exact hstate g (List.mem_of_mem_take hg)
        · rw [(List.mem_replicate.mp hg).2]
          decide
      · exact hstate g (List.mem_of_mem_drop hg)

/-- **An address of the long form has 128 bits**, in eight groups. -/
theorem groups_of_parseLong {cs : List Char} {groups : List Nat} (h : parseLong cs = some groups) :
    groups.length = 8 ∧ ∀ g ∈ groups, g < 2 ^ 16 := by
  unfold parseLong at h
  split at h
  · obtain ⟨state, hstate, h⟩ := Option.bind_eq_some_iff.mp h
    exact groups_of_filled? (lt_of_mem_readGroups (by simp) hstate) h
  · cases h
  · split at h
    · cases h
    · obtain ⟨state, hstate, h⟩ := Option.bind_eq_some_iff.mp h
      exact groups_of_filled? (lt_of_mem_readGroups (List.forall_mem_nil _) hstate) h

end NullLint.Url
