import NullLint.Proofs.Json.Slot

set_option autoImplicit false
set_option relaxedAutoImplicit false

/-!
# Where a decoder finds a fault

A draft that can be decoded is spoiled by putting another value in the place of one of its values.
The decoder meets all that stands before that place as it did, so it fails at the place or not at
all. What a decoder blames is said for one place at a time; a place further in is reached through
the decoders of lists and records.

## Main definitions

* `Json.FailsAt` — an attempt fails at a place.
* `Json.Draft.Replaces` — a value stands in the place of another one.
* `Json.Blames` — the place that a decoder blames if a value is replaced.

## Main results

* `Json.Blames.listOf`, `Json.Blames.optional`, `Json.blames_recordOf` — places further in.
* `Json.blames_nameOf`, `Json.blames_string`, `Json.failsAt_value` — the places of values.
* `Json.Record.Lawful.recordOf_replaced` — a member that is kept as a value may be replaced by
  another value.
-/

namespace NullLint.Json

variable {α β σ : Type}

/-! ## Faults at a place -/

/-- An attempt fails, and the fault is at a place. -/
def FailsAt (r : Except Located α) (p : Path) : Prop := ∃ fault, r = .error ⟨p, fault⟩

section

variable {r : Except Located α} {p : Path}

theorem failsAt_here (fault : Fault) : FailsAt (here fault : Except Located α) [] := ⟨fault, rfl⟩

theorem FailsAt.within (h : FailsAt r p) (s : Step) : FailsAt (within s r) (s :: p) := by
  obtain ⟨fault, rfl⟩ := h
  exact ⟨fault, rfl⟩

theorem FailsAt.bind (h : FailsAt r p) (f : α → Except Located β) : FailsAt (r >>= f) p := by
  obtain ⟨fault, rfl⟩ := h
  exact ⟨fault, rfl⟩

theorem FailsAt.map (h : FailsAt r p) (f : α → β) : FailsAt (r.map f) p := by
  obtain ⟨fault, rfl⟩ := h
  exact ⟨fault, rfl⟩

/-- What comes after an attempt that succeeds fails. -/
theorem failsAt_bind_of_ok {a : α} {f : α → Except Located β} (hr : r = .ok a)
    (h : FailsAt (f a) p) : FailsAt (r >>= f) p :=
  hr ▸ h

/-- Whether an attempt fails with an error can be seen without comparing data. -/
instance decidableEqError {ε : Type} [DecidableEq ε] (r : Except ε α) (e : ε) :
    Decidable (r = .error e) :=
  match r with
  | .ok _ => isFalse nofun
  | .error e' => decidable_of_iff (e' = e) ⟨congrArg _, Except.error.inj⟩

/-- Whether an attempt succeeds can be seen without comparing data. -/
instance decidableExistsOk {ε : Type} (r : Except ε α) : Decidable (∃ a, r = .ok a) :=
  match r with
  | .ok a => isTrue ⟨a, rfl⟩
  | .error _ => isFalse (by rintro ⟨_, ⟨⟩⟩)

/-- A fault without a place is one of the value at hand. -/
theorem failsAt_placed {r : Except Fault α} (h : ∀ a, r ≠ .ok a) : FailsAt (placed r) [] := by
  cases r with
  | ok a => exact absurd rfl (h a)
  | error fault => exact ⟨fault, rfl⟩

end

/-! ## Replacing a value -/

/-- A value stands in the place of another one. -/
inductive Draft.Replaces (w : Draft) : Path → Draft → Draft → Prop
  | here (d : Draft) : Replaces w [] d w
  | key {name : String} {p : Path} {d d' v v' : Draft} {before after : List (String × Draft)}
      (hd : d.HasMembers (before ++ (name, v) :: after))
      (hd' : d'.HasMembers (before ++ (name, v') :: after)) (h : Replaces w p v v') :
      Replaces w (.key name :: p) d d'
  | index {p : Path} {d d' v v' : Draft} {before after : List Draft}
      (hd : d.HasItems (before ++ v :: after)) (hd' : d'.HasItems (before ++ v' :: after))
      (h : Replaces w p v v') : Replaces w (.index before.length :: p) d d'

/-- Whatever data a decoder finds in a draft, it fails at a place when a value is put in some place
of the draft. -/
def Blames (f : Draft → Except Located α) (w : Draft) (p q : Path) : Prop :=
  ∀ d d' a, f d = .ok a → w.Replaces p d d' → FailsAt (f d') q

section

variable {f : Draft → Except Located α} {w : Draft} {p q : Path}

/-- A value that is refused wherever it stands. -/
theorem blames_nil (h : FailsAt (f w) q) : Blames f w [] q := by
  rintro d _ a - ⟨⟩
  exact h

/-- The word `null` has no places inside. -/
theorem Draft.Replaces.not_isNull {d d' : Draft} (h : w.Replaces p d d') (hp : p ≠ []) :
    ¬d.isNull = true ∧ ¬d'.isNull = true := by
  simp only [Draft.isNull_iff]
  cases h with
  | here => exact absurd rfl hp
  | key hd hd' =>
    obtain ⟨_, rfl, -⟩ := hd
    obtain ⟨_, rfl, -⟩ := hd'
    exact ⟨by rintro ⟨⟩, by rintro ⟨⟩⟩
  | index hd hd' =>
    obtain ⟨_, rfl, -⟩ := hd
    obtain ⟨_, rfl, -⟩ := hd'
    exact ⟨by rintro ⟨⟩, by rintro ⟨⟩⟩

/-- A place inside of something that may be `null`. -/
theorem Blames.optional (h : Blames f w p q) (hp : p ≠ []) :
    Blames (Draft.optional f) w p q := by
  intro d d' o hd hreplaces
  obtain ⟨hnull, hnull'⟩ := hreplaces.not_isNull hp
  rw [Draft.optional, if_neg hnull, map_eq_ok_iff] at hd
  obtain ⟨a, ha, -⟩ := hd
  rw [Draft.optional, if_neg hnull']
  exact (h d d' a ha hreplaces).map some

/-- The items before the one that is replaced are decoded as before.

**Proof sketch.** Induction on these items. -/
theorem Items.failsAt_decode {v v' : Draft} {before after : List Draft} {items items' : Items}
    {i : Nat} {as : List α} (hare : items.Are (before ++ v :: after))
    (hare' : items'.Are (before ++ v' :: after)) (hd : items.decode f i = .ok as)
    (h : ∀ a, f v = .ok a → FailsAt (f v') q) :
    FailsAt (items'.decode f i) (.index (i + before.length) :: q) := by
  induction before generalizing items items' i as with
  | nil =>
    cases hare
    cases hare'
    simp only [decode, monadBind_eq_ok_iff, within_eq_ok_iff] at hd
    obtain ⟨a, ha, -⟩ := hd
    exact ((h a ha).within _).bind _
  | cons u before ih =>
    cases hare with
    | cons hare =>
      cases hare' with
      | cons hare' =>
        simp only [decode, monadBind_eq_ok_iff, within_eq_ok_iff] at hd
        obtain ⟨b, hb, bs, hbs, -⟩ := hd
        rw [decode, within_eq_ok_iff.mpr hb, ok_bind, List.length_cons, ← Nat.add_assoc,
          Nat.add_right_comm]
        exact (ih hare hare' hbs).bind _

/-- A place inside of an item of a list. -/
theorem Blames.listOf (h : Blames f w p q) (levels i : Nat) :
    Blames (Draft.listOf levels f) w (.index i :: p) (.index i :: q) := by
  rintro d d' as hd (_ | _ | ⟨⟨items, rfl, hare⟩, ⟨items', rfl, hare'⟩, hreplaces⟩)
  rw [Draft.listOf] at hd ⊢
  split at hd
  · cases hd
  · next hlevels =>
    rw [if_neg hlevels]
    have hfails := Items.failsAt_decode hare hare' hd fun a ha => h _ _ a ha hreplaces
    rwa [Nat.zero_add] at hfails

end

/-! ## Records -/

section

variable {claim : σ → String → Except Fault Unit} {take : σ → String → Draft → Except Located σ}
  {start : σ} {w : Draft} {p q : Path} {name : String}

/-- The members of an object are taken one after the other. -/
theorem Members.fold_eq_foldlM {members : Members} {ms : List (String × Draft)}
    (hare : members.Are ms) (r : σ) : members.fold claim take r = ms.foldlM (fun r m => do
      placed (claim r m.1)
      take r m.1 m.2) r := by
  induction hare generalizing r with
  | nil => rfl
  | @cons key name v rest ms hkey _ ih =>
    have hname : within .unread (placed key.text) = .ok name :=
      within_eq_ok_iff.mpr (placed_eq_ok_iff.mpr (Quoted.text_eq_ok_iff.mpr hkey))
    rw [fold, hname, ok_bind, List.foldlM_cons]
    simp only [ih]
    cases claim r name <;> rfl

/-- A record is decoded only if there is a level left for it. -/
theorem Draft.exists_succ_of_recordOf {levels : Nat} {expected : String} {d : Draft} {r : σ}
    (h : d.recordOf levels expected claim take start = .ok r) : ∃ l, levels = l + 1 := by
  refine Nat.exists_eq_succ_of_ne_zero ?_
  rintro rfl
  cases d <;> cases h

/-- A place inside of a member of an object, where taking the member blames it. -/
theorem blames_recordOf {levels : Nat} {expected : String} {finish : σ → Except Fault α}
    (h : ∀ r r' v v', take r name v = .ok r' → w.Replaces p v v' → FailsAt (take r name v') q) :
    Blames (fun d => do
      let r ← d.recordOf levels expected claim take start
      placed (finish r)) w (.key name :: p) q := by
  rintro d d' a hd
    (_ | @⟨_, _, _, _, v, v', before, after, ⟨members, rfl, hare⟩, ⟨members', rfl, hare'⟩, hv⟩ | _)
  obtain ⟨r, hr, -⟩ := monadBind_eq_ok_iff.mp hd
  refine FailsAt.bind ?_ _
  rw [Draft.recordOf] at hr ⊢
  split at hr
  · cases hr
  · next hlevels =>
    rw [if_neg hlevels, Members.fold_eq_foldlM hare', List.foldlM_append]
    rw [Members.fold_eq_foldlM hare, List.foldlM_append, monadBind_eq_ok_iff] at hr
    obtain ⟨r₁, hr₁, hr⟩ := hr
    rw [List.foldlM_cons, monadBind_eq_ok_iff] at hr
    obtain ⟨r₂, hr₂, -⟩ := hr
    obtain ⟨_, hclaim, htake⟩ := monadBind_eq_ok_iff.mp hr₂
    rw [hr₁, ok_bind, List.foldlM_cons]
    refine FailsAt.bind ?_ _
    dsimp only at hclaim htake ⊢
    rw [hclaim, ok_bind]
    exact h r₁ r₂ v v' htake hv

end

namespace Record

variable {ρ : Type} {R : Record σ ρ} {l levels : Nat} {expected : String}
  {takeOther : ρ → String → Draft → Except Located ρ} {none : ρ}
  {claim : σ → String → Except Fault Unit} {take : σ → String → Draft → Except Located σ}
  {start : σ} {finish : σ → Except Fault α} {w : Draft} {p q : Path} {name : String}

/-- A place inside of a field. -/
theorem Lawful.blames_slot (h : R.Lawful l takeOther none claim take start) {s : Slot σ}
    (hs : s ∈ R.slots) (hslot : Blames s.decode w p q) :
    Blames (fun d => do
      let r ← d.recordOf levels expected claim take start
      placed (finish r)) w (.key s.name :: p) (.key s.name :: q) := by
  refine blames_recordOf fun r r' v v' htake hv => ?_
  rw [h.take_slot s hs, monadBind_eq_ok_iff] at htake
  obtain ⟨a, ha, -⟩ := htake
  rw [h.take_slot s hs]
  exact ((hslot v v' a (within_eq_ok_iff.mp ha) hv).within _).bind _

/-- A place inside of a member that no field takes. -/
theorem Lawful.blames_other {R : Record σ (List (String × Value))} {none : List (String × Value)}
    (h : R.Lawful l (Draft.takeValue l) none claim take start) (hname : name ∉ R.known)
    (hvalue : Blames (Draft.value l) w p q) :
    Blames (fun d => do
      let r ← d.recordOf levels expected claim take start
      placed (finish r)) w (.key name :: p) (.key name :: q) := by
  refine blames_recordOf fun r r' v v' htake hv => ?_
  simp only [h.take_other name hname, Draft.takeValue, monadBind_eq_ok_iff] at htake
  obtain ⟨_, ⟨a, ha, -⟩, -⟩ := htake
  rw [h.take_other name hname, Draft.takeValue]
  exact (((hvalue v v' a (within_eq_ok_iff.mp ha) hv).within _).bind _).bind _

/-- A member that no field takes may be replaced by another value: the record still takes all
members.

**Proof sketch.** The fields hold what they held, as their members are the same; and the members
that no field takes still have values. What takes them can only fail for their depth, and then it
had failed before. -/
theorem Lawful.recordOf_replaced {R : Record σ (List (String × Value))}
    (h : R.Lawful (levels - 1) (Draft.takeValue (levels - 1)) [] claim take start)
    (hname : name ∉ R.known) (hw : w.IsValue) (hleaf : w.IsLeaf) {d d' : Draft} {r : σ}
    (hd : d.recordOf levels expected claim take start = .ok r)
    (hreplaces : w.Replaces [.key name] d d') :
    ∃ ms r', (name, w) ∈ ms ∧ R.Holds MembersDenote ms r' ∧
      d'.recordOf levels expected claim take start = .ok r' := by
  obtain ⟨l, rfl⟩ := Draft.exists_succ_of_recordOf hd
  rw [Nat.add_sub_cancel] at h
  have htakes := h.takes_of_depth (takes_value (decodes_value l))
  obtain ⟨ms, hms, hold⟩ := holds_of_recordOf (fun _ _ => ⟨_, htakes⟩) hd
  obtain _ | @⟨_, _, _, _, v, _, before, after, hbefore, hd', ⟨⟩⟩ := hreplaces
  cases hms.unique hbefore
  have hfits : ∀ m ∈ before ++ (name, v) :: after, m.2.depth ≤ l := by
    by_contra hdeep
    have hyields : Yields _ (Draft.recordOf (l + 1) expected claim take start _) r :=
      yields_recordOf htakes hms hold
    obtain ⟨e, he, -⟩ := hyields.tooDeep hdeep
    rw [hd] at he
    cases he
  have hother : ∀ m ∈ before ++ (name, w) :: after,
      m ∈ before ++ (name, v) :: after ∨ m = (name, w) := by
    intro m hm
    simp only [List.mem_append, List.mem_cons] at hm ⊢
    tauto
  obtain ⟨vs, hvs⟩ : ∃ vs, Others R.known (before ++ (name, w) :: after) vs := by
    refine exists_membersDenote_iff.mpr fun m hm => ?_
    obtain ⟨hm, hknown⟩ := List.mem_filter.mp hm
    obtain hm | rfl := hother m hm
    · exact exists_membersDenote_iff.mp ⟨_, hold.others⟩ m (List.mem_filter.mpr ⟨hm, hknown⟩)
    · exact hw
  have hold' : R.Holds MembersDenote (before ++ (name, w) :: after) (R.setOthers vs r) := by
    refine ⟨fun s hs => ?_, by rwa [h.others_setOthers]⟩
    have hne : name ≠ s.name := fun heq => hname (heq ▸ List.mem_map_of_mem hs)
    rw [h.get_setOthers s hs, field_congr (valuesOf_insert_of_ne hne after),
      ← field_congr (valuesOf_insert_of_ne hne after)]
    exact hold.fields s hs
  refine ⟨_, _, by simp, hold', (yields_recordOf htakes hd' hold').ok fun m hm => ?_⟩
  obtain hm | rfl := hother m hm
  · exact hfits m hm
  · exact hleaf.depth_eq ▸ Nat.zero_le l

end Record

/-! ## Values -/

section

variable {w : Draft} {levels : Nat}

/-- A draft names none of some data: it is a string that stands for no name of them, or an object
with another name as its only key and `null` as the value. -/
def Draft.NamesNone (nameOf : α → String) (d : Draft) : Prop :=
  (∃ q, d = .quoted q ∧ ∀ name, q.Denotes name → ∀ a, nameOf a ≠ name) ∨
    ∃ name, d.HasMembers [(name, .word .null none)] ∧ ∀ a, nameOf a ≠ name

/-- A name that stands for nothing. -/
theorem blames_nameOf {f : String → Except Fault α} {nameOf : α → String}
    (hf : ∀ name a, f name = .ok a ↔ nameOf a = name) (h : w.NamesNone nameOf) :
    Blames (Draft.nameOf levels f) w [] [] := by
  refine blames_nil ?_
  obtain ⟨q, rfl, hq⟩ | ⟨name, ⟨members, rfl, hare⟩, hname⟩ := h
  · rw [Draft.nameOf]
    cases htext : q.text with
    | error fault => exact ⟨fault, rfl⟩
    | ok name =>
      have hne := hq name (Quoted.text_eq_ok_iff.mp htext)
      exact failsAt_placed fun a ha => hne a ((hf name a).mp ha)
  · cases hare with
    | cons hkey hrest =>
      rw [Draft.nameOf]
      split
      · exact failsAt_here _
      · rw [mapError_eq_ok_iff.mpr (Quoted.text_eq_ok_iff.mpr hkey), ok_bind]
        refine FailsAt.bind ?_ _
        exact failsAt_placed fun a ha => hname a ((hf name a).mp ha)

/-- A numeral is no string. -/
theorem blames_string (n : Except NumeralStop Numeral) :
    Blames Draft.string (.numeral n) [] [] :=
  blames_nil (failsAt_here _)

/-- A word, a numeral or a string without a value. -/
theorem blames_value (hleaf : w.IsLeaf) (h : ¬w.IsValue) :
    Blames (Draft.value levels) w [] [] := by
  have hne : ∀ v, w.value levels ≠ .ok v := fun v hv =>
    h ⟨v, (Draft.value_eq_ok_iff_of_isLeaf hleaf levels).mp hv⟩
  refine blames_nil ?_
  cases w with
  | list => exact absurd hleaf id
  | object => exact absurd hleaf id
  | missing =>
    rw [Draft.value]
    exact failsAt_here _
  | stray =>
    rw [Draft.value]
    exact failsAt_here _
  | word word stop =>
    cases stop with
    | some stop =>
      rw [Draft.value]
      exact failsAt_here _
    | none => cases word <;> (rw [Draft.value] at hne; exact absurd rfl (hne _))
  | numeral n =>
    rw [Draft.value] at hne ⊢
    cases hn : Numeral.number n with
    | ok x => simp [hn, Except.mapError, Except.map] at hne
    | error fault => exact ⟨fault, rfl⟩
  | quoted q =>
    rw [Draft.value] at hne ⊢
    cases hq : q.text with
    | ok s => simp [hq, Except.mapError, Except.map] at hne
    | error fault => exact ⟨fault, rfl⟩

end

end NullLint.Json
