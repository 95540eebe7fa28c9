import NullLint.Proofs.Json.Decode
import NullLint.Proofs.Matching

set_option autoImplicit false
set_option relaxedAutoImplicit false

/-!
# What records find among their members

A record takes the members of an object one after the other. What it holds is said for every list
of members; the law of one member says how taking it changes what is held, and it carries over to
all members of an object. A field holds the data of the one member of its name, and all members of
unknown names are kept as values.

## Main definitions

* `Json.valuesOf`, `Json.Field` — the values of a name, and what the field of a name holds.
* `Json.MembersRelate`, `Json.MembersDenote` — members of the same names, and members with values.
* `Json.Others` — the members that no field takes.
* `Json.Takes` — the law of one member.

## Main results

* `Json.decodes_recordOf`, `Json.decodes_finished` — an object is decoded as what the record holds
  of its members.
-/

namespace NullLint.Json

variable {α β γ σ : Type}

/-! ## Fields -/

/-- The values of the members of one name. -/
def valuesOf (name : String) (ms : List (String × β)) : List β :=
  (ms.filter fun m => m.1 = name).map Prod.snd

/-- What the field of a name holds: nothing if no member has the name, and the data of the value if
one member has it. -/
inductive Field (name : String) (P : β → α → Prop) (ms : List (String × β)) : Option α → Prop
  | absent (h : valuesOf name ms = []) : Field name P ms none
  | given {v : β} {a : α} (h : valuesOf name ms = [v]) (ha : P v a) : Field name P ms (some a)

section

variable {name other : String} {P : β → α → Prop} {ms : List (String × β)} {v : β} {o : Option α}

theorem valuesOf_append (name : String) (ms ns : List (String × β)) :
    valuesOf name (ms ++ ns) = valuesOf name ms ++ valuesOf name ns := by
  rw [valuesOf, List.filter_append, List.map_append, valuesOf, valuesOf]

theorem valuesOf_singleton_self (name : String) (v : β) : valuesOf name [(name, v)] = [v] := by
  simp [valuesOf]

theorem valuesOf_singleton_of_ne (h : other ≠ name) (v : β) :
    valuesOf name [(other, v)] = [] := by
  simp [valuesOf, h]

theorem field_none_iff : Field name P ms none ↔ valuesOf name ms = [] := by
  constructor
  · rintro ⟨h⟩
    exact h
  · exact Field.absent

theorem field_some_iff {a : α} :
    Field name P ms (some a) ↔ ∃ v, valuesOf name ms = [v] ∧ P v a := by
  constructor
  · rintro (_ | ⟨h, ha⟩)
    exact ⟨_, h, ha⟩
  · rintro ⟨v, h, ha⟩
    exact Field.given h ha

theorem field_nil_iff : Field name P [] o ↔ o = none := by
  cases o with
  | none => simp [field_none_iff, valuesOf]
  | some a => simp [field_some_iff, valuesOf]

/-- A member of the name of a field has the data that the field holds. -/
theorem Field.exists_of_mem {m : String × β} (h : Field name P ms o) (hm : m ∈ ms)
    (hname : m.1 = name) : ∃ a, o = some a ∧ P m.2 a := by
  have hmem : m.2 ∈ valuesOf name ms :=
    List.mem_map.mpr ⟨m, List.mem_filter.mpr ⟨hm, decide_eq_true hname⟩, rfl⟩
  cases h with
  | absent h =>
    rw [h] at hmem
    cases hmem
  | given h ha =>
    rw [h, List.mem_singleton] at hmem
    exact ⟨_, rfl, hmem ▸ ha⟩

/-- A member of the name of a field is the only one. -/
theorem field_append_self :
    Field name P (ms ++ [(name, v)]) o ↔ Field name P ms none ∧ ∃ a, P v a ∧ o = some a := by
  rw [field_none_iff]
  cases o with
  | none => simp [field_none_iff, valuesOf_append, valuesOf_singleton_self]
  | some a =>
    rw [field_some_iff, valuesOf_append, valuesOf_singleton_self]
    constructor
    · rintro ⟨w, h, ha⟩
      rcases List.append_eq_singleton_iff.mp h with ⟨hnil, hw⟩ | ⟨-, hw⟩
      · cases hw
        exact ⟨hnil, a, ha, rfl⟩
      · cases hw
    · rintro ⟨hnil, a', ha, heq⟩
      cases heq
      exact ⟨v, by rw [hnil]; rfl, ha⟩

/-- A field holds the same of members that have the same values of its name. -/
theorem field_congr {ns : List (String × β)} (h : valuesOf name ms = valuesOf name ns) :
    Field name P ms o ↔ Field name P ns o := by
  cases o with
  | none => rw [field_none_iff, field_none_iff, h]
  | some a => rw [field_some_iff, field_some_iff, h]

/-- A member of another name does not concern a field. -/
theorem field_append_of_ne (h : other ≠ name) :
    Field name P (ms ++ [(other, v)]) o ↔ Field name P ms o := by
  refine field_congr ?_
  rw [valuesOf_append, valuesOf_singleton_of_ne h, List.append_nil]

/-- A member of another name among others does not concern a field. -/
theorem valuesOf_insert_of_ne (h : other ≠ name) (ns : List (String × β)) :
    valuesOf name (ms ++ (other, v) :: ns) = valuesOf name (ms ++ ns) := by
  rw [List.append_cons, valuesOf_append, valuesOf_append, valuesOf_append,
    valuesOf_singleton_of_ne h, List.append_nil]

end

/-! ## Other members -/

/-- Members of the same names, one by one, whose values are related. -/
def MembersRelate (R : β → γ → Prop) (ms : List (String × β)) (ws : List (String × γ)) : Prop :=
  List.Forall₂ (fun m w => m.1 = w.1 ∧ R m.2 w.2) ms ws

/-- Members and their values, name by name. -/
abbrev MembersDenote (ms : List (String × Draft)) (vs : List (String × Value)) : Prop :=
  MembersRelate Draft.Denotes ms vs

section

variable {R : β → γ → Prop} {ms : List (String × β)} {ws : List (String × γ)}

/-- Members are related if they have the same names and their values are related. -/
theorem membersRelate_iff :
    MembersRelate R ms ws ↔ ms.map Prod.fst = ws.map Prod.fst ∧
      List.Forall₂ R (ms.map Prod.snd) (ws.map Prod.snd) := by
  rw [MembersRelate, List.forall₂_map_left_iff, List.forall₂_map_right_iff]
  constructor
  · intro h
    refine ⟨?_, h.imp fun _ _ => And.right⟩
    rw [← List.forall₂_eq_eq_eq, List.forall₂_map_left_iff, List.forall₂_map_right_iff]
    exact h.imp fun _ _ => And.left
  · rintro ⟨hnames, h⟩
    rw [← List.forall₂_eq_eq_eq, List.forall₂_map_left_iff, List.forall₂_map_right_iff] at hnames
    exact hnames.mp (fun _ _ => And.intro) h

/-- The values of one name are related if the members are. -/
theorem MembersRelate.forall₂_valuesOf (h : MembersRelate R ms ws) (name : String) :
    List.Forall₂ R (valuesOf name ms) (valuesOf name ws) := by
  rw [valuesOf, valuesOf, List.forall₂_map_left_iff, List.forall₂_map_right_iff]
  induction h with
  | nil => exact List.Forall₂.nil
  | @cons m w ms ws hm _ ih =>
    by_cases hname : m.1 = name
    · have hname' : w.1 = name := hm.1 ▸ hname
      simp only [hname, hname', decide_true, List.filter_cons_of_pos]
      exact List.Forall₂.cons hm.2 ih
    · have hname' : w.1 ≠ name := hm.1 ▸ hname
      simp only [hname, hname', decide_false, Bool.false_eq_true, not_false_eq_true,
        List.filter_cons_of_neg]
      exact ih

end

/-- The members whose names are not among the known ones, with their values. -/
def Others (known : List String) (ms : List (String × Draft)) (vs : List (String × Value)) : Prop :=
  MembersDenote (ms.filter fun m => m.1 ∉ known) vs

section

variable {known : List String} {name : String} {ms : List (String × Draft)} {v : Draft}
  {vs : List (String × Value)}

theorem membersDenote_append_iff :
    MembersDenote (ms ++ [(name, v)]) vs ↔
      ∃ vs' w, MembersDenote ms vs' ∧ v.Denotes w ∧ vs = vs' ++ [(name, w)] := by
  induction ms generalizing vs with
  | nil =>
    rw [MembersDenote, MembersRelate, List.nil_append, List.forall₂_cons_left_iff]
    constructor
    · rintro ⟨⟨name', w⟩, vs', ⟨hname, hw⟩, hvs', rfl⟩
      cases hname
      cases hvs'
      exact ⟨[], w, List.Forall₂.nil, hw, rfl⟩
    · rintro ⟨vs', w, hvs', hw, rfl⟩
      cases hvs'
      exact ⟨(name, w), [], ⟨rfl, hw⟩, List.Forall₂.nil, rfl⟩
  | cons m ms ih =>
    rw [MembersDenote, MembersRelate, List.cons_append, List.forall₂_cons_left_iff]
    constructor
    · rintro ⟨w₀, vs₀, hm, hvs₀, rfl⟩
      obtain ⟨vs', w, hvs', hw, rfl⟩ := ih.mp hvs₀
      exact ⟨w₀ :: vs', w, List.Forall₂.cons hm hvs', hw, rfl⟩
    · rintro ⟨vs₁, w, hvs₁, hw, rfl⟩
      cases hvs₁ with
      | @cons _ w₀ _ vs' hm hvs' =>
        exact ⟨w₀, vs' ++ [(name, w)], hm, ih.mpr ⟨vs', w, hvs', hw, rfl⟩, rfl⟩

/-- Members have values if each of them has one. -/
theorem exists_membersDenote_iff :
    (∃ vs, MembersDenote ms vs) ↔ ∀ m ∈ ms, m.2.IsValue := by
  induction ms with
  | nil => exact iff_of_true ⟨[], List.Forall₂.nil⟩ (List.forall_mem_nil _)
  | cons m ms ih =>
    rw [List.forall_mem_cons, ← ih]
    constructor
    · rintro ⟨vs, h⟩
      cases h with
      | cons hm hms => exact ⟨⟨_, hm.2⟩, _, hms⟩
    · rintro ⟨⟨w, hw⟩, vs, hvs⟩
      exact ⟨(m.1, w) :: vs, List.Forall₂.cons ⟨rfl, hw⟩ hvs⟩

/-- The members of a name that is not known are all among the others. -/
theorem Others.forall₂_valuesOf (h : Others known ms vs) (hname : name ∉ known) :
    List.Forall₂ Draft.Denotes (valuesOf name ms) (valuesOf name vs) := by
  have hvalues : valuesOf name (ms.filter fun m => m.1 ∉ known) = valuesOf name ms := by
    rw [valuesOf, valuesOf, List.filter_filter]
    congr 1
    refine List.filter_congr fun m _ => ?_
    by_cases hm : m.1 = name
    · simp [hm, hname]
    · simp [hm]
  rw [← hvalues]
  exact MembersRelate.forall₂_valuesOf h name

end

/-! ## Records -/

/-- The law of one member. A record holds nothing before the first member. If it takes one more
member it holds it afterwards; and what it holds of some members it holds because it took the last
of them, unless that one does not fit into the levels that are left. -/
structure Takes (Fits : String → Draft → Prop) (claim : σ → String → Except Fault Unit)
    (take : σ → String → Draft → Except Located σ) (start : σ)
    (Holds : List (String × Draft) → σ → Prop) : Prop where
  start : ∀ {r}, Holds [] r ↔ r = start
  sound : ∀ {ms r name v r'}, Holds ms r → claim r name = .ok () → take r name v = .ok r' →
    Holds (ms ++ [(name, v)]) r'
  complete : ∀ {ms name v r'}, Holds (ms ++ [(name, v)]) r' → ∃ r, Holds ms r ∧
    claim r name = .ok () ∧ Yields (Fits name v) (take r name v) r'

section

variable {Fits : String → Draft → Prop} {claim : σ → String → Except Fault Unit}
  {take : σ → String → Draft → Except Located σ} {start : σ}
  {Holds : List (String × Draft) → σ → Prop}

theorem ObjectStop.fault?_eq_none_iff {stop : ObjectStop} :
    stop.fault? = none ↔ stop = .closed := by
  cases stop <;> simp [fault?]

/-- A record that takes all members of an object holds them. -/
theorem Members.holds_of_fold (h : Takes Fits claim take start Holds) : ∀ (members : Members)
    {before : List (String × Draft)} {r r' : σ}, Holds before r →
    members.fold claim take r = .ok r' → ∃ ms, members.Are ms ∧ Holds (before ++ ms) r'
  | .stop s, before, r, r', hr, hd => by
    rw [fold] at hd
    split at hd
    · next hstop =>
      cases hd
      rw [ObjectStop.fault?_eq_none_iff.mp hstop]
      exact ⟨[], Members.Are.nil, by simpa using hr⟩
    · cases hd
  | .notKey _, _, _, _, _, hd => by cases hd
  | .noValue _ _, _, _, _, _, hd => by
    simp only [fold, monadBind_eq_ok_iff] at hd
    obtain ⟨_, _, _, _, hd⟩ := hd
    cases hd
  | .member key v rest, before, r, r', hr, hd => by
    simp only [fold, monadBind_eq_ok_iff, within_eq_ok_iff, placed_eq_ok_iff] at hd
    obtain ⟨name, hname, ⟨⟩, hclaim, r₁, htake, hd⟩ := hd
    obtain ⟨ms, hare, hms⟩ := rest.holds_of_fold h (h.sound hr hclaim htake) hd
    refine ⟨(name, v) :: ms, Members.Are.cons (Quoted.text_eq_ok_iff.mp hname) hare, ?_⟩
    simpa using hms

/-- What a record holds of the members of an object is what it has when it took them, unless one of
them does not fit.

**Proof sketch.** Induction on the members. The law of one member is used at the first one, so it is
known what the record holds before it. -/
theorem Members.fold_of_holds (h : Takes Fits claim take start Holds) {members : Members}
    {ms : List (String × Draft)} (hare : members.Are ms) {before : List (String × Draft)} {r' : σ}
    (hr : Holds (before ++ ms) r') : ∃ r, Holds before r ∧
      Yields (∀ m ∈ ms, Fits m.1 m.2) (members.fold claim take r) r' := by
  induction hare generalizing before with
  | nil =>
    refine ⟨r', by simpa using hr, fun _ => rfl, fun hfits => ?_⟩
    exact absurd (List.forall_mem_nil _) hfits
  | @cons key name v rest ms hkey hare ih =>
    rw [List.append_cons] at hr
    obtain ⟨r₁, hr₁, hrest⟩ := ih hr
    obtain ⟨r, hr, hclaim, hyields⟩ := h.complete hr₁
    have hname : within .unread (placed key.text) = .ok name :=
      within_eq_ok_iff.mpr (placed_eq_ok_iff.mpr (Quoted.text_eq_ok_iff.mpr hkey))
    have hstep : (Members.member key v rest).fold claim take r =
        take r name v >>= fun r₁ => rest.fold claim take r₁ := by
      rw [fold, hname, ok_bind, placed_eq_ok_iff.mpr hclaim, ok_bind]
    refine ⟨r, hr, fun hfits => ?_, fun hfits => ?_⟩
    · obtain ⟨hv, hms⟩ := List.forall_mem_cons.mp hfits
      rw [hstep, hyields.ok hv, ok_bind, hrest.ok hms]
    · rw [hstep]
      by_cases hv : Fits name v
      · rw [hyields.ok hv, ok_bind]
        exact hrest.tooDeep fun hms => hfits (List.forall_mem_cons.mpr ⟨hv, hms⟩)
      · exact (hyields.tooDeep hv).bind _

/-- An object is decoded only as what the record holds of its members. -/
theorem holds_of_recordOf {levels : Nat} {expected : String}
    (h : ∀ l, levels = l + 1 → ∃ Fits, Takes Fits claim take start Holds) {d : Draft} {r : σ}
    (hd : Draft.recordOf levels expected claim take start d = .ok r) :
    ∃ ms, d.HasMembers ms ∧ Holds ms r := by
  cases d with
  | object members =>
    rw [Draft.recordOf] at hd
    split at hd
    · cases hd
    · next hne =>
      obtain ⟨l, rfl⟩ := Nat.exists_eq_succ_of_ne_zero hne
      obtain ⟨Fits, htakes⟩ := h l rfl
      obtain ⟨ms, hare, hms⟩ := members.holds_of_fold htakes (htakes.start.mpr rfl) hd
      exact ⟨ms, ⟨members, rfl, hare⟩, hms⟩
  | _ => cases hd

/-- An object is decoded as what the record holds of its members if they all fit. -/
theorem yields_recordOf {l : Nat} {expected : String} (h : Takes Fits claim take start Holds)
    {d : Draft} {ms : List (String × Draft)} {r : σ} (hd : d.HasMembers ms) (hr : Holds ms r) :
    Yields (∀ m ∈ ms, Fits m.1 m.2) (Draft.recordOf (l + 1) expected claim take start d) r := by
  obtain ⟨members, rfl, hare⟩ := hd
  have hnone : Holds ([] ++ ms) r := hr
  obtain ⟨r₀, hr₀, hyields⟩ := Members.fold_of_holds h hare hnone
  rw [Draft.recordOf, if_neg (Nat.succ_ne_zero l), ← h.start.mp hr₀]
  exact hyields

end

section

variable {levels : Nat} {expected : String} {claim : σ → String → Except Fault Unit}
  {take : σ → String → Draft → Except Located σ} {start : σ}
  {Holds : List (String × Draft) → σ → Prop}

/-- **Records.** An object is decoded as what the record holds of its members, which may go one
level less deep than the object. -/
theorem decodes_recordOf
    (h : ∀ l, levels = l + 1 → Takes (fun _ v => v.depth ≤ l) claim take start Holds) :
    Decodes levels (Draft.recordOf levels expected claim take start)
      fun d r => ∃ ms, d.HasMembers ms ∧ Holds ms r where
  sound := holds_of_recordOf fun l hl => ⟨_, h l hl⟩
  complete := by
    rintro d r ⟨ms, hmembers, hms⟩ hdepth
    obtain ⟨l, rfl⟩ : ∃ l, levels = l + 1 := ⟨levels - 1, by have := hmembers.depth_pos; omega⟩
    exact (yields_recordOf (h l rfl) hmembers hms).ok (hmembers.depth_le_iff.mp hdepth)
  deep := by
    rintro d r ⟨ms, hmembers, hms⟩ hdepth
    cases levels with
    | zero =>
      obtain ⟨members, rfl, -⟩ := hmembers
      rw [Draft.recordOf, if_pos rfl]
      exact tooDeep_here
    | succ l =>
      rw [← Nat.not_le, hmembers.depth_le_iff] at hdepth
      exact (yields_recordOf (h l rfl) hmembers hms).tooDeep hdepth

/-- A record that is finished when all members are taken. -/
theorem decodes_finished {finish : σ → Except Fault α} {P : List (String × Draft) → α → Prop}
    (h : ∀ l, levels = l + 1 → Takes (fun _ v => v.depth ≤ l) claim take start Holds)
    (hfinish : ∀ ms a, (∃ r, Holds ms r ∧ finish r = .ok a) ↔ P ms a) :
    Decodes levels
      (fun d => do
        let r ← d.recordOf levels expected claim take start
        placed (finish r))
      fun d a => ∃ ms, d.HasMembers ms ∧ P ms a := by
  refine ((decodes_recordOf h).bind fun r => placed (finish r)).congr fun d a => ?_
  simp only [placed_eq_ok_iff, ← hfinish]
  constructor
  · rintro ⟨r, ⟨ms, hms, hr⟩, ha⟩
    exact ⟨ms, hms, r, hr, ha⟩
  · rintro ⟨ms, hms, r, hr, ha⟩
    exact ⟨r, ⟨ms, hms, hr⟩, ha⟩

end

end NullLint.Json
