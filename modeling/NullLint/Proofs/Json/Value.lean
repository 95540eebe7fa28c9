import NullLint.Proofs.Json.Record

set_option autoImplicit false
set_option relaxedAutoImplicit false

/-!
# Drafts as values

A draft is decoded as the value that its syntax tree stands for: a list as the values of its items,
and an object as the values of its members, in their order and with all that are given twice.

## Main definitions

* `Json.Draft.IsLeaf` — a draft that is neither a list nor an object.

## Main results

* `Json.decodes_value` — **a draft is decoded as its value.**
* `Json.Draft.Denotes.unique` — a draft has one value at most.
* `Json.takes_value`, `Json.takes_skipped` — members that are kept as values, and that are skipped.
* `Json.Draft.skip_of_isSpelled`, `Json.Draft.IsValue.skip` — what follows the grammar can be
  skipped, and so can what has a value.
-/

namespace NullLint.Json

/-! ## Drafts without items or members -/

namespace Draft

/-- A draft that is neither a list nor an object. -/
def IsLeaf : Draft → Prop
  | .list _ => False
  | .object _ => False
  | _ => True

theorem IsLeaf.depth_eq {d : Draft} (h : d.IsLeaf) : d.depth = 0 := by
  cases d <;> first | rfl | exact absurd h id

theorem IsLeaf.not_hasItems {d : Draft} (h : d.IsLeaf) (vs : List Draft) : ¬d.HasItems vs := by
  rintro ⟨items, rfl, -⟩
  exact h

theorem IsLeaf.not_hasMembers {d : Draft} (h : d.IsLeaf) (ms : List (String × Draft)) :
    ¬d.HasMembers ms := by
  rintro ⟨members, rfl, -⟩
  exact h

/-- The value of a word, a numeral or a string. -/
theorem value_eq_ok_iff_of_isLeaf {d : Draft} (h : d.IsLeaf) (levels : Nat) {v : Value} :
    d.value levels = .ok v ↔ d.Denotes v := by
  constructor
  · intro hd
    cases d with
    | missing => simp [value, here] at hd
    | stray => simp [value, here] at hd
    | word w stop =>
      cases stop with
      | some e => simp [value, here] at hd
      | none =>
        cases w <;> (simp only [value, Except.ok.injEq] at hd; subst hd)
        · exact Denotes.null
        · exact Denotes.true
        · exact Denotes.false
    | numeral n =>
      rw [value, map_eq_ok_iff] at hd
      obtain ⟨x, hx, rfl⟩ := hd
      cases n with
      | error e => cases hx
      | ok n =>
        rw [mapError_eq_ok_iff, Numeral.number] at hx
        split at hx
        · next hvalue =>
          cases hx
          exact Denotes.number hvalue
        · cases hx
    | quoted q =>
      rw [value, map_eq_ok_iff] at hd
      obtain ⟨s, hs, rfl⟩ := hd
      exact Denotes.string (Quoted.text_eq_ok_iff.mp (mapError_eq_ok_iff.mp hs))
    | list => exact absurd h id
    | object => exact absurd h id
  · intro hd
    cases hd with
    | null => simp [value]
    | true => simp [value]
    | false => simp [value]
    | number hvalue => simp [value, Numeral.number, hvalue, Except.map, Except.mapError]
    | string hq =>
      rw [value, Quoted.text_eq_ok_iff.mpr hq]
      rfl
    | array hitems => exact absurd hitems (h.not_hasItems _)
    | object hmembers => exact absurd hmembers (h.not_hasMembers _)

/-- Takes one member into an object. -/
def takeValue (levels : Nat) (vs : List (String × Value)) (name : String) (v : Draft) :
    Except Located (List (String × Value)) := do
  let w ← within (.key name) (v.value levels)
  return vs ++ [(name, w)]

theorem value_list (levels : Nat) (items : Items) :
    (list items).value levels =
      ((list items).listOf levels (value (levels - 1))).map .array := by
  cases levels with
  | zero => simp [value, listOf, here, Except.map]
  | succ l => simp [value, listOf]

theorem value_object (levels : Nat) (members : Members) :
    (object members).value levels =
      ((object members).recordOf levels "" (fun _ _ => .ok ()) (takeValue (levels - 1)) []).map
        .object := by
  cases levels with
  | zero => simp [value, recordOf, here, Except.map]
  | succ l =>
    simp only [value, recordOf, if_neg (Nat.succ_ne_zero l), Nat.add_sub_cancel]
    rfl

theorem denotes_list_iff {items : Items} {v : Value} :
    (list items).Denotes v ↔ ∃ vs, (list items).IsListOf Denotes vs ∧ .array vs = v := by
  constructor
  · intro h
    cases h with
    | array hitems hvs => exact ⟨_, ⟨_, hitems, hvs⟩, rfl⟩
    | object hmembers =>
      obtain ⟨members, hlist, -⟩ := hmembers
      cases hlist
  · rintro ⟨vs, ⟨ds, hitems, hvs⟩, rfl⟩
    exact Denotes.array hitems hvs

theorem denotes_object_iff {members : Members} {v : Value} :
    (object members).Denotes v ↔
      ∃ vs, (∃ ms, (object members).HasMembers ms ∧ MembersDenote ms vs) ∧ .object vs = v := by
  constructor
  · intro h
    cases h with
    | array hitems =>
      obtain ⟨items, hobject, -⟩ := hitems
      cases hobject
    | object hmembers hnames hvs =>
      exact ⟨_, ⟨_, hmembers, membersRelate_iff.mpr ⟨hnames, hvs⟩⟩, rfl⟩
  · rintro ⟨vs, ⟨ms, hmembers, hvs⟩, rfl⟩
    obtain ⟨hnames, hvs⟩ := membersRelate_iff.mp hvs
    exact Denotes.object hmembers hnames hvs

end Draft

/-- Members are taken into an object as their values. -/
theorem takes_value {l : Nat} (h : Decodes l (Draft.value l) Draft.Denotes) :
    Takes (fun _ v => v.depth ≤ l) (fun _ _ => .ok ()) (Draft.takeValue l) [] MembersDenote where
  start := by
    intro r
    rw [MembersDenote, MembersRelate, List.forall₂_nil_left_iff]
  sound := by
    intro ms r name v r' hr _ htake
    rw [Draft.takeValue, monadBind_eq_ok_iff] at htake
    obtain ⟨w, hw, htake⟩ := htake
    cases htake
    exact membersDenote_append_iff.mpr ⟨r, w, hr, h.sound (within_eq_ok_iff.mp hw), rfl⟩
  complete := by
    intro ms name v r' hr'
    obtain ⟨vs, w, hvs, hw, rfl⟩ := membersDenote_append_iff.mp hr'
    exact ⟨vs, hvs, rfl, ((h.yields hw).within _).bind rfl⟩

/-- Values are decoded if those inside of them are. -/
theorem decodes_value_of {levels : Nat}
    (h : ∀ l, levels = l + 1 → Decodes l (Draft.value (levels - 1)) Draft.Denotes) :
    Decodes levels (Draft.value levels) Draft.Denotes := by
  have hmembers : ∀ l, levels = l + 1 → Takes (fun _ v => v.depth ≤ l) (fun _ _ => .ok ())
      (Draft.takeValue (levels - 1)) [] MembersDenote := by
    rintro l rfl
    exact takes_value (h l rfl)
  have hlist := (decodes_listOf h).map Value.array
  have hobject := (@decodes_recordOf _ levels "" _ _ _ _ hmembers).map Value.object
  refine ⟨fun {d v} hd => ?_, fun {d v} hv hdepth => ?_, fun {d v} hv hdepth => ?_⟩
  · by_cases hleaf : d.IsLeaf
    · exact (Draft.value_eq_ok_iff_of_isLeaf hleaf levels).mp hd
    · cases d with
      | list items =>
        rw [Draft.value_list] at hd
        exact Draft.denotes_list_iff.mpr (hlist.sound hd)
      | object members =>
        rw [Draft.value_object] at hd
        exact Draft.denotes_object_iff.mpr (hobject.sound hd)
      | _ => exact absurd trivial hleaf
  · by_cases hleaf : d.IsLeaf
    · exact (Draft.value_eq_ok_iff_of_isLeaf hleaf levels).mpr hv
    · cases d with
      | list items =>
        rw [Draft.value_list]
        exact hlist.complete (Draft.denotes_list_iff.mp hv) hdepth
      | object members =>
        rw [Draft.value_object]
        exact hobject.complete (Draft.denotes_object_iff.mp hv) hdepth
      | _ => exact absurd trivial hleaf
  · cases d with
    | list items =>
      rw [Draft.value_list]
      exact hlist.deep (Draft.denotes_list_iff.mp hv) hdepth
    | object members =>
      rw [Draft.value_object]
      exact hobject.deep (Draft.denotes_object_iff.mp hv) hdepth
    | _ => exact absurd hdepth (Nat.not_lt_zero _)

/-- **Values.** A draft is decoded as its value.

**Proof sketch.** Induction on the levels that are left. A word, a numeral or a string takes none; a
list and an object take one and leave the rest to what they hold. -/
theorem decodes_value (levels : Nat) : Decodes levels (Draft.value levels) Draft.Denotes := by
  induction levels with
  | zero => exact decodes_value_of fun l hl => absurd hl.symm (Nat.succ_ne_zero l)
  | succ l ih =>
    refine decodes_value_of fun l' hl => ?_
    cases hl
    exact ih

/-- A draft has one value at most. -/
theorem Draft.Denotes.unique {d : Draft} {v w : Value} (hv : d.Denotes v) (hw : d.Denotes w) :
    v = w := by
  have h := (decodes_value d.depth).complete hv (Nat.le_refl _)
  rw [(decodes_value d.depth).complete hw (Nat.le_refl _)] at h
  cases h
  rfl

/-- Items have values if each of them has one. -/
theorem exists_forall₂_denotes_iff {vs : List Draft} :
    (∃ ws, List.Forall₂ Draft.Denotes vs ws) ↔ ∀ v ∈ vs, v.IsValue := by
  induction vs with
  | nil => exact iff_of_true ⟨[], .nil⟩ (List.forall_mem_nil _)
  | cons v vs ih =>
    rw [List.forall_mem_cons, ← ih]
    constructor
    · rintro ⟨_, h⟩
      cases h with
      | cons hv hvs => exact ⟨⟨_, hv⟩, _, hvs⟩
    · rintro ⟨⟨w, hw⟩, ws, hws⟩
      exact ⟨w :: ws, .cons hw hws⟩

/-- A list has a value if each of its items has one. -/
theorem Draft.HasItems.isValue_iff {d : Draft} {vs : List Draft} (h : d.HasItems vs) :
    d.IsValue ↔ ∀ v ∈ vs, v.IsValue := by
  rw [← exists_forall₂_denotes_iff]
  constructor
  · rintro ⟨w, hw⟩
    obtain ⟨items, rfl, -⟩ := id h
    obtain ⟨ws, ⟨vs', hvs', hws⟩, -⟩ := Draft.denotes_list_iff.mp hw
    exact ⟨ws, h.unique hvs' ▸ hws⟩
  · rintro ⟨ws, hws⟩
    exact ⟨_, .array h hws⟩

/-- An object has a value if the value of each of its members has one. -/
theorem Draft.HasMembers.isValue_iff {d : Draft} {ms : List (String × Draft)}
    (h : d.HasMembers ms) : d.IsValue ↔ ∀ m ∈ ms, m.2.IsValue := by
  rw [← exists_membersDenote_iff]
  constructor
  · rintro ⟨w, hw⟩
    obtain ⟨members, rfl, -⟩ := id h
    obtain ⟨ws, ⟨ms', hms', hws⟩, -⟩ := Draft.denotes_object_iff.mp hw
    exact ⟨ws, h.unique hms' ▸ hws⟩
  · rintro ⟨ws, hws⟩
    obtain ⟨hnames, hws⟩ := membersRelate_iff.mp hws
    exact ⟨_, .object h hnames hws⟩

/-! ## Values that are not used -/

mutual

/-- A value that follows the grammar can be skipped, whatever it stands for. -/
theorem Draft.skip_of_isSpelled : ∀ (d : Draft) {s : List Char}, d.IsSpelled s → d.skip = .ok ()
  | .missing, _, h => by cases h
  | .stray, _, h => by cases h
  | .word _ _, _, h => by
    cases h
    rfl
  | .numeral _, _, h => by
    cases h
    rfl
  | .quoted _, _, h => by
    cases h with
    | quoted h =>
      rw [Draft.skip, h.1]
      rfl
  | .list items, _, h => by
    rw [Draft.skip]
    cases h with
    | emptyList => rfl
    | list h => exact items.skip_of_isSpelled h
  | .object members, _, h => by
    rw [Draft.skip]
    cases h with
    | emptyObject => rfl
    | object h => exact members.skip_of_isSpelled h

theorem Items.skip_of_isSpelled : ∀ (items : Items) {s : List Char},
    items.IsSpelled s → items.skip = .ok ()
  | .stop _, _, h => by cases h
  | .item v rest, _, h => by
    cases h with
    | last _ h _ =>
      rw [Items.skip, v.skip_of_isSpelled h]
      rfl
    | cons _ h _ hrest =>
      rw [Items.skip, v.skip_of_isSpelled h, rest.skip_of_isSpelled hrest]
      rfl

theorem Members.skip_of_isSpelled : ∀ (members : Members) {s : List Char},
    members.IsSpelled s → members.skip = .ok ()
  | .stop _, _, h => by cases h
  | .notKey _, _, h => by cases h
  | .noValue _ _, _, h => by cases h
  | .member key v rest, _, h => by
    cases h with
    | last _ hkey _ _ h _ =>
      rw [Members.skip, hkey.1, v.skip_of_isSpelled h]
      rfl
    | cons _ hkey _ _ h _ hrest =>
      rw [Members.skip, hkey.1, v.skip_of_isSpelled h, rest.skip_of_isSpelled hrest]
      rfl

end

theorem noFault_eq_ok_iff {f : Option Fault} : noFault f = .ok () ↔ f = none := by
  cases f <;> simp [noFault]

theorem Items.skip_item_iff {v : Draft} {rest : Items} :
    (Items.item v rest).skip = .ok () ↔ v.skip = .ok () ∧ rest.skip = .ok () := by
  rw [Items.skip, monadBind_eq_ok_iff]
  exact ⟨fun ⟨_, hv, hrest⟩ => ⟨hv, hrest⟩, fun ⟨hv, hrest⟩ => ⟨(), hv, hrest⟩⟩

theorem Members.skip_member_iff {key : Quoted} {v : Draft} {rest : Members} :
    (Members.member key v rest).skip = .ok () ↔
      key.stop = .closed ∧ v.skip = .ok () ∧ rest.skip = .ok () := by
  rw [Members.skip, monadBind_eq_ok_iff, ← QuotedStop.fault?_eq_none_iff, ← noFault_eq_ok_iff]
  simp only [monadBind_eq_ok_iff]
  exact ⟨fun ⟨_, hkey, _, hv, hrest⟩ => ⟨hkey, hv, hrest⟩,
    fun ⟨hkey, hv, hrest⟩ => ⟨(), hkey, (), hv, hrest⟩⟩

/-- A list can be skipped if its items can. -/
theorem Draft.HasItems.skip_iff {d : Draft} {vs : List Draft} (h : d.HasItems vs) :
    d.skip = .ok () ↔ ∀ v ∈ vs, v.skip = .ok () := by
  obtain ⟨items, rfl, hare⟩ := h
  rw [Draft.skip]
  induction hare with
  | nil => exact iff_of_true rfl (List.forall_mem_nil _)
  | cons _ ih => rw [Items.skip_item_iff, ih, List.forall_mem_cons]

/-- An object can be skipped if the values of its members can. -/
theorem Draft.HasMembers.skip_iff {d : Draft} {ms : List (String × Draft)}
    (h : d.HasMembers ms) : d.skip = .ok () ↔ ∀ m ∈ ms, m.2.skip = .ok () := by
  obtain ⟨members, rfl, hare⟩ := h
  rw [Draft.skip]
  induction hare with
  | nil => exact iff_of_true rfl (List.forall_mem_nil _)
  | cons hkey _ ih =>
    rw [Members.skip_member_iff, ih, List.forall_mem_cons, and_iff_right hkey.1]

/-- A draft that has a value can be skipped.

**Proof sketch.** Induction on the depth, for a list and an object. A word, a numeral or a string
that stands for something is whole. -/
theorem Draft.IsValue.skip {d : Draft} (h : d.IsValue) : d.skip = .ok () := by
  induction hn : d.depth using Nat.strongRecOn generalizing d with
  | ind n ih =>
    obtain ⟨v, hv⟩ := id h
    cases hv with
    | null | true | false | number => rfl
    | string hq =>
      rw [Draft.skip, hq.1]
      rfl
    | array hitems =>
      refine hitems.skip_iff.mpr fun w hw => ?_
      exact ih _ (hn ▸ hitems.depth_lt hw) (hitems.isValue_iff.mp h w hw) rfl
    | object hmembers =>
      refine hmembers.skip_iff.mpr fun m hm => ?_
      exact ih _ (hn ▸ hmembers.depth_lt hm) (hmembers.isValue_iff.mp h m hm) rfl

/-- Skips a member. -/
def Draft.takeSkipped (_ : Unit) (name : String) (v : Draft) : Except Located Unit :=
  within (.key name) (placed v.skip)

/-- Members are skipped at any depth. -/
theorem takes_skipped : Takes (fun _ _ => True) (fun _ _ => .ok ()) Draft.takeSkipped ()
    fun ms _ => ∀ m ∈ ms, m.2.skip = .ok () where
  start := iff_of_true (List.forall_mem_nil _) rfl
  sound := by
    intro ms _ name v _ hms _ htake
    rw [Draft.takeSkipped, within_eq_ok_iff, placed_eq_ok_iff] at htake
    exact List.forall_mem_append.mpr ⟨hms, List.forall_mem_singleton.mpr htake⟩
  complete := by
    intro ms name v _ h
    obtain ⟨hms, hv⟩ := List.forall_mem_append.mp h
    refine ⟨(), hms, rfl, fun _ => ?_, fun hfits => absurd trivial hfits⟩
    exact within_eq_ok_iff.mpr (placed_eq_ok_iff.mpr (hv _ (List.mem_singleton_self _)))

end NullLint.Json
