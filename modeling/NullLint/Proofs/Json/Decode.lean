import NullLint.Proofs.Json.Lexeme

set_option autoImplicit false
set_option relaxedAutoImplicit false

/-!
# What decoders find in drafts

What a decoder has to find is said as a relation between drafts and data. A decoder *decodes* the
relation if it gives no other data, gives the data of every draft that has some and is not nested
too deeply, and refuses a draft that has some for its depth alone if it is.

## Main definitions

* `Json.TooDeep` — a draft is refused for its depth.
* `Json.Decodes` — a decoder finds what a relation says; `Json.Yields` — what it comes to.
* `Json.Draft.IsText`, `Json.Draft.IsName`, `Json.Draft.IsNullOr`, `Json.Draft.IsListOf` — the
  shapes of data.

## Main results

* `Json.decodes_string`, `Json.decodes_nameOf`, `Json.decodes_optional`, `Json.decodes_listOf` —
  the decoders of the shapes.
-/

namespace NullLint.Json

variable {α β : Type}

/-! ## Depth -/

namespace Draft

theorem HasItems.depth_le_iff {d : Draft} {vs : List Draft} (h : d.HasItems vs) {l : Nat} :
    d.depth ≤ l + 1 ↔ ∀ v ∈ vs, v.depth ≤ l := by
  obtain ⟨items, rfl, hare⟩ := h
  rw [depth, Nat.add_le_add_iff_right]
  induction hare with
  | nil => simp [Items.depth]
  | cons _ ih => rw [Items.depth, Nat.max_le, ih, List.forall_mem_cons]

theorem HasItems.depth_pos {d : Draft} {vs : List Draft} (h : d.HasItems vs) : 0 < d.depth := by
  obtain ⟨items, rfl, -⟩ := h
  exact Nat.succ_pos _

theorem HasMembers.depth_le_iff {d : Draft} {ms : List (String × Draft)} (h : d.HasMembers ms)
    {l : Nat} : d.depth ≤ l + 1 ↔ ∀ m ∈ ms, m.2.depth ≤ l := by
  obtain ⟨members, rfl, hare⟩ := h
  rw [depth, Nat.add_le_add_iff_right]
  induction hare with
  | nil => simp [Members.depth]
  | cons _ _ ih => rw [Members.depth, Nat.max_le, ih, List.forall_mem_cons]

theorem HasMembers.depth_pos {d : Draft} {ms : List (String × Draft)} (h : d.HasMembers ms) :
    0 < d.depth := by
  obtain ⟨members, rfl, -⟩ := h
  exact Nat.succ_pos _

/-- The items of a list are nested less deep than the list. -/
theorem HasItems.depth_lt {d v : Draft} {vs : List Draft} (h : d.HasItems vs) (hv : v ∈ vs) :
    v.depth < d.depth := by
  obtain ⟨l, hl⟩ := Nat.exists_eq_succ_of_ne_zero (Nat.ne_of_gt h.depth_pos)
  rw [hl]
  exact Nat.lt_succ_of_le (h.depth_le_iff.mp (Nat.le_of_eq hl) v hv)

/-- The values of the members of an object are nested less deep than the object. -/
theorem HasMembers.depth_lt {d : Draft} {m : String × Draft} {ms : List (String × Draft)}
    (h : d.HasMembers ms) (hm : m ∈ ms) : m.2.depth < d.depth := by
  obtain ⟨l, hl⟩ := Nat.exists_eq_succ_of_ne_zero (Nat.ne_of_gt h.depth_pos)
  rw [hl]
  exact Nat.lt_succ_of_le (h.depth_le_iff.mp (Nat.le_of_eq hl) m hm)

/-- A list has one sequence of items. -/
theorem HasItems.unique {d : Draft} {vs ws : List Draft} (hvs : d.HasItems vs)
    (hws : d.HasItems ws) : vs = ws := by
  obtain ⟨items, rfl, hvs⟩ := hvs
  obtain ⟨_, ⟨⟩, hws⟩ := hws
  induction hvs generalizing ws with
  | nil =>
    cases hws
    rfl
  | cons _ ih =>
    cases hws with
    | cons hws => rw [ih hws]

/-- An object has one sequence of members. -/
theorem HasMembers.unique {d : Draft} {ms ns : List (String × Draft)} (hms : d.HasMembers ms)
    (hns : d.HasMembers ns) : ms = ns := by
  obtain ⟨members, rfl, hms⟩ := hms
  obtain ⟨_, ⟨⟩, hns⟩ := hns
  induction hms generalizing ns with
  | nil =>
    cases hns
    rfl
  | cons hkey _ ih =>
    cases hns with
    | cons hkey' hns => rw [ih hns, hkey.unique hkey']

end Draft

/-! ## Outcomes -/

section

variable {r : Except Located α} {a : α}

theorem within_eq_ok_iff {s : Step} : within s r = .ok a ↔ r = .ok a :=
  mapError_eq_ok_iff

theorem placed_eq_ok_iff {r : Except Fault α} : placed r = .ok a ↔ r = .ok a :=
  mapError_eq_ok_iff

/-- A draft is refused because it is nested too deeply. -/
def TooDeep (r : Except Located α) : Prop := ∃ e, r = .error e ∧ e.fault = .tooDeep

theorem tooDeep_here : TooDeep (here .tooDeep : Except Located α) := ⟨_, rfl, rfl⟩

theorem TooDeep.within (h : TooDeep r) (s : Step) : TooDeep (within s r) := by
  obtain ⟨e, rfl, he⟩ := h
  exact ⟨_, rfl, he⟩

theorem TooDeep.bind (h : TooDeep r) (f : α → Except Located β) : TooDeep (r >>= f) := by
  obtain ⟨e, rfl, he⟩ := h
  exact ⟨e, rfl, he⟩

theorem TooDeep.map (h : TooDeep r) (f : α → β) : TooDeep (r.map f) := by
  obtain ⟨e, rfl, he⟩ := h
  exact ⟨e, rfl, he⟩

/-- Two attempts in a row of which the first one succeeds. -/
theorem ok_bind (a : α) (f : α → Except Located β) : (Except.ok a >>= f) = f a := rfl

/-- An attempt whose data are changed. -/
theorem bind_pure_eq_map (g : α → β) : (do let a ← r; return g a) = r.map g := by
  cases r <;> rfl

theorem monadBind_eq_ok_iff {ε : Type} {r : Except ε α} {f : α → Except ε β} {b : β} :
    (r >>= f) = .ok b ↔ ∃ a, r = .ok a ∧ f a = .ok b :=
  bind_eq_ok_iff

end

/-- A decoder that may go `levels` deep finds the data that a relation says: it gives no others, and
for a draft that has some it gives them unless the draft is nested too deeply, which is then what
is wrong with it. -/
structure Decodes (levels : Nat) (f : Draft → Except Located α) (P : Draft → α → Prop) : Prop where
  sound : ∀ {d a}, f d = .ok a → P d a
  complete : ∀ {d a}, P d a → d.depth ≤ levels → f d = .ok a
  deep : ∀ {d a}, P d a → levels < d.depth → TooDeep (f d)

/-- An attempt comes to some data if the draft fits into the levels that are left; otherwise that is
what is wrong with it. -/
structure Yields (fits : Prop) (r : Except Located α) (a : α) : Prop where
  ok : fits → r = .ok a
  tooDeep : ¬fits → TooDeep r

section

variable {fits : Prop} {r : Except Located α} {a : α}

theorem Decodes.yields {levels : Nat} {f : Draft → Except Located α} {P : Draft → α → Prop}
    (h : Decodes levels f P) {d : Draft} (ha : P d a) : Yields (d.depth ≤ levels) (f d) a :=
  ⟨h.complete ha, fun hdepth => h.deep ha (Nat.lt_of_not_le hdepth)⟩

theorem Yields.within (h : Yields fits r a) (s : Step) : Yields fits (within s r) a :=
  ⟨fun hfits => within_eq_ok_iff.mpr (h.ok hfits), fun hfits => (h.tooDeep hfits).within s⟩

theorem Yields.map (h : Yields fits r a) (g : α → β) : Yields fits (r.map g) (g a) :=
  ⟨fun hfits => map_eq_ok_iff.mpr ⟨a, h.ok hfits, rfl⟩, fun hfits => (h.tooDeep hfits).map g⟩

theorem Yields.bind (h : Yields fits r a) {g : α → Except Located β} {b : β} (hg : g a = .ok b) :
    Yields fits (r >>= g) b :=
  ⟨fun hfits => monadBind_eq_ok_iff.mpr ⟨a, h.ok hfits, hg⟩,
    fun hfits => (h.tooDeep hfits).bind g⟩

/-- The same attempt, when what has to fit is said in another way. -/
theorem Yields.congr {fits' : Prop} (h : Yields fits r a) (hiff : fits ↔ fits') :
    Yields fits' r a :=
  ⟨fun hfits => h.ok (hiff.mpr hfits), fun hfits => h.tooDeep fun hf => hfits (hiff.mp hf)⟩

end

theorem Decodes.congr {levels : Nat} {f : Draft → Except Located α} {P Q : Draft → α → Prop}
    (h : Decodes levels f P) (hiff : ∀ d a, P d a ↔ Q d a) : Decodes levels f Q where
  sound hf := (hiff _ _).mp (h.sound hf)
  complete hq := h.complete ((hiff _ _).mpr hq)
  deep hq := h.deep ((hiff _ _).mpr hq)

/-- Data that are changed, or refused, after they are found. -/
theorem Decodes.bind {levels : Nat} {f : Draft → Except Located α} {P : Draft → α → Prop}
    (h : Decodes levels f P) (g : α → Except Located β) :
    Decodes levels (fun d => f d >>= g) fun d b => ∃ a, P d a ∧ g a = .ok b where
  sound hf := by
    obtain ⟨a, ha, hb⟩ := monadBind_eq_ok_iff.mp hf
    exact ⟨a, h.sound ha, hb⟩
  complete := by
    rintro d b ⟨a, ha, hb⟩ hdepth
    exact monadBind_eq_ok_iff.mpr ⟨a, h.complete ha hdepth, hb⟩
  deep := by
    rintro d b ⟨a, ha, -⟩ hdepth
    exact (h.deep ha hdepth).bind g

theorem Decodes.map {levels : Nat} {f : Draft → Except Located α} {P : Draft → α → Prop}
    (h : Decodes levels f P) (g : α → β) :
    Decodes levels (fun d => (f d).map g) fun d b => ∃ a, P d a ∧ g a = b where
  sound hf := by
    obtain ⟨a, ha, hb⟩ := map_eq_ok_iff.mp hf
    exact ⟨a, h.sound ha, hb⟩
  complete := by
    rintro d b ⟨a, ha, hb⟩ hdepth
    exact map_eq_ok_iff.mpr ⟨a, h.complete ha hdepth, hb⟩
  deep := by
    rintro d b ⟨a, ha, -⟩ hdepth
    exact (h.deep ha hdepth).map g

/-! ## Texts and names -/

/-- A draft is the string of a text. -/
def Draft.IsText (d : Draft) (s : String) : Prop := ∃ q, d = .quoted q ∧ q.Denotes s

theorem Draft.IsText.depth_eq {d : Draft} {s : String} (h : d.IsText s) : d.depth = 0 := by
  obtain ⟨q, rfl, -⟩ := h
  rfl

theorem decodes_string (levels : Nat) : Decodes levels Draft.string Draft.IsText where
  sound := by
    intro d s h
    cases d with
    | quoted q => exact ⟨q, rfl, Quoted.text_eq_ok_iff.mp (mapError_eq_ok_iff.mp h)⟩
    | _ => cases h
  complete := by
    rintro d s ⟨q, rfl, hq⟩ -
    exact mapError_eq_ok_iff.mpr (Quoted.text_eq_ok_iff.mpr hq)
  deep := by
    intro d s h hdepth
    rw [h.depth_eq] at hdepth
    exact absurd hdepth (Nat.not_lt_zero _)

theorem Draft.isNull_iff {d : Draft} : d.isNull = true ↔ d = .word .null none := by
  constructor
  · intro h
    unfold isNull at h
    split at h
    · rfl
    · cases h
  · rintro rfl
    rfl

/-- A draft is a name that stands for some data: the string of the name, or an object with the name
as its only key and `null` as the value. -/
def Draft.IsName (P : String → α → Prop) (d : Draft) (a : α) : Prop :=
  ∃ name, P name a ∧ (d.IsText name ∨ d.HasMembers [(name, .word .null none)])

/-- A name that is given as a string. -/
theorem nameOf_eq_ok_of_isText {levels : Nat} {f : String → Except Fault α} {d : Draft}
    {name : String} {a : α} (h : d.IsText name) (hf : f name = .ok a) :
    Draft.nameOf levels f d = .ok a := by
  obtain ⟨q, rfl, hq⟩ := h
  rw [Draft.nameOf, Quoted.text_eq_ok_iff.mpr hq]
  exact mapError_eq_ok_iff.mpr hf

/-- A name that is given as an object. -/
theorem nameOf_eq_ok_of_hasMembers {levels : Nat} {f : String → Except Fault α} {d : Draft}
    {name : String} {a : α} (h : d.HasMembers [(name, .word .null none)]) (hf : f name = .ok a) :
    Draft.nameOf (levels + 1) f d = .ok a := by
  obtain ⟨members, rfl, hare⟩ := h
  cases hare with
  | cons hkey hrest =>
    cases hrest
    simp only [Draft.nameOf, if_neg (Nat.succ_ne_zero _), Quoted.text_eq_ok_iff.mpr hkey]
    simp only [Except.mapError, ok_bind, hf]
    rfl

/-- A name is what the decoder of names finds. -/
theorem isName_of_nameOf {levels : Nat} {f : String → Except Fault α} {P : String → α → Prop}
    (hf : ∀ name a, f name = .ok a ↔ P name a) {d : Draft} {a : α}
    (h : Draft.nameOf levels f d = .ok a) : d.IsName P a := by
  cases d with
  | quoted q =>
    rw [Draft.nameOf, monadBind_eq_ok_iff] at h
    obtain ⟨name, hname, h⟩ := h
    have htext := Quoted.text_eq_ok_iff.mp (mapError_eq_ok_iff.mp hname)
    exact ⟨name, (hf _ _).mp (mapError_eq_ok_iff.mp h), Or.inl ⟨q, rfl, htext⟩⟩
  | object members =>
    simp only [Draft.nameOf] at h
    split at h
    · cases h
    · split at h
      · cases h
      · cases h
      · cases h
      · simp only [monadBind_eq_ok_iff] at h
        obtain ⟨_, _, _, _, h⟩ := h
        cases h
      · next key v rest =>
        simp only [monadBind_eq_ok_iff] at h
        obtain ⟨name, hname, a', ha, h⟩ := h
        split at h
        · next hnull =>
          split at h
          · cases h
            have htext := Quoted.text_eq_ok_iff.mp (mapError_eq_ok_iff.mp hname)
            refine ⟨name, (hf _ _).mp (mapError_eq_ok_iff.mp ha), Or.inr ⟨_, rfl, ?_⟩⟩
            rw [Draft.isNull_iff.mp hnull]
            exact Members.Are.cons htext Members.Are.nil
          · cases h
          · cases h
        · cases h
  | _ => cases h

theorem decodes_nameOf (levels : Nat) {f : String → Except Fault α} {P : String → α → Prop}
    (hf : ∀ name a, f name = .ok a ↔ P name a) :
    Decodes levels (Draft.nameOf levels f) (Draft.IsName P) where
  sound := isName_of_nameOf hf
  complete := by
    rintro d a ⟨name, hname, htext | hmembers⟩ hdepth
    · exact nameOf_eq_ok_of_isText htext ((hf _ _).mpr hname)
    · obtain ⟨l, rfl⟩ : ∃ l, levels = l + 1 :=
        ⟨levels - 1, by have := hmembers.depth_pos; omega⟩
      exact nameOf_eq_ok_of_hasMembers hmembers ((hf _ _).mpr hname)
  deep := by
    rintro d a ⟨name, hname, htext | hmembers⟩ hdepth
    · rw [htext.depth_eq] at hdepth
      exact absurd hdepth (Nat.not_lt_zero _)
    · have hzero : levels = 0 := by
        by_contra hne
        obtain ⟨l, rfl⟩ := Nat.exists_eq_succ_of_ne_zero hne
        refine Nat.not_le.mpr hdepth (hmembers.depth_le_iff.mpr fun m hm => ?_)
        rw [List.mem_singleton.mp hm]
        exact Nat.zero_le l
      obtain ⟨members, rfl, -⟩ := hmembers
      simp only [Draft.nameOf, if_pos hzero]
      exact tooDeep_here

/-! ## Null and lists -/

/-- A draft is `null`, or it has some data. -/
def Draft.IsNullOr (P : Draft → α → Prop) (d : Draft) (o : Option α) : Prop :=
  (d = .word .null none ∧ o = none) ∨ ∃ a, P d a ∧ o = some a

theorem decodes_optional {levels : Nat} {f : Draft → Except Located α} {P : Draft → α → Prop}
    (h : Decodes levels f P) (hnull : ∀ a, ¬P (.word .null none) a) :
    Decodes levels (Draft.optional f) (Draft.IsNullOr P) where
  sound := by
    intro d o hd
    rw [Draft.optional] at hd
    split at hd
    · next hisNull =>
      cases hd
      exact Or.inl ⟨Draft.isNull_iff.mp hisNull, rfl⟩
    · obtain ⟨a, ha, rfl⟩ := map_eq_ok_iff.mp hd
      exact Or.inr ⟨a, h.sound ha, rfl⟩
  complete := by
    rintro d o (⟨rfl, rfl⟩ | ⟨a, ha, rfl⟩) hdepth
    · rfl
    · have hisNull : ¬d.isNull = true := fun hd => hnull a (Draft.isNull_iff.mp hd ▸ ha)
      rw [Draft.optional, if_neg hisNull, h.complete ha hdepth]
      rfl
  deep := by
    rintro d o (⟨rfl, rfl⟩ | ⟨a, ha, rfl⟩) hdepth
    · exact absurd hdepth (Nat.not_lt_zero _)
    · have hisNull : ¬d.isNull = true := fun hd => hnull a (Draft.isNull_iff.mp hd ▸ ha)
      rw [Draft.optional, if_neg hisNull]
      exact (h.deep ha hdepth).map some

/-- A draft is a list whose items have some data each. -/
def Draft.IsListOf (P : Draft → α → Prop) (d : Draft) (as : List α) : Prop :=
  ∃ ds, d.HasItems ds ∧ List.Forall₂ P ds as

section

variable {l : Nat} {f : Draft → Except Located α} {P : Draft → α → Prop}

theorem ListStop.fault?_eq_none_iff {stop : ListStop} : stop.fault? = none ↔ stop = .closed := by
  cases stop <;> simp [fault?]

/-- The items of a list are the data that the decoder of items finds. -/
theorem Items.forall₂_of_decode (h : Decodes l f P) : ∀ (items : Items) {i : Nat} {as : List α},
    items.decode f i = .ok as → ∃ ds, items.Are ds ∧ List.Forall₂ P ds as
  | .stop s, i, as, hd => by
    rw [decode] at hd
    split at hd
    · next hstop =>
      cases hd
      rw [ListStop.fault?_eq_none_iff.mp hstop]
      exact ⟨[], Items.Are.nil, List.Forall₂.nil⟩
    · cases hd
  | .item v rest, i, as, hd => by
    simp only [decode, monadBind_eq_ok_iff, within_eq_ok_iff] at hd
    obtain ⟨a, ha, as', has', hd⟩ := hd
    cases hd
    obtain ⟨ds, hare, hds⟩ := rest.forall₂_of_decode h has'
    exact ⟨v :: ds, Items.Are.cons hare, List.Forall₂.cons (h.sound ha) hds⟩

/-- Items that are not nested too deeply are all decoded. -/
theorem Items.decode_eq_ok (h : Decodes l f P) {items : Items} {ds : List Draft} {as : List α}
    (hare : items.Are ds) (has : List.Forall₂ P ds as) (hdepth : ∀ d ∈ ds, d.depth ≤ l)
    (i : Nat) : items.decode f i = .ok as := by
  induction hare generalizing as i with
  | nil =>
    cases has
    rfl
  | cons _ ih =>
    cases has with
    | cons ha has =>
      obtain ⟨hv, hds⟩ := List.forall_mem_cons.mp hdepth
      simp only [decode, h.complete ha hv, ih has hds]
      rfl

/-- An item that is nested too deeply is refused, and so is the list. -/
theorem Items.tooDeep_decode (h : Decodes l f P) {items : Items} {ds : List Draft} {as : List α}
    (hare : items.Are ds) (has : List.Forall₂ P ds as) (hdepth : ¬∀ d ∈ ds, d.depth ≤ l)
    (i : Nat) : TooDeep (items.decode f i) := by
  induction hare generalizing as i with
  | nil => exact absurd (List.forall_mem_nil _) hdepth
  | @cons v rest ds hare ih =>
    cases has with
    | cons ha has =>
      rw [decode]
      by_cases hv : v.depth ≤ l
      · have hds : ¬∀ d ∈ ds, d.depth ≤ l := fun hds =>
          hdepth (List.forall_mem_cons.mpr ⟨hv, hds⟩)
        rw [h.complete ha hv]
        exact (ih has hds (i + 1)).bind _
      · exact ((h.deep ha (Nat.lt_of_not_le hv)).within _).bind _

end

/-- A list is decoded item by item. The items may go one level less deep than the list. -/
theorem decodes_listOf {levels : Nat} {f : Draft → Except Located α} {P : Draft → α → Prop}
    (h : ∀ l, levels = l + 1 → Decodes l f P) :
    Decodes levels (Draft.listOf levels f) (Draft.IsListOf P) where
  sound := by
    intro d as hd
    cases d with
    | list items =>
      rw [Draft.listOf] at hd
      split at hd
      · cases hd
      · next hne =>
        obtain ⟨l, rfl⟩ := Nat.exists_eq_succ_of_ne_zero hne
        obtain ⟨ds, hare, has⟩ := items.forall₂_of_decode (h l rfl) hd
        exact ⟨ds, ⟨items, rfl, hare⟩, has⟩
    | _ => cases hd
  complete := by
    rintro d as ⟨ds, hitems, has⟩ hdepth
    obtain ⟨l, rfl⟩ : ∃ l, levels = l + 1 := ⟨levels - 1, by have := hitems.depth_pos; omega⟩
    have hds := hitems.depth_le_iff.mp hdepth
    obtain ⟨items, rfl, hare⟩ := hitems
    rw [Draft.listOf, if_neg (Nat.succ_ne_zero l)]
    exact Items.decode_eq_ok (h l rfl) hare has hds 0
  deep := by
    rintro d as ⟨ds, hitems, has⟩ hdepth
    cases levels with
    | zero =>
      obtain ⟨items, rfl, -⟩ := hitems
      rw [Draft.listOf, if_pos rfl]
      exact tooDeep_here
    | succ l =>
      rw [← Nat.not_le, hitems.depth_le_iff] at hdepth
      obtain ⟨items, rfl, hare⟩ := hitems
      rw [Draft.listOf, if_neg (Nat.succ_ne_zero l)]
      exact Items.tooDeep_decode (h l rfl) hare has hdepth 0

end NullLint.Json
