import Mathlib.Data.List.Perm.Basic
import NullLint.Proofs.Syntax.Dump.Decode

set_option autoImplicit false
set_option relaxedAutoImplicit false

/-!
# Documents that say the same

Two documents say the same of a tree if they differ only in the order of members, in members that no
field takes, and in the way strings are written. Blanks are not part of a syntax tree.

## Main definitions

* `Syntax.Alike`, `Syntax.AlikeDumps` — two drafts say the same, as a part of a dump and as a dump.
* `Syntax.Respects` — a relation holds of all drafts that say the same as one it holds of.

## Main results

* `Syntax.respects_isNode` — **what says the same as a node is that node.**
* `Syntax.isDump_iff_of_alike` — two documents that say the same are the same dumps.

## Design

The relation does not ask which part of a node a draft is. So only names that no part has a field
for may be added, and only to an object with a line and a column: an object that stands for a name
has exactly one member, and one more would make it something else.
-/

namespace NullLint.Syntax

open Json

/-! ## Members of other names -/

/-- The names of the fields of nodes and of their parts. -/
def fieldNames : List String :=
  ["line", "column", "kind", "ident", "type", "modifiers", "annotations", "children", "text", "tag",
    "name"]

/-- Members that may be added to those of a part: values of names that no field has. -/
def Addable (kept added : List (String × Draft)) : Prop :=
  added = [] ∨ ("line" ∈ kept.map Prod.fst ∧ "column" ∈ kept.map Prod.fst ∧
    ∀ m ∈ added, m.1 ∉ fieldNames ∧ m.2.IsValue)

/-- Two drafts say the same, whatever part of a node they are. -/
inductive Alike : Draft → Draft → Prop
  | same (d : Draft) : Alike d d
  | text {d d' : Draft} {s : String} (hd : d.IsText s) (hd' : d'.IsText s) : Alike d d'
  | list {d d' : Draft} {vs vs' : List Draft} (hd : d.HasItems vs) (hd' : d'.HasItems vs')
      (h : List.Forall₂ Alike vs vs') : Alike d d'
  | object {d d' : Draft} {ms ms' kept kept' added added' : List (String × Draft)}
      (hd : d.HasMembers ms) (hd' : d'.HasMembers ms') (hms : ms.Perm (kept ++ added))
      (hms' : ms'.Perm (kept' ++ added')) (hnames : kept.map Prod.fst = kept'.map Prod.fst)
      (h : List.Forall₂ Alike (kept.map Prod.snd) (kept'.map Prod.snd))
      (hadded : Addable kept added) (hadded' : Addable kept' added') : Alike d d'

/-- Two drafts say the same as dumps. Members of other names than `path` and `root` do not count. -/
inductive AlikeDumps : Draft → Draft → Prop
  | same (d : Draft) : AlikeDumps d d
  | pair {d d' : Draft} {vs vs' : List Draft} (hd : d.HasItems vs) (hd' : d'.HasItems vs')
      (h : List.Forall₂ Alike vs vs') : AlikeDumps d d'
  | object {d d' : Draft} {ms ms' : List (String × Draft)} (hd : d.HasMembers ms)
      (hd' : d'.HasMembers ms')
      (hpath : List.Forall₂ Alike (valuesOf "path" ms) (valuesOf "path" ms'))
      (hroot : List.Forall₂ Alike (valuesOf "root" ms) (valuesOf "root" ms')) : AlikeDumps d d'

/-- The members of two objects that say the same: they are related up to their order and to members
that may be added. -/
def MembersAlike (R : Draft → Draft → Prop) (ms ms' : List (String × Draft)) : Prop :=
  ∃ kept kept' added added', ms.Perm (kept ++ added) ∧ ms'.Perm (kept' ++ added') ∧
    MembersRelate R kept kept' ∧ Addable kept added ∧ Addable kept' added'

/-- The induction over two drafts that say the same. -/
theorem Alike.induction {C : Draft → Draft → Prop} (same : ∀ d, C d d)
    (text : ∀ {d d' s}, d.IsText s → d'.IsText s → C d d')
    (list : ∀ {d d' vs vs'}, d.HasItems vs → d'.HasItems vs' → List.Forall₂ C vs vs' → C d d')
    (object : ∀ {d d' ms ms'}, d.HasMembers ms → d'.HasMembers ms' →
      MembersAlike (fun v v' => Alike v v' ∧ C v v') ms ms' → C d d')
    {d d' : Draft} (h : Alike d d') : C d d' := by
  refine @Alike.rec (fun d d' _ => C d d')
    (fun vs vs' _ => List.Forall₂ (fun v v' => Alike v v' ∧ C v v') vs vs') same
    (fun hd hd' => text hd hd') ?_ ?_ .nil (fun h _ ih ihs => .cons ⟨h, ih⟩ ihs) d d' h
  · intro d d' vs vs' hd hd' _ ih
    exact list hd hd' (ih.imp fun _ _ => And.right)
  · intro d d' ms ms' kept kept' added added' hd hd' hms hms' hnames _ hadded hadded' ih
    exact object hd hd'
      ⟨kept, kept', added, added', hms, hms', membersRelate_iff.mpr ⟨hnames, ih⟩, hadded, hadded'⟩

/-! ## Members that say the same -/

theorem perm_valuesOf {ms ms' : List (String × Draft)} (h : ms.Perm ms') (name : String) :
    (valuesOf name ms).Perm (valuesOf name ms') :=
  (h.filter _).map _

section

variable {α : Type} {R S : Draft → Draft → Prop} {ms ms' : List (String × Draft)} {name : String}

theorem MembersAlike.refl (hR : ∀ v, R v v) (ms : List (String × Draft)) : MembersAlike R ms ms :=
  ⟨ms, ms, [], [], by simp, by simp, List.forall₂_same.mpr fun _ _ => ⟨rfl, hR _⟩, Or.inl rfl,
    Or.inl rfl⟩

theorem MembersAlike.mono (hRS : ∀ {v v'}, R v v' → S v v') (h : MembersAlike R ms ms') :
    MembersAlike S ms ms' := by
  obtain ⟨kept, kept', added, added', hms, hms', hkept, hadded, hadded'⟩ := h
  exact ⟨kept, kept', added, added', hms, hms', hkept.imp fun _ _ => And.imp_right hRS, hadded,
    hadded'⟩

theorem Addable.valuesOf_eq_nil {kept added : List (String × Draft)} (h : Addable kept added)
    (hname : name ∈ fieldNames) : valuesOf name added = [] := by
  rcases h with rfl | ⟨-, -, hadded⟩
  · rfl
  · rw [valuesOf, List.map_eq_nil_iff, List.filter_eq_nil_iff]
    intro m hm hmname
    exact (hadded m hm).1 (of_decide_eq_true hmname ▸ hname)

/-- Nothing can be added to members that are all of one name. -/
theorem Addable.eq_nil {kept added : List (String × Draft)} (h : Addable kept added)
    (hnames : ∀ n ∈ kept.map Prod.fst, n = name) : added = [] := by
  rcases h with rfl | ⟨hline, hcolumn, -⟩
  · rfl
  · exact absurd ((hnames _ hline).trans (hnames _ hcolumn).symm) (by decide)

/-- The values of a field are the same up to their order and to what members say. -/
theorem MembersAlike.exists_valuesOf (h : MembersAlike R ms ms') (hname : name ∈ fieldNames) :
    ∃ kept kept', (valuesOf name ms).Perm (valuesOf name kept) ∧
      (valuesOf name ms').Perm (valuesOf name kept') ∧
        List.Forall₂ R (valuesOf name kept) (valuesOf name kept') := by
  obtain ⟨kept, kept', added, added', hms, hms', hkept, hadded, hadded'⟩ := h
  refine ⟨kept, kept', ?_, ?_, hkept.forall₂_valuesOf name⟩
  · have hperm := perm_valuesOf hms name
    rwa [valuesOf_append, hadded.valuesOf_eq_nil hname, List.append_nil] at hperm
  · have hperm := perm_valuesOf hms' name
    rwa [valuesOf_append, hadded'.valuesOf_eq_nil hname, List.append_nil] at hperm

/-- A field holds the same data if its values are the same up to what they say. -/
theorem field_of_forall₂ {P : Draft → α → Prop} {o : Option α}
    (hR : ∀ {v v' a}, R v v' → P v a → P v' a)
    (h : List.Forall₂ R (valuesOf name ms) (valuesOf name ms')) (hfield : Field name P ms o) :
    Field name P ms' o := by
  cases hfield with
  | absent hnil =>
    rw [hnil, List.forall₂_nil_left_iff] at h
    exact Field.absent h
  | given hsingle ha =>
    rw [hsingle] at h
    obtain ⟨v', _, hv, hnil, hvalues⟩ := List.forall₂_cons_left_iff.mp h
    cases hnil
    exact Field.given hvalues (hR hv ha)

/-- A field does not depend on the order of members. -/
theorem field_of_perm {P : Draft → α → Prop} {o : Option α}
    (h : (valuesOf name ms).Perm (valuesOf name ms')) (hfield : Field name P ms o) :
    Field name P ms' o := by
  cases hfield with
  | absent hnil =>
    rw [hnil] at h
    exact Field.absent h.nil_eq.symm
  | given hsingle ha =>
    rw [hsingle] at h
    exact Field.given (List.singleton_perm.mp h).symm ha

/-- A field holds the same data in objects that say the same. -/
theorem MembersAlike.field {P : Draft → α → Prop} {o : Option α} (h : MembersAlike R ms ms')
    (hname : name ∈ fieldNames) (hR : ∀ {v v' a}, R v v' → P v a → P v' a)
    (hfield : Field name P ms o) : Field name P ms' o := by
  obtain ⟨kept, kept', hkept, hkept', hrelated⟩ := h.exists_valuesOf hname
  exact field_of_perm hkept'.symm (field_of_forall₂ hR hrelated (field_of_perm hkept hfield))

/-- Members of other names are values in objects that say the same. -/
theorem MembersAlike.othersAre {known : List String} (h : MembersAlike R ms ms')
    (hR : ∀ {v v'}, R v v' → v.IsValue → v'.IsValue) (hothers : OthersAre Draft.IsValue known ms) :
    OthersAre Draft.IsValue known ms' := by
  obtain ⟨kept, kept', added, added', hms, hms', hkept, -, hadded'⟩ := h
  intro m' hm' hknown
  rcases List.mem_append.mp (hms'.mem_iff.mp hm') with hmem | hmem
  · obtain ⟨m, hm, hname, hv⟩ := exists_of_forall₂_of_mem hkept hmem
    exact hR hv (hothers m (hms.mem_iff.mpr (List.mem_append_left _ hm)) (hname ▸ hknown))
  · rcases hadded' with rfl | ⟨-, -, hvalues⟩
    · cases hmem
    · exact (hvalues m' hmem).2

end

/-! ## Leaves -/

section

variable {α : Type} {d d' : Draft}

theorem Alike.symm (h : Alike d d') : Alike d' d := by
  refine Alike.induction (C := fun d d' => Alike d' d) Alike.same (fun hd hd' => .text hd' hd)
    (fun hd hd' h => .list hd' hd h.flip) ?_ h
  rintro d d' ms ms' hd hd' ⟨kept, kept', added, added', hms, hms', hkept, hadded, hadded'⟩
  obtain ⟨hnames, h⟩ := membersRelate_iff.mp hkept
  exact .object hd' hd hms' hms hnames.symm (h.imp fun _ _ => And.right).flip hadded' hadded

theorem AlikeDumps.symm (h : AlikeDumps d d') : AlikeDumps d' d := by
  cases h with
  | same => exact .same d
  | pair hd hd' h => exact .pair hd' hd (h.imp fun _ _ => Alike.symm).flip
  | object hd hd' hpath hroot =>
    exact .object hd' hd (hpath.imp fun _ _ => Alike.symm).flip
      (hroot.imp fun _ _ => Alike.symm).flip

/-- Of two drafts that say the same, both have values or none. -/
theorem Alike.isValue (h : Alike d d') : d.IsValue → d'.IsValue := by
  refine Alike.induction (C := fun d d' => d.IsValue → d'.IsValue) (fun _ => id) ?_ ?_ ?_ h
  · rintro d d' s - ⟨q, rfl, hq⟩ -
    exact ⟨_, .string hq⟩
  · intro d d' vs vs' hd hd' hvs
    rw [hd.isValue_iff, hd'.isValue_iff]
    intro h v' hv'
    obtain ⟨v, hv, hvalue⟩ := exists_of_forall₂_of_mem hvs hv'
    exact hvalue (h v hv)
  · intro d d' ms ms' hd hd' hms
    rw [hd.isValue_iff, hd'.isValue_iff]
    intro h m' hm'
    have hothers : OthersAre Draft.IsValue [] ms := fun m hm _ => h m hm
    exact hms.othersAre And.right hothers m' hm' List.not_mem_nil

/-- A relation that holds of all drafts that say the same as one it holds of. -/
def Respects (P : Draft → α → Prop) : Prop := ∀ ⦃d d' a⦄, Alike d d' → P d a → P d' a

theorem Alike.hasItems {vs : List Draft} (h : Alike d d') (hd : d.HasItems vs) :
    ∃ vs', d'.HasItems vs' ∧ List.Forall₂ Alike vs vs' := by
  cases h with
  | same => exact ⟨vs, hd, List.forall₂_same.mpr fun v _ => .same v⟩
  | text htext =>
    obtain ⟨q, rfl, -⟩ := htext
    obtain ⟨items, ⟨⟩, -⟩ := hd
  | list hvs hd' h =>
    cases hd.unique hvs
    exact ⟨_, hd', h⟩
  | object hms =>
    obtain ⟨members, rfl, -⟩ := hms
    obtain ⟨items, ⟨⟩, -⟩ := hd

theorem Alike.hasMembers {ms : List (String × Draft)} (h : Alike d d') (hd : d.HasMembers ms) :
    ∃ ms', d'.HasMembers ms' ∧ MembersAlike Alike ms ms' := by
  cases h with
  | same => exact ⟨ms, hd, MembersAlike.refl Alike.same ms⟩
  | text htext =>
    obtain ⟨q, rfl, -⟩ := htext
    obtain ⟨members, ⟨⟩, -⟩ := hd
  | list hvs =>
    obtain ⟨items, rfl, -⟩ := hvs
    obtain ⟨members, ⟨⟩, -⟩ := hd
  | object hms₀ hd' hms hms' hnames h hadded hadded' =>
    cases hd.unique hms₀
    exact ⟨_, hd', _, _, _, _, hms, hms', membersRelate_iff.mpr ⟨hnames, h⟩, hadded, hadded'⟩

/-- What is neither a string nor a list nor an object is said in one way only. -/
theorem Alike.eq_of_isLeaf (h : Alike d d') (hleaf : d.IsLeaf) (htext : ∀ s, ¬d.IsText s) :
    d' = d := by
  cases h with
  | same => rfl
  | text hd => exact absurd hd (htext _)
  | list hd => exact absurd hd (hleaf.not_hasItems _)
  | object hd => exact absurd hd (hleaf.not_hasMembers _)

theorem Alike.eq_null (h : Alike (.word .null none) d') : d' = .word .null none :=
  h.eq_of_isLeaf trivial (by rintro s ⟨q, ⟨⟩, -⟩)

theorem respects_isWord : Respects IsWord := by
  rintro d d' n h ⟨x, rfl, hx⟩
  exact ⟨x, h.eq_of_isLeaf trivial (by rintro s ⟨q, ⟨⟩, -⟩), hx⟩

theorem respects_isText : Respects Draft.IsText := by
  rintro d d' s h ⟨q, rfl, hq⟩
  cases h with
  | same => exact ⟨q, rfl, hq⟩
  | text hd hd' =>
    obtain ⟨_, ⟨⟩, hq'⟩ := hd
    exact hq.unique hq' ▸ hd'
  | list hd => obtain ⟨items, ⟨⟩, -⟩ := hd
  | object hd => obtain ⟨members, ⟨⟩, -⟩ := hd

variable {P : Draft → α → Prop}

theorem respects_isNullOr (hP : Respects P) : Respects (Draft.IsNullOr P) := by
  rintro d d' o h (⟨rfl, ho⟩ | ⟨a, ha, ho⟩)
  · exact Or.inl ⟨h.eq_null, ho⟩
  · exact Or.inr ⟨a, hP h ha, ho⟩

/-- The items of lists that say the same say the same. -/
theorem forall₂_of_forall₂ {C : Draft → Draft → Prop} (hC : ∀ {v v' a}, C v v' → P v a → P v' a)
    {vs vs' : List Draft} (h : List.Forall₂ C vs vs') {as : List α} (has : List.Forall₂ P vs as) :
    List.Forall₂ P vs' as := by
  induction h generalizing as with
  | nil => exact has
  | cons hv _ ih =>
    cases has with
    | cons ha has => exact .cons (hC hv ha) (ih has)

theorem respects_isListOf (hP : Respects P) : Respects (Draft.IsListOf P) := by
  rintro d d' as h ⟨vs, hd, has⟩
  obtain ⟨vs', hd', hvs⟩ := h.hasItems hd
  exact ⟨vs', hd', forall₂_of_forall₂ (P := P) (fun h ha => hP h ha) hvs has⟩

/-- An object that stands for a name has no other members. -/
theorem respects_isName {P : String → α → Prop} : Respects (Draft.IsName P) := by
  rintro d d' a h ⟨name, hname, htext | hms⟩
  · exact ⟨name, hname, Or.inl (respects_isText h htext)⟩
  · obtain ⟨ms', hms', kept, kept', added, added', hperm, hperm', hkept, hadded, hadded'⟩ :=
      h.hasMembers hms
    obtain ⟨hnames, -⟩ := membersRelate_iff.mp hkept
    -- all members that are kept have the one name, so they are no part and nothing is added
    have hname' : ∀ n ∈ kept.map Prod.fst, n = name := by
      intro n hn
      obtain ⟨m, hm, rfl⟩ := List.mem_map.mp hn
      rw [List.mem_singleton.mp (hperm.mem_iff.mpr (List.mem_append_left _ hm))]
    cases hadded.eq_nil hname'
    cases hadded'.eq_nil (hnames ▸ hname')
    rw [List.append_nil] at hperm hperm'
    cases List.singleton_perm.mp hperm
    obtain ⟨⟨_, v'⟩, _, ⟨⟨⟩, hv⟩, hnil, rfl⟩ := List.forall₂_cons_left_iff.mp hkept
    cases hnil
    obtain rfl : v' = .word .null none := hv.eq_null
    exact ⟨name, hname, Or.inr (List.perm_singleton.mp hperm' ▸ hms')⟩

end

/-! ## Parts and nodes -/

section

variable {R : Draft → Draft → Prop} {ms ms' : List (String × Draft)}

theorem IsPosition.of_alike {p : Position} (h : MembersAlike Alike ms ms') (hp : IsPosition ms p) :
    IsPosition ms' p :=
  ⟨h.field (by decide) (fun h ha => respects_isWord h ha) hp.line,
    h.field (by decide) (fun h ha => respects_isWord h ha) hp.column⟩

theorem respects_isIdentifier : Respects (IsIdentifier Draft.IsValue) := by
  rintro d d' i h ⟨ms, hd, htext, hp, hothers⟩
  obtain ⟨ms', hd', hms⟩ := h.hasMembers hd
  exact ⟨ms', hd', hms.field (by decide) (fun h ha => respects_isText h ha) htext, hp.of_alike hms,
    hms.othersAre Alike.isValue hothers⟩

theorem respects_isType : Respects (IsType Draft.IsValue) := by
  rintro d d' t h ⟨ms, hd, htag, ⟨name, hname, heq⟩, hp, hothers⟩
  obtain ⟨ms', hd', hms⟩ := h.hasMembers hd
  exact ⟨ms', hd', hms.field (by decide) (fun h ha => respects_isName h ha) htag,
    ⟨name, hms.field (by decide) (fun h ha => respects_isNullOr respects_isText h ha) hname, heq⟩,
    hp.of_alike hms, hms.othersAre Alike.isValue hothers⟩

theorem respects_isAnnotationNode : Respects (IsAnnotationNode Draft.IsValue) := by
  rintro d d' a h ⟨ms, hd, hname, hp, hothers⟩
  obtain ⟨ms', hd', hms⟩ := h.hasMembers hd
  exact ⟨ms', hd', hms.field (by decide) (fun h ha => respects_isText h ha) hname, hp.of_alike hms,
    hms.othersAre Alike.isValue hothers⟩

theorem DeclarationMembers.of_alike {decl : Declaration} (h : MembersAlike Alike ms ms')
    (hdecl : DeclarationMembers Draft.IsValue ms decl) :
    DeclarationMembers Draft.IsValue ms' decl := by
  obtain ⟨hkind, hp, ⟨i, hi, hidentifier⟩, ⟨t, ht, htype⟩, ⟨l, hl, hmodifiers⟩,
    ⟨as, has, hannotations⟩, hothers⟩ := hdecl
  exact
    { kind := h.field (by decide) (fun h ha => respects_isName h ha) hkind
      position := hp.of_alike h
      identifier := ⟨i, h.field (by decide)
        (fun h ha => respects_isNullOr respects_isIdentifier h ha) hi, hidentifier⟩
      type := ⟨t, h.field (by decide)
        (fun h ha => respects_isNullOr respects_isType h ha) ht, htype⟩
      modifiers := ⟨l, h.field (by decide)
        (fun h ha => respects_isListOf respects_isName h ha) hl, hmodifiers⟩
      annotations := ⟨as, h.field (by decide)
        (fun h ha => respects_isListOf respects_isAnnotationNode h ha) has, hannotations⟩
      others := h.othersAre Alike.isValue hothers }

/-- **What says the same as a node is that node.**

**Proof sketch.** Induction over the two drafts. A node holds its children in a list, so the
statement is proved for nodes and for lists of nodes at once. -/
theorem respects_isNode : Respects (IsNode Draft.IsValue) := by
  intro d d' n h
  refine (Alike.induction (C := fun d d' =>
    (∀ n, IsNode Draft.IsValue d n → IsNode Draft.IsValue d' n) ∧
      ∀ ns, Draft.IsListOf (IsNode Draft.IsValue) d ns →
        Draft.IsListOf (IsNode Draft.IsValue) d' ns) ?_ ?_ ?_ ?_ h).1 n
  · exact fun _ => ⟨fun _ => id, fun _ => id⟩
  · rintro d d' s ⟨q, rfl, -⟩ -
    constructor
    · intro n hn
      obtain ⟨ms, ⟨members, ⟨⟩, -⟩, -⟩ := isNode_iff.mp hn
    · rintro ns ⟨vs, ⟨items, ⟨⟩, -⟩, -⟩
  · intro d d' vs vs' hd hd' hvs
    constructor
    · intro n hn
      obtain ⟨items, rfl, -⟩ := hd
      obtain ⟨ms, ⟨members, ⟨⟩, -⟩, -⟩ := isNode_iff.mp hn
    · rintro ns ⟨vs₀, hvs₀, hns⟩
      cases hd.unique hvs₀
      exact ⟨vs', hd', forall₂_of_forall₂ (fun h hn => h.1 _ hn) hvs hns⟩
  · intro d d' ms ms' hd hd' hms
    constructor
    · intro n hn
      obtain ⟨ms₀, hms₀, hdecl, cs, hcs, heq⟩ := isNode_iff.mp hn
      cases hd.unique hms₀
      -- the children are a list, so the induction is used for the statement about lists
      refine isNode_iff.mpr ⟨ms', hd', hdecl.of_alike (hms.mono And.left), cs, ?_, heq⟩
      exact hms.field (by decide) (fun h hns => h.2.2 _ hns) hcs
    · rintro ns ⟨vs, ⟨items, rfl, -⟩, -⟩
      obtain ⟨members, ⟨⟩, -⟩ := hd

/-- **What says the same as a dump is that dump.** -/
theorem IsDump.of_alike {d d' : Draft} {dump : Dump} (h : AlikeDumps d d')
    (hdump : IsDump Draft.IsValue d dump) : IsDump Draft.IsValue d' dump := by
  cases h with
  | same => exact hdump
  | pair hd hd' h =>
    cases hdump with
    | object hms =>
      obtain ⟨items, rfl, -⟩ := hd
      obtain ⟨members, ⟨⟩, -⟩ := hms
    | pair hpr hpath hroot =>
      cases hd.unique hpr
      obtain ⟨p', _, hp, hrest, rfl⟩ := List.forall₂_cons_left_iff.mp h
      obtain ⟨r', _, hr, hnil, rfl⟩ := List.forall₂_cons_left_iff.mp hrest
      cases hnil
      exact .pair hd' (respects_isText hp hpath) (respects_isNode hr hroot)
  | object hd hd' hpath hroot =>
    cases hdump with
    | object hms hpath' hroot' =>
      cases hd.unique hms
      exact .object hd' (field_of_forall₂ (fun h ha => respects_isText h ha) hpath hpath')
        (field_of_forall₂ (fun h ha => respects_isNode h ha) hroot hroot')
    | pair hpr =>
      obtain ⟨members, rfl, -⟩ := hd
      obtain ⟨items, ⟨⟩, -⟩ := hpr

/-- Two documents that say the same are the same dumps. -/
theorem isDump_iff_of_alike {d d' : Draft} {dump : Dump} (h : AlikeDumps d d') :
    IsDump Draft.IsValue d dump ↔ IsDump Draft.IsValue d' dump :=
  ⟨.of_alike h, .of_alike h.symm⟩

end

end NullLint.Syntax
