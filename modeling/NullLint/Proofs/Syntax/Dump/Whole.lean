import NullLint.Proofs.Json.Whole
import NullLint.Proofs.Syntax.Dump.Parse
import NullLint.Proofs.Syntax.Layout

set_option autoImplicit false
set_option relaxedAutoImplicit false

/-!
# Trees have whole texts

A text is parsed as a tree only as a whole. Whatever can be decoded as a dump is a value in which
nothing is missing, so it was read off a document; and how a list or an object is read does not
depend on what follows it.

## Main results

* `Syntax.IsNode.isValue` — **a node is a value**; so are its parts.
* `Syntax.Dump.skip_of_decode` — nothing is missing in what is decoded as a dump.
* `Syntax.Dump.parse_eq_ok_iff` — **the texts of dumps are documents.**
* `Syntax.Dump.parse_append` — what follows the text of a dump.
* `Scan.parseTree_whole` — **a tree has its whole text**: no other text begins with it, except for
  blanks.
-/

namespace NullLint

open Json Syntax

/-! ## Dumps have values -/

namespace Json

section

variable {α : Type} {P : Draft → α → Prop} {d : Draft}

theorem Draft.IsText.isValue {s : String} (h : d.IsText s) : d.IsValue := by
  obtain ⟨q, rfl, hq⟩ := h
  exact ⟨_, .string hq⟩

theorem Draft.IsName.isValue {Q : String → α → Prop} {a : α} (h : d.IsName Q a) : d.IsValue := by
  obtain ⟨name, -, htext | hmembers⟩ := h
  · exact htext.isValue
  · exact hmembers.isValue_iff.mpr (List.forall_mem_singleton.mpr ⟨_, .null⟩)

theorem Draft.IsNullOr.isValue {o : Option α} (h : d.IsNullOr P o)
    (hP : ∀ a, P d a → d.IsValue) : d.IsValue := by
  obtain ⟨rfl, -⟩ | ⟨a, ha, -⟩ := h
  · exact ⟨_, .null⟩
  · exact hP a ha

theorem Draft.IsListOf.isValue {as : List α} (h : d.IsListOf P as)
    (hP : ∀ v, ∀ a ∈ as, P v a → v.IsValue) : d.IsValue := by
  obtain ⟨vs, hitems, hvs⟩ := h
  refine hitems.isValue_iff.mpr fun v hv => ?_
  obtain ⟨a, ha, hva⟩ := exists_of_forall₂_of_mem hvs.flip hv
  exact hP v a ha hva

end

end Json

namespace Syntax

variable {d : Draft} {ms : List (String × Draft)}

/-- An object has a value if its known members, the line and the column have one, and the other
members are values. -/
theorem isValue_of_others {known : List String} {p : Position} (hd : d.HasMembers ms)
    (hp : IsPosition ms p) (hothers : OthersAre Draft.IsValue ("line" :: "column" :: known) ms)
    (hknown : ∀ m ∈ ms, m.1 ∈ known → m.2.IsValue) : d.IsValue := by
  refine hd.isValue_iff.mpr fun m hm => ?_
  by_cases hposition : m.1 = "line" ∨ m.1 = "column"
  · exact Position.isValue_of_mem hp hm hposition
  · by_cases hname : m.1 ∈ known
    · exact hknown m hm hname
    · refine hothers m hm ?_
      simp only [List.mem_cons, ← or_assoc, not_or]
      exact ⟨not_or.mp hposition, hname⟩

theorem IsIdentifier.isValue {i : Identifier} (h : IsIdentifier Draft.IsValue d i) :
    d.IsValue := by
  obtain ⟨ms, hd, h⟩ := h
  refine isValue_of_others hd h.position h.others fun m hm hname => ?_
  obtain ⟨_, -, htext⟩ := h.text.exists_of_mem hm (List.mem_singleton.mp hname)
  exact htext.isValue

theorem IsAnnotationNode.isValue {a : Annotation} (h : IsAnnotationNode Draft.IsValue d a) :
    d.IsValue := by
  obtain ⟨ms, hd, h⟩ := h
  refine isValue_of_others hd h.position h.others fun m hm hname => ?_
  obtain ⟨_, -, htext⟩ := h.name.exists_of_mem hm (List.mem_singleton.mp hname)
  exact htext.isValue

theorem IsType.isValue {t : DeclaredType} (h : IsType Draft.IsValue d t) : d.IsValue := by
  obtain ⟨ms, hd, h⟩ := h
  obtain ⟨o, ho, -⟩ := h.name
  refine isValue_of_others hd h.position h.others fun m hm hname => ?_
  simp only [List.mem_cons, List.not_mem_nil, or_false] at hname
  obtain hname | hname := hname
  · obtain ⟨_, -, htag⟩ := h.tag.exists_of_mem hm hname
    exact htag.isValue
  · obtain ⟨_, -, hname⟩ := ho.exists_of_mem hm hname
    exact hname.isValue fun _ htext => htext.isValue

/-- **A node is a value.** -/
theorem IsNode.isValue {n : Nested} (h : IsNode Draft.IsValue d n) : d.IsValue := by
  induction n generalizing d with
  | node decl cs ih =>
    obtain ⟨ms, hd, ⟨hdecl, o, hchildren, ho⟩⟩ := isNode_iff.mp h
    obtain ⟨_, hidentifier, -⟩ := hdecl.identifier
    obtain ⟨_, htype, -⟩ := hdecl.type
    obtain ⟨_, hmodifiers, -⟩ := hdecl.modifiers
    obtain ⟨_, hannotations, -⟩ := hdecl.annotations
    refine isValue_of_others hd hdecl.position hdecl.others fun m hm hname => ?_
    simp only [List.mem_cons, List.not_mem_nil, or_false] at hname
    obtain hname | hname | hname | hname | hname | hname := hname
    · obtain ⟨_, -, hkind⟩ := hdecl.kind.exists_of_mem hm hname
      exact hkind.isValue
    · obtain ⟨_, -, hidentifier⟩ := hidentifier.exists_of_mem hm hname
      exact hidentifier.isValue fun _ hi => hi.isValue
    · obtain ⟨_, -, htype⟩ := htype.exists_of_mem hm hname
      exact htype.isValue fun _ ht => ht.isValue
    · obtain ⟨_, -, hmodifiers⟩ := hmodifiers.exists_of_mem hm hname
      exact hmodifiers.isValue fun _ _ _ hmodifier => hmodifier.isValue
    · obtain ⟨_, -, hannotations⟩ := hannotations.exists_of_mem hm hname
      exact hannotations.isValue fun _ _ _ ha => ha.isValue
    · obtain ⟨cs', rfl, hlist⟩ := hchildren.exists_of_mem hm hname
      obtain rfl : cs = cs' := ho
      exact hlist.isValue fun _ c hc hnode => ih c hc hnode

/-! ## Documents -/

namespace Dump

/-- The list and the object of a dump are no numerals. -/
theorem ne_numeral_of_isDump {free : Draft → Prop} {dump : Dump} (h : IsDump free d dump)
    (x : Except NumeralStop Numeral) : d ≠ .numeral x := by
  rintro rfl
  cases h with
  | object hd => obtain ⟨_, ⟨⟩, -⟩ := hd
  | pair hd => obtain ⟨_, ⟨⟩, -⟩ := hd

/-- Nothing is missing in a draft that is decoded as a dump. -/
theorem skip_of_decode {levels : Nat} {dump : Dump} (h : decode levels d = .ok dump) :
    d.skip = .ok () := by
  cases d with
  | object members =>
    obtain ⟨ms, hms, r, hold, -⟩ := exists_hold_of_decode h
    obtain ⟨hpath, hroot, hothers⟩ := Fields.hold_iff.mp hold
    refine hms.skip_iff.mpr fun m hm => ?_
    by_cases hname : m.1 = "path"
    · obtain ⟨_, -, htext⟩ := hpath.exists_of_mem hm hname
      exact htext.isValue.skip
    · by_cases hname' : m.1 = "root"
      · obtain ⟨_, -, hnode⟩ := hroot.exists_of_mem hm hname'
        exact hnode.isValue.skip
      · exact hothers m hm (by simp [hname, hname'])
  | list items =>
    cases isDump_of_decode h with
    | object hd => obtain ⟨_, ⟨⟩, -⟩ := hd
    | pair hd hpath hroot =>
      exact (hd.isValue_iff.mpr (by simp [hpath.isValue, hroot.isValue])).skip
  | _ => cases h

/-- **The texts of dumps are documents.** A text is parsed as a dump if and only if it is a document
whose syntax tree is decoded as the dump. -/
theorem parse_eq_ok_iff {text : String} {dump : Dump} :
    parse text = .ok dump ↔ ∃ d : Draft, d.IsTextOf text ∧ decode maxLevels d = .ok dump := by
  constructor
  · intro h
    rw [parse] at h
    cases hread : Draft.read text.toList with
    | mk d after =>
      simp only [hread] at h
      cases hdecode : decode maxLevels d with
      | error e => simp [hdecode] at h
      | ok dump' =>
        have hskip := skip_of_decode hdecode
        obtain ⟨_, _, rest, -, -, rfl, -⟩ := Draft.exists_isSpelled_of_read hread hskip
        simp only [hdecode, Option.getD_some] at h
        split at h
        · next hblank =>
          cases h
          exact ⟨d, Draft.isTextOf_of_read hread (List.all_eq_true.mp hblank) hskip, hdecode⟩
        · cases h
  · rintro ⟨d, htext, hdecode⟩
    rw [parse_of_isTextOf htext, hdecode]
    rfl

/-- What follows a document that is decoded as a dump is looked at only to see if it is blank. -/
theorem parse_append {d : Draft} {text : String} {dump : Dump} (h : d.IsTextOf text)
    (hdecode : decode maxLevels d = .ok dump) (more : String) :
    parse (text ++ more) = if more.toList.all isSpace then .ok dump else .error .trailing := by
  obtain ⟨b, s, b', hb, hs, hb', htext⟩ := h
  have hread : Draft.read (text ++ more).toList = (d, some (b' ++ more.toList)) := by
    have hlist := ne_numeral_of_isDump (isDump_of_decode hdecode)
    rw [String.toList_append, htext, List.append_assoc, List.append_assoc]
    exact Draft.read_append hb hs fun x hx => absurd hx (hlist x)
  have hall : (b' ++ more.toList).all isSpace = more.toList.all isSpace := by
    rw [List.all_append, List.all_eq_true.mpr hb', Bool.true_and]
  rw [parse, hread]
  simp only [hdecode, Option.getD_some, hall]

end Dump

end Syntax

/-! ## Texts that are cut off or go on -/

/-- A document is not blank. -/
theorem Json.Draft.IsTextOf.not_isBlank {d : Draft} {text : String} (h : d.IsTextOf text) :
    ¬IsBlank text.toList := by
  obtain ⟨b, s, b', hb, hs, hb', htext⟩ := h
  obtain ⟨c, s', rfl, hc, -⟩ := hs.exists_cons
  intro hblank
  have := hblank c (by simp [htext])
  rw [hc] at this
  cases this

namespace Scan

variable {text : String} {tree : Tree}

/-- Blanks may follow the text of a tree. -/
theorem parseTree_append_of_isBlank (h : parseTree text = .ok tree) {more : String}
    (hmore : IsBlank more.toList) : parseTree (text ++ more) = .ok tree := by
  obtain ⟨dump, hdump, rfl⟩ := map_eq_ok_iff.mp h
  obtain ⟨d, hd, hdecode⟩ := Dump.parse_eq_ok_iff.mp hdump
  rw [parseTree, Dump.parse_append hd hdecode, if_pos (List.all_eq_true.mpr hmore)]
  rfl

/-- Nothing else may follow it. -/
theorem parseTree_append_of_not_isBlank (h : parseTree text = .ok tree) {more : String}
    (hmore : ¬IsBlank more.toList) : parseTree (text ++ more) = .error .trailing := by
  obtain ⟨dump, hdump, rfl⟩ := map_eq_ok_iff.mp h
  obtain ⟨d, hd, hdecode⟩ := Dump.parse_eq_ok_iff.mp hdump
  rw [parseTree, Dump.parse_append hd hdecode, if_neg (mt List.all_eq_true.mp hmore)]
  rfl

/-- The text of a tree is not blank. -/
theorem not_isBlank_of_parseTree (h : parseTree text = .ok tree) : ¬IsBlank text.toList := by
  obtain ⟨dump, hdump, rfl⟩ := map_eq_ok_iff.mp h
  obtain ⟨d, hd, -⟩ := Dump.parse_eq_ok_iff.mp hdump
  exact hd.not_isBlank

/-- **A tree has its whole text.** Whatever is put behind the text of a tree is refused as trailing
data, unless it is blank; then the tree is the same. So nothing but blanks can be cut off either: if
the text ends in a bracket no shorter beginning of it is the text of a tree, and two texts one after
the other are none.

**Proof sketch.** What can be decoded as a dump is whole, so it was read off a text that follows the
grammar; and a list or an object is read the same way in front of any text. If a beginning of the
text had a tree, what was cut off would be trailing data behind it. -/
theorem parseTree_whole (h : parseTree text = .ok tree) :
    (∀ more : String, ((∃ tree', parseTree (text ++ more) = .ok tree') ↔ IsBlank more.toList) ∧
        (IsBlank more.toList → parseTree (text ++ more) = .ok tree) ∧
        (¬IsBlank more.toList → parseTree (text ++ more) = .error .trailing)) ∧
      (∀ before rest : String, text = before ++ rest → ¬IsBlank rest.toList →
        ∀ tree', parseTree before ≠ .ok tree') ∧
      ((text.toList.getLast? = some ']' ∨ text.toList.getLast? = some '\x7d') →
        ∀ before rest : String, text = before ++ rest → rest ≠ "" →
          ∀ tree', parseTree before ≠ .ok tree') ∧
      ∀ text' tree', parseTree text' = .ok tree' →
        parseTree (text ++ text') = .error .trailing := by
  have hcut : ∀ before rest : String, text = before ++ rest → ¬IsBlank rest.toList →
      ∀ tree', parseTree before ≠ .ok tree' := by
    rintro before rest rfl hrest tree' hbefore
    rw [parseTree_append_of_not_isBlank hbefore hrest] at h
    cases h
  refine ⟨fun more => ⟨⟨fun ⟨tree', hmore⟩ => ?_, fun hmore => ?_⟩,
    parseTree_append_of_isBlank h, parseTree_append_of_not_isBlank h⟩, hcut, ?_, ?_⟩
  · by_contra hblank
    rw [parseTree_append_of_not_isBlank h hblank] at hmore
    cases hmore
  · exact ⟨tree, parseTree_append_of_isBlank h hmore⟩
  · intro hlast before rest htext hne
    refine hcut before rest htext fun hblank => ?_
    -- the bracket at the end would be one of the blanks
    have hrest : rest.toList ≠ [] := by simpa using hne
    have hspace := hblank _ (List.getLast_mem hrest)
    rw [htext, String.toList_append, List.getLast?_append_of_ne_nil _ hrest,
      List.getLast?_eq_some_getLast hrest, Option.some.injEq, Option.some.injEq] at hlast
    obtain hlast | hlast := hlast <;> simp [hlast, isSpace] at hspace
  · intro text' tree' h'
    exact parseTree_append_of_not_isBlank h (not_isBlank_of_parseTree h')

/-- A pair of braces behind the text of a tree, and the text without its last bracket. -/
theorem parseTree_whole_one_node :
    parseTree "\x7b\"root\":\x7b\"kind\":\"A\",\"line\":1,\"column\":2,\"extra\":3\x7d\x7d" =
        .ok (Tree.ofDump ⟨"", exampleNode⟩) ∧
      parseTree ("\x7b\"root\":\x7b\"kind\":\"A\",\"line\":1,\"column\":2,\"extra\":3\x7d\x7d" ++
          "\x7b\x7d") = .error .trailing ∧
        ∀ tree', parseTree
            "\x7b\"root\":\x7b\"kind\":\"A\",\"line\":1,\"column\":2,\"extra\":3\x7d" ≠
          .ok tree' := by
  have htext := isTextOf_exampleDraft (s := "3") (Numeral.isSpelled_ofDigit (d := '3') (by decide))
  have hextra : (Draft.numeral (.ok (.ofDigit '3'))).IsValue := ⟨_, .number rfl⟩
  have hparse := (parseTree_eq_ok_iff htext (by decide)).mpr ⟨_, isDump_exampleDraft hextra, rfl⟩
  obtain ⟨hmore, -, hcut, -⟩ := parseTree_whole hparse
  exact ⟨hparse, (hmore "\x7b\x7d").2.2 (by simp [IsBlank, isSpace]),
    hcut (Or.inr rfl) _ "\x7d" rfl (by decide)⟩

end Scan

end NullLint
