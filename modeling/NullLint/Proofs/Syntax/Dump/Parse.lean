import NullLint.Proofs.Json.Reading
import NullLint.Proofs.Syntax.Dump.Alike
import NullLint.Scan

set_option autoImplicit false
set_option relaxedAutoImplicit false

/-!
# Documents as trees

A text that is a JSON document is parsed as the tree of the dump that its syntax tree is, whatever
its blanks are and however its strings are written.

## Main results

* `Syntax.Dump.parse_of_isTextOf` — a document is refused only for what its syntax tree is.
* `Scan.parseTree_follows_schema` — **documents are parsed by the schema.**
* `Scan.parseTree_refuses_member` — a member that no field takes has to be a value nevertheless.
-/

namespace NullLint

open Json Syntax

variable {d : Draft} {text : String}

/-- A document is refused only for what its syntax tree is. -/
theorem Syntax.Dump.parse_of_isTextOf (h : d.IsTextOf text) :
    Dump.parse text = (Dump.decode maxLevels d).mapError .malformed := by
  obtain ⟨rest, hread, hblank⟩ := Draft.read_of_isTextOf h
  have hall : rest.all isSpace = true := List.all_eq_true.mpr hblank
  simp only [Dump.parse, hread]
  cases hdecode : Dump.decode maxLevels d <;> simp [Except.mapError, hall]

/-- The value of a document can be skipped. -/
theorem Json.Draft.IsTextOf.skip (h : d.IsTextOf text) : d.skip = .ok () := by
  obtain ⟨_, s, _, _, hspelled, _⟩ := h
  exact d.skip_of_isSpelled hspelled

/-! ## Members that are no values -/

/-- The numeral of one digit. -/
def Json.Numeral.ofDigit (d : Char) : Numeral := ⟨false, [d], none, none⟩

theorem Json.Numeral.isSpelled_ofDigit {d : Char} (h : d.isDigit = true) :
    (ofDigit d).IsSpelled [d] where
  whole := by
    refine ⟨⟨List.cons_ne_nil _ _, List.forall_mem_singleton.mpr h⟩, fun hd => ?_⟩
    cases hd
    rfl
  fraction := by
    rintro ds ⟨⟩
  exponent := ⟨[], .absent, rfl⟩

/-- The numeral `1e400`, which is too large for a double. -/
def Json.Numeral.huge : Numeral := ⟨false, ['1'], none, some 400⟩

theorem Json.Numeral.isSpelled_huge : huge.IsSpelled "1e400".toList where
  whole := (isSpelled_ofDigit (d := '1') (by decide)).whole
  fraction := by
    rintro ds ⟨⟩
  exponent := by
    have hdigits : IsDigits ['4', '0', '0'] := by simp [IsDigits]
    exact ⟨_, .plain (Or.inl rfl) hdigits, by simp [huge, signChars, fractionChars]⟩

theorem Json.Numeral.value?_huge : huge.value? = none := by decide +kernel

/-- A document with one node, of which one member has a name that no field has. -/
def exampleDraft (extra : Numeral) : Draft :=
  .object (.member (.plain "root")
    (.object (.member (.plain "kind") (.quoted (.plain "A"))
      (.member (.plain "line") (.numeral (.ok (.ofDigit '1')))
        (.member (.plain "column") (.numeral (.ok (.ofDigit '2')))
          (.member (.plain "extra") (.numeral (.ok extra)) (.stop .closed))))))
    (.stop .closed))

theorem isTextOf_exampleDraft {extra : Numeral} {s : String} (h : extra.IsSpelled s.toList) :
    (exampleDraft extra).IsTextOf
      ("\x7b\"root\":\x7b\"kind\":\"A\",\"line\":1,\"column\":2,\"extra\":" ++
        (s ++ "\x7d\x7d")) := by
  have hextra := Members.IsSpelled.last isBlank_nil
    (Quoted.isSpelled_plain (s := "extra") (by simp)) isBlank_nil isBlank_nil (.numeral h)
    isBlank_nil
  have hcolumn := Members.IsSpelled.cons isBlank_nil
    (Quoted.isSpelled_plain (s := "column") (by simp)) isBlank_nil isBlank_nil
    (.numeral (Numeral.isSpelled_ofDigit (d := '2') (by decide))) isBlank_nil hextra
  have hline := Members.IsSpelled.cons isBlank_nil
    (Quoted.isSpelled_plain (s := "line") (by simp)) isBlank_nil isBlank_nil
    (.numeral (Numeral.isSpelled_ofDigit (d := '1') (by decide))) isBlank_nil hcolumn
  have hkind := Members.IsSpelled.cons isBlank_nil
    (Quoted.isSpelled_plain (s := "kind") (by simp)) isBlank_nil isBlank_nil
    (.quoted (Quoted.isSpelled_plain (s := "A") (by simp))) isBlank_nil hline
  have hroot := Members.IsSpelled.last isBlank_nil
    (Quoted.isSpelled_plain (s := "root") (by simp)) isBlank_nil isBlank_nil (.object hkind)
    isBlank_nil
  refine ⟨[], _, [], isBlank_nil, .object hroot, isBlank_nil, ?_⟩
  simp

/-- The node of the document, which has no more than a kind and a position. -/
def exampleNode : Nested := .node { kind := .other, position := ⟨1, 2⟩ } []

/-- The members of the node, with their names. -/
theorem hasMembers_exampleDraft (extra : Numeral) :
    ∃ v, (exampleDraft extra).HasMembers [("root", v)] ∧
      v.HasMembers [("kind", .quoted (.plain "A")), ("line", .numeral (.ok (.ofDigit '1'))),
        ("column", .numeral (.ok (.ofDigit '2'))), ("extra", .numeral (.ok extra))] := by
  have hkey := Quoted.denotes_plain
  exact ⟨_, ⟨_, rfl, .cons (hkey _) .nil⟩,
    ⟨_, rfl, .cons (hkey _) (.cons (hkey _) (.cons (hkey _) (.cons (hkey _) .nil)))⟩⟩

theorem isDump_exampleDraft {free : Draft → Prop} {extra : Numeral}
    (h : free (.numeral (.ok extra))) : IsDump free (exampleDraft extra) ⟨"", exampleNode⟩ := by
  obtain ⟨v, hd, hv⟩ := hasMembers_exampleDraft extra
  have hkind : Draft.IsName Kind.Named (.quoted (.plain "A")) .other :=
    ⟨"A", Or.inr ⟨rfl, by decide⟩, Or.inl ⟨_, rfl, Quoted.denotes_plain "A"⟩⟩
  have hword : ∀ {d n}, digitsValue [d] = UInt32.toNat n → IsWord (.numeral (.ok (.ofDigit d))) n :=
    fun h => ⟨_, rfl, rfl, rfl, rfl, h⟩
  have hpath : Field "path" Draft.IsText [("root", v)] none := .absent rfl
  refine .object hd hpath (.given rfl (.leaf hv ?_ rfl))
  exact
    { kind := .given rfl hkind
      position := ⟨.given rfl (hword rfl), .given rfl (hword rfl)⟩
      identifier := ⟨none, .absent rfl, rfl⟩
      type := ⟨none, .absent rfl, rfl⟩
      modifiers := ⟨none, .absent rfl, rfl⟩
      annotations := ⟨none, .absent rfl, rfl⟩
      others := by simp [OthersAre, h] }

/-- The document is no dump if the numeral of the other member has no number. -/
theorem not_isDump_exampleDraft {extra : Numeral} (h : extra.value? = none) (dump : Dump) :
    ¬IsDump Draft.IsValue (exampleDraft extra) dump := by
  intro hdump
  obtain ⟨v, hd, hv⟩ := hasMembers_exampleDraft extra
  have hvalue : ¬(Draft.numeral (.ok extra)).IsValue := by
    rintro ⟨w, hw⟩
    rcases hw with _ | _ | _ | hnumber | _ | ⟨⟨_, ⟨⟩, _⟩⟩ | ⟨⟨_, ⟨⟩, _⟩⟩
    rw [h] at hnumber
    cases hnumber
  cases hdump with
  | object hms _ hroot =>
    cases hd.unique hms
    obtain ⟨w, hw, hnode⟩ := field_some_iff.mp hroot
    obtain rfl : v = w := List.head_eq_of_cons_eq hw
    obtain ⟨ms, hms, hdecl, -⟩ := isNode_iff.mp hnode
    cases hv.unique hms
    exact hvalue (hdecl.others ("extra", .numeral (.ok extra)) (by simp) (by simp))
  | pair hpr =>
    obtain ⟨members, hmembers, -⟩ := hd
    obtain ⟨items, hitems, -⟩ := hpr
    rw [hmembers] at hitems
    cases hitems

/-! ## Trees of documents -/

/-- A document that is not nested too deeply has the trees of the dumps that it is. -/
theorem Scan.parseTree_eq_ok_iff {tree : Tree} (h : d.IsTextOf text)
    (hdepth : d.depth ≤ maxLevels) :
    Scan.parseTree text = .ok tree ↔
      ∃ dump, IsDump Draft.IsValue d dump ∧ tree = Tree.ofDump dump := by
  rw [Scan.parseTree, Dump.parse_of_isTextOf h, map_eq_ok_iff]
  constructor
  · rintro ⟨dump, hdump, rfl⟩
    exact ⟨dump, (Dump.decode_eq_ok_iff h.skip hdepth).mp (mapError_eq_ok_iff.mp hdump), rfl⟩
  · rintro ⟨dump, hdump, rfl⟩
    exact ⟨dump, mapError_eq_ok_iff.mpr ((Dump.decode_eq_ok_iff h.skip hdepth).mpr hdump), rfl⟩

/-- **Documents are parsed by the schema.** A document in which lists and objects are nested at most
127 times has a tree if and only if it is a dump, and then it is the tree of that dump; it is only
one dump. A document that says the same has the same tree: the order of members does not count, nor
do members of other names, nor how strings are written. -/
theorem Scan.parseTree_follows_schema (h : d.IsTextOf text) (hdepth : d.depth ≤ 127) :
    (∀ tree, Scan.parseTree text = .ok tree ↔
        ∃ dump, IsDump Draft.IsValue d dump ∧ tree = Tree.ofDump dump) ∧
      (∀ dump dump', IsDump Draft.IsValue d dump → IsDump Draft.IsValue d dump' → dump = dump') ∧
        ∀ (text' : String) (d' : Draft), d'.IsTextOf text' → d'.depth ≤ 127 → AlikeDumps d d' →
          (Scan.parseTree text').toOption = (Scan.parseTree text).toOption := by
  refine ⟨fun tree => Scan.parseTree_eq_ok_iff h hdepth, fun dump dump' hdump hdump' => ?_,
    fun text' d' h' hdepth' halike => ?_⟩
  · have hdecode := (Dump.decode_eq_ok_iff h.skip hdepth).mpr hdump
    exact Except.ok.inj (hdecode.symm.trans ((Dump.decode_eq_ok_iff h.skip hdepth).mpr hdump'))
  · refine Option.ext fun tree => ?_
    have hiff : ∀ {r : Except Dump.Error Tree}, r.toOption = some tree ↔ r = .ok tree := by
      intro r
      cases r <;> simp [Except.toOption]
    simp only [hiff, Scan.parseTree_eq_ok_iff h hdepth, Scan.parseTree_eq_ok_iff h' hdepth',
      isDump_iff_of_alike halike]

/-- A member of another name does not count. -/
theorem Scan.parseTree_ignores_member :
    (exampleDraft (.ofDigit '3')).IsTextOf
        "\x7b\"root\":\x7b\"kind\":\"A\",\"line\":1,\"column\":2,\"extra\":3\x7d\x7d" ∧
      (exampleDraft (.ofDigit '3')).depth ≤ 127 ∧
        Scan.parseTree
            "\x7b\"root\":\x7b\"kind\":\"A\",\"line\":1,\"column\":2,\"extra\":3\x7d\x7d" =
          .ok (Tree.ofDump ⟨"", exampleNode⟩) := by
  have htext := isTextOf_exampleDraft (s := "3") (Numeral.isSpelled_ofDigit (d := '3') (by decide))
  have hdepth : (exampleDraft (.ofDigit '3')).depth ≤ 127 := by decide
  have hextra : (Draft.numeral (.ok (.ofDigit '3'))).IsValue := ⟨_, .number rfl⟩
  refine ⟨htext, hdepth, ((Scan.parseTree_follows_schema htext hdepth).1 _).mpr ?_⟩
  exact ⟨_, isDump_exampleDraft hextra, rfl⟩

/-- A member of another name is not ignored if its number is too large for a double. -/
theorem Scan.parseTree_refuses_member :
    (exampleDraft .huge).IsTextOf
        "\x7b\"root\":\x7b\"kind\":\"A\",\"line\":1,\"column\":2,\"extra\":1e400\x7d\x7d" ∧
      (exampleDraft .huge).depth ≤ 127 ∧
        IsDump (fun _ => True) (exampleDraft .huge) ⟨"", exampleNode⟩ ∧
          ∀ tree, Scan.parseTree
              "\x7b\"root\":\x7b\"kind\":\"A\",\"line\":1,\"column\":2,\"extra\":1e400\x7d\x7d" ≠
            .ok tree := by
  have htext := isTextOf_exampleDraft (s := "1e400") Numeral.isSpelled_huge
  have hdepth : (exampleDraft .huge).depth ≤ 127 := by decide
  refine ⟨htext, hdepth, isDump_exampleDraft trivial, fun tree htree => ?_⟩
  obtain ⟨dump, hdump, -⟩ := (Scan.parseTree_eq_ok_iff htext hdepth).mp htree
  exact not_isDump_exampleDraft Numeral.value?_huge dump hdump

end NullLint
