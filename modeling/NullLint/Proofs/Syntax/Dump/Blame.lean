import NullLint.Proofs.Json.Blame
import NullLint.Proofs.Syntax.Dump.Whole

set_option autoImplicit false
set_option relaxedAutoImplicit false

/-!
# Where a dump is wrong

The text of a tree in which one value of a node is spoiled is refused, and the path that is reported
leads to the node by the numbers of children, and from there to the value. A line or a column is not
a field of its own: whatever is wrong with its number is reported for the node.

## Main definitions

* `Syntax.Nested.pathBelow` — the path from a node to one below it.
* `Syntax.Nested.Spoils` — how a value of a node is spoiled, and what is blamed.
* `Syntax.Dump.IsRoot` — where a dump has its root.

## Main results

* `Syntax.Nested.Spoils.blames`, `Syntax.Nested.blames_below`, `Syntax.Dump.blames_root` — what the
  decoders of nodes and dumps blame.
* `Scan.parseTree_blames` — **a spoiled value is found at its place.**
* `Scan.parseTree_blames_otherwise` — a line may be blamed itself, and a root may have no name.
-/

namespace NullLint

open Json

namespace Syntax

variable {w : Draft} {p q : Path} {levels : Nat}

/-! ## Parts of nodes -/

theorem Identifier.blames_text (h : Blames Draft.string w p q) :
    Blames (Identifier.decode levels) w (.key "text" :: p) (.key "text" :: q) :=
  Identifier.lawful_record.blames_slot List.mem_cons_self h

theorem Annotation.blames_name (h : Blames Draft.string w p q) :
    Blames (fun d => Annotation.decode levels d) w (.key "name" :: p) (.key "name" :: q) :=
  Annotation.lawful_record.blames_slot List.mem_cons_self h

theorem DeclaredType.blames_tag
    (h : Blames (Draft.nameOf (levels - 1) TypeTag.ofName) w p q) :
    Blames (DeclaredType.decode levels) w (.key "tag" :: p) (.key "tag" :: q) :=
  DeclaredType.lawful_record.blames_slot List.mem_cons_self h

/-! ## Nodes -/

namespace Nested

/-- A node is decoded as a record that takes members as its fields say; its children are nodes
again, or there is no level left for them. -/
theorem exists_lawful (levels : Nat) : ∃ child : Draft → Except Located Nested,
    (decode levels = fun d => do
      let r ← d.recordOf levels "struct RawNode" Fields.claim (Fields.take (levels - 1) child) {}
      placed r.finish) ∧
    (record (levels - 1) child (IsNode Draft.IsValue)).Lawful (levels - 1)
      (Draft.takeValue (levels - 1)) [] Fields.claim (Fields.take (levels - 1) child) {} ∧
    ((∃ k, child = decode k) ∨ child = fun _ => here .tooDeep) := by
  match levels with
  | 0 => exact ⟨_, rfl, lawful_record (by rintro k ⟨⟩), Or.inr rfl⟩
  | 1 => exact ⟨_, rfl, lawful_record (by rintro k ⟨⟩), Or.inr rfl⟩
  | k + 2 =>
    refine ⟨decode k, rfl, lawful_record ?_, Or.inl ⟨k, rfl⟩⟩
    rintro _ ⟨⟩
    exact decodes_node k

theorem blames_identifier (h : Blames (Identifier.decode (levels - 1)) w p q) (hp : p ≠ []) :
    Blames (decode levels) w (.key "ident" :: p) (.key "ident" :: q) := by
  obtain ⟨child, hdecode, hlawful, -⟩ := exists_lawful levels
  rw [hdecode]
  exact hlawful.blames_slot (List.mem_of_getElem? (i := 1) rfl) (h.optional hp)

theorem blames_type (h : Blames (DeclaredType.decode (levels - 1)) w p q) (hp : p ≠ []) :
    Blames (decode levels) w (.key "type" :: p) (.key "type" :: q) := by
  obtain ⟨child, hdecode, hlawful, -⟩ := exists_lawful levels
  rw [hdecode]
  exact hlawful.blames_slot (List.mem_of_getElem? (i := 2) rfl) (h.optional hp)

theorem blames_modifier (h : Blames (Draft.nameOf (levels - 1 - 1) Modifier.ofName) w p q)
    (i : Nat) : Blames (decode levels) w (.key "modifiers" :: .index i :: p)
      (.key "modifiers" :: .index i :: q) := by
  obtain ⟨child, hdecode, hlawful, -⟩ := exists_lawful levels
  rw [hdecode]
  exact hlawful.blames_slot (List.mem_of_getElem? (i := 3) rfl) (h.listOf _ i)

theorem blames_annotation
    (h : Blames (fun d => Annotation.decode (levels - 1 - 1) d) w p q) (i : Nat) :
    Blames (decode levels) w (.key "annotations" :: .index i :: p)
      (.key "annotations" :: .index i :: q) := by
  obtain ⟨child, hdecode, hlawful, -⟩ := exists_lawful levels
  rw [hdecode]
  exact hlawful.blames_slot (List.mem_of_getElem? (i := 4) rfl) (h.listOf _ i)

theorem blames_child (h : ∀ levels, Blames (decode levels) w p q) (i : Nat) :
    Blames (decode levels) w (.key "children" :: .index i :: p)
      (.key "children" :: .index i :: q) := by
  obtain ⟨child, hdecode, hlawful, hchild⟩ := exists_lawful levels
  rw [hdecode]
  refine hlawful.blames_slot (List.mem_of_getElem? (i := 5) rfl) (Blames.listOf ?_ _ i)
  obtain ⟨k, rfl⟩ | rfl := hchild
  · exact h k
  · rintro d d' c ⟨⟩

/-- The place of a node below another one, which is reached by the numbers of children. -/
def pathBelow (is : List Nat) : Path := is.flatMap fun i => [.key "children", .index i]

/-- A place in a node below.

**Proof sketch.** Induction on the numbers of the children on the way. -/
theorem blames_below (h : ∀ levels, Blames (decode levels) w p q) (is : List Nat) :
    ∀ levels, Blames (decode levels) w (pathBelow is ++ p) (pathBelow is ++ q) := by
  induction is with
  | nil => exact h
  | cons i is ih => exact fun levels => blames_child ih i

/-- A node has no fields for its line and its column. -/
theorem not_mem_known {l : Nat} {child : Draft → Except Located Nested}
    {IsChild : Draft → Nested → Prop} {name : String} (h : name = "line" ∨ name = "column") :
    name ∉ (record l child IsChild).known := by
  obtain rfl | rfl := h <;> simp [record, Record.known]

/-- A line or a column that has no value is blamed itself. -/
theorem blames_unreadable {name : String} (hname : name = "line" ∨ name = "column")
    (hleaf : w.IsLeaf) (h : ¬w.IsValue) : Blames (decode levels) w [.key name] [.key name] := by
  obtain ⟨child, hdecode, hlawful, -⟩ := exists_lawful levels
  rw [hdecode]
  exact hlawful.blames_other (not_mem_known hname) (blames_value hleaf h)

/-- For a line or a column that is no word the node is blamed. -/
theorem blames_position {name : String} (hname : name = "line" ∨ name = "column")
    (hleaf : w.IsLeaf) (hvalue : w.IsValue) (h : ∀ n, ¬IsWord w n) :
    Blames (decode levels) w [.key name] [] := by
  intro d d' n hd hreplaces
  obtain ⟨child, hdecode, hlawful, -⟩ := exists_lawful levels
  rw [hdecode] at hd ⊢
  obtain ⟨r, hr, -⟩ := monadBind_eq_ok_iff.mp hd
  obtain ⟨ms, r', hmem, hold, hr'⟩ :=
    hlawful.recordOf_replaced (not_mem_known hname) hvalue hleaf hr hreplaces
  refine failsAt_bind_of_ok hr' (failsAt_placed fun n' hn' => ?_)
  obtain ⟨hdecl, -⟩ := exists_holds_iff.mp ⟨r', hold, hn'⟩
  obtain hname | hname := hname
  · obtain ⟨n, -, hword⟩ := hdecl.position.line.exists_of_mem hmem hname
    exact h n hword
  · obtain ⟨n, -, hword⟩ := hdecl.position.column.exists_of_mem hmem hname
    exact h n hword

/-- How a value of a node is spoiled: its place in the node, the value that is put there, and the
place that is blamed. A line or a column is kept as a value until all members are known, so the node
is blamed for one that is no number of 32 bits; one that is not even a value is blamed itself. -/
inductive Spoils (w : Draft) : Path → Path → Prop
  | tag (h : w.NamesNone TypeTag.name) :
    Spoils w [.key "type", .key "tag"] [.key "type", .key "tag"]
  | modifier (j : Nat) (h : w.NamesNone Modifier.name) :
    Spoils w [.key "modifiers", .index j] [.key "modifiers", .index j]
  | annotationName (j : Nat) {x : Except NumeralStop Numeral} (h : w = .numeral x) :
    Spoils w [.key "annotations", .index j, .key "name"] [.key "annotations", .index j, .key "name"]
  | identifierText {x : Except NumeralStop Numeral} (h : w = .numeral x) :
    Spoils w [.key "ident", .key "text"] [.key "ident", .key "text"]
  | position {name : String} (hname : name = "line" ∨ name = "column") (hleaf : w.IsLeaf)
      (hvalue : w.IsValue) (h : ∀ n, ¬IsWord w n) : Spoils w [.key name] []
  | unreadable {name : String} (hname : name = "line" ∨ name = "column") (hleaf : w.IsLeaf)
      (h : ¬w.IsValue) : Spoils w [.key name] [.key name]

/-- A node in which a value is spoiled is blamed at its place. -/
theorem Spoils.blames (h : Spoils w p q) (levels : Nat) : Blames (decode levels) w p q := by
  have htag : ∀ {levels}, w.NamesNone TypeTag.name →
      Blames (Draft.nameOf levels TypeTag.ofName) w [] [] :=
    blames_nameOf fun _ _ => TypeTag.ofName_eq_ok_iff
  have hmodifier : ∀ {levels}, w.NamesNone Modifier.name →
      Blames (Draft.nameOf levels Modifier.ofName) w [] [] :=
    blames_nameOf fun _ _ => Modifier.ofName_eq_ok_iff
  cases h with
  | tag h => exact blames_type (DeclaredType.blames_tag (htag h)) (List.cons_ne_nil _ _)
  | modifier j h => exact blames_modifier (hmodifier h) j
  | @annotationName j x h =>
    refine h ▸ blames_annotation ?_ j
    exact Annotation.blames_name (blames_string x)
  | @identifierText x h =>
    exact h ▸ blames_identifier (Identifier.blames_text (blames_string x)) (List.cons_ne_nil _ _)
  | position hname hleaf hvalue h => exact blames_position hname hleaf hvalue h
  | unreadable hname hleaf h => exact blames_unreadable hname hleaf h

/-- The text of a path to a node below, and of what follows it. -/
theorem stepsText_pathBelow (is : List Nat) (p : Path) :
    Path.stepsText false (pathBelow is ++ p) =
      String.join (is.map fun i => ".children[" ++ toString i ++ "]") ++
        Path.stepsText false p := by
  induction is with
  | nil => simp [pathBelow, String.join]
  | cons i is ih =>
    have hstep : ∀ p : Path, Path.stepsText false (.key "children" :: .index i :: p) =
        ".children[" ++ toString i ++ "]" ++ Path.stepsText false p := by
      intro p
      simp only [Path.stepsText, Bool.false_eq_true, if_false]
      rw [← String.append_assoc, ← String.append_assoc]
      rfl
    rw [List.map_cons, String.join_cons, String.append_assoc, ← ih]
    exact hstep _

end Nested

/-! ## Dumps -/

namespace Dump

/-- The place of the root of a dump: the member of that name, or the second item of a list. -/
def IsRoot (s : Step) : Prop := s = .key "root" ∨ s = .index 1

/-- A place in the root of a dump that is an object. -/
theorem blames_root_of_object (h : Blames (Nested.decode (levels - 1)) w p q) :
    Blames (decode levels) w (.key "root" :: p) (.key "root" :: q) := by
  have hrecord : Blames (fun d => do
      let r ← d.recordOf levels "struct RawTree" Fields.claim (Fields.take (levels - 1)) {}
      placed r.finish) w (.key "root" :: p) (.key "root" :: q) :=
    lawful_record.blames_slot (List.mem_of_getElem? (i := 1) rfl) h
  intro d d' dump hd hreplaces
  cases hreplaces with
  | key hms hms' hv =>
    obtain ⟨members, rfl, hare⟩ := id hms
    obtain ⟨members', rfl, hare'⟩ := id hms'
    exact hrecord _ _ dump hd (.key hms hms' hv)

/-- A place in the root of a dump that is a list. -/
theorem blames_root_of_list (h : Blames (Nested.decode (levels - 1)) w p q) :
    Blames (decode levels) w (.index 1 :: p) (.index 1 :: q) := by
  intro d d' dump hd hreplaces
  generalize hs : Step.index 1 = s at hreplaces
  cases hreplaces with
  | key => cases hs
  | @index _ _ _ v v' before after hitems hitems' hv =>
    cases isDump_of_decode hd with
    | object hms =>
      obtain ⟨_, rfl, -⟩ := hms
      obtain ⟨_, ⟨⟩, -⟩ := hitems
    | @pair x r _ _ hpair _ _ =>
      -- the item before the root is the path
      obtain ⟨u, rfl⟩ := List.length_eq_one_iff.mp (Step.index.inj hs).symm
      obtain ⟨rfl, rfl, rfl⟩ : u = x ∧ v = r ∧ after = [] := by
        simpa using hitems.unique hpair
      obtain ⟨items, rfl, hare⟩ := hpair
      obtain ⟨items', rfl, hare'⟩ := hitems'
      obtain _ | ⟨_ | ⟨⟨⟩⟩⟩ := hare
      obtain _ | ⟨_ | ⟨⟨⟩⟩⟩ := hare'
      cases levels with
      | zero => cases hd
      | succ l =>
        rw [decode_pair] at hd ⊢
        obtain ⟨path, hpath, hd⟩ := monadBind_eq_ok_iff.mp hd
        obtain ⟨root, hroot, -⟩ := monadBind_eq_ok_iff.mp hd
        refine failsAt_bind_of_ok hpath (FailsAt.bind ?_ _)
        exact (h v v' root (within_eq_ok_iff.mp hroot) hv).within _

/-- A place in the root. -/
theorem blames_root (h : ∀ levels, Blames (Nested.decode levels) w p q) {s : Step} (hs : IsRoot s) :
    Blames (decode levels) w (s :: p) (s :: q) := by
  obtain rfl | rfl := hs
  · exact blames_root_of_object (h _)
  · exact blames_root_of_list (h _)

/-- The text of a path to a node, and of what follows it. -/
theorem text_path {s : Step} (hs : IsRoot s) (is : List Nat) (p : Path) :
    Path.text (s :: (Nested.pathBelow is ++ p)) =
      Path.text [s] ++ String.join (is.map fun i => ".children[" ++ toString i ++ "]") ++
        Path.stepsText false p := by
  have hsteps : ∀ p : Path, Path.text (s :: p) = Path.text [s] ++ Path.stepsText false p := by
    obtain rfl | rfl := hs <;> simp [Path.text, Path.stepsText]
  rw [hsteps, Nested.stepsText_pathBelow, String.append_assoc]

end Dump

end Syntax

namespace Scan

open Syntax

/-- **A spoiled value is found at its place.** If one value of a node is spoiled in the text of a
tree, the text is refused. The path that is reported leads to the root, from there to the node by
the numbers of the children on the way, and ends with what is blamed in the node: the tag, the
modifier, the name of the annotation or the text of the identifier that is spoiled, or nothing if it
is the line or the column.

**Proof sketch.** Each decoder passes on what the one inside of it blames, with the step between
them. So the place is followed from the outside inwards: through the dump, the numbers of the
children, and the part of the node. Whatever stands before the place in the text is decoded as it
was. A line or a column that has a value is not looked at until the node has taken all its members,
which it does as before. -/
theorem parseTree_blames {text text' : String} {tree : Tree} {d d' w : Draft} {s : Step}
    {is : List Nat} {p q : Path} (htext : d.IsTextOf text) (hparse : parseTree text = .ok tree)
    (hs : Dump.IsRoot s) (hspoils : Nested.Spoils w p q)
    (hreplaces : w.Replaces (s :: (Nested.pathBelow is ++ p)) d d') (htext' : d'.IsTextOf text') :
    (∃ fault, parseTree text' = .error (.malformed ⟨s :: (Nested.pathBelow is ++ q), fault⟩)) ∧
      Path.text (s :: (Nested.pathBelow is ++ q)) =
        Path.text [s] ++ String.join (is.map fun i => ".children[" ++ toString i ++ "]") ++
          Path.stepsText false q := by
  refine ⟨?_, Dump.text_path hs is q⟩
  rw [parseTree, Dump.parse_of_isTextOf htext, map_eq_ok_iff] at hparse
  obtain ⟨dump, hdump, -⟩ := hparse
  have hblames : Blames (Dump.decode maxLevels) w (s :: (Nested.pathBelow is ++ p))
      (s :: (Nested.pathBelow is ++ q)) :=
    Dump.blames_root (Nested.blames_below hspoils.blames is) hs
  obtain ⟨fault, hfault⟩ := hblames d d' dump (mapError_eq_ok_iff.mp hdump) hreplaces
  rw [parseTree, Dump.parse_of_isTextOf htext', hfault]
  exact ⟨fault, rfl⟩

/-- The members of an object whose keys are written as they are. -/
def plainMembers : List (String × Draft) → Members
  | [] => .stop .closed
  | (name, v) :: ms => .member (.plain name) v (plainMembers ms)

theorem hasMembers_plainMembers (ms : List (String × Draft)) :
    (Draft.object (plainMembers ms)).HasMembers ms := by
  refine ⟨_, rfl, ?_⟩
  induction ms with
  | nil => exact .nil
  | cons m ms ih => exact .cons (Quoted.denotes_plain _) ih

/-- The syntax tree of a dump with a child whose type has a tag. -/
def childDraft (tag : String) : Draft :=
  let one : Draft := .numeral (.ok (.ofDigit '1'))
  let type : Draft := .object (plainMembers
    [("tag", .quoted (.plain tag)), ("line", one), ("column", one)])
  let child : Draft := .object (plainMembers
    [("kind", .quoted (.plain "B")), ("line", one), ("column", one), ("type", type)])
  let root : Draft := .object (plainMembers
    [("kind", .quoted (.plain "A")), ("line", one), ("column", one),
      ("children", .list (.item child (.stop .closed)))])
  .object (plainMembers [("root", root)])

/-- The text of the dump. -/
def childText (tag : String) : String :=
  "\x7b\"root\":\x7b\"kind\":\"A\",\"line\":1,\"column\":1,\"children\":[" ++
    "\x7b\"kind\":\"B\",\"line\":1,\"column\":1,\"type\":\x7b\"tag\":\"" ++ tag ++
      "\",\"line\":1,\"column\":1\x7d\x7d]\x7d\x7d"

/-- The tag of the child is replaced by a name that no tag has. -/
theorem parseTree_blames_tag :
    (∃ tree, parseTree (childText "byte") = .ok tree) ∧
      ∃ fault, parseTree (childText "bit") = .error (.malformed
        ⟨[.key "root", .key "children", .index 0, .key "type", .key "tag"], fault⟩) := by
  have htext : (childDraft "byte").IsTextOf (childText "byte") :=
    Draft.isTextOf_of_read (b := []) (by decide +kernel) isBlank_nil rfl
  have htext' : (childDraft "bit").IsTextOf (childText "bit") :=
    Draft.isTextOf_of_read (b := []) (by decide +kernel) isBlank_nil rfl
  have hparse : ∃ tree, parseTree (childText "byte") = .ok tree := by decide +kernel
  have hspoils : Nested.Spoils (.quoted (.plain "bit")) [.key "type", .key "tag"]
      [.key "type", .key "tag"] := by
    refine .tag (Or.inl ⟨_, rfl, fun name hname tag => ?_⟩)
    rw [hname.unique (Quoted.denotes_plain "bit")]
    cases tag <;> decide
  have hreplaces : (Draft.quoted (.plain "bit")).Replaces
      (.key "root" :: (Nested.pathBelow [0] ++ [.key "type", .key "tag"]))
      (childDraft "byte") (childDraft "bit") := by
    have h := hasMembers_plainMembers
    have hitem : ∀ v : Draft, (Draft.list (.item v (.stop .closed))).HasItems ([] ++ v :: []) :=
      fun v => ⟨_, rfl, .cons .nil⟩
    unfold childDraft
    refine .key (h ([] ++ (_, _) :: [])) (h ([] ++ (_, _) :: [])) ?_
    refine .key (h ([_, _, _] ++ (_, _) :: [])) (h ([_, _, _] ++ (_, _) :: [])) ?_
    refine .index (hitem _) (hitem _) ?_
    refine .key (h ([_, _, _] ++ (_, _) :: [])) (h ([_, _, _] ++ (_, _) :: [])) ?_
    exact .key (h ([] ++ (_, _) :: [_, _])) (h ([] ++ (_, _) :: [_, _])) (.here _)
  obtain ⟨tree, htree⟩ := hparse
  exact ⟨⟨tree, htree⟩, (parseTree_blames htext htree (Or.inl rfl) hspoils hreplaces htext').1⟩

/-- A line that is too large for a double is blamed itself, and the root of a dump that is a list
has no name. -/
theorem parseTree_blames_otherwise :
    (∃ tree, parseTree
        "\x7b\"root\":\x7b\"kind\":\"A\",\"line\":1,\"column\":2\x7d\x7d" = .ok tree) ∧
      parseTree "\x7b\"root\":\x7b\"kind\":\"A\",\"line\":1e400,\"column\":2\x7d\x7d" =
        .error (.malformed ⟨[.key "root", .key "line"], .numberTooLarge⟩) ∧
      Path.text [.key "root", .key "line"] = "root.line" ∧
      (∃ tree, parseTree "[\"\",\x7b\"kind\":\"A\",\"line\":1,\"column\":2\x7d]" = .ok tree) ∧
      parseTree "[\"\",\x7b\"kind\":\"A\",\"line\":1,\"column\":\"x\"\x7d]" =
        .error (.malformed ⟨[.index 1], .wrongType (.string "x") "u32"⟩) ∧
      Path.text [.index 1] = "[1]" := by
  refine ⟨?_, ?_, ?_, ?_, ?_, ?_⟩ <;> decide +kernel

end Scan

end NullLint
