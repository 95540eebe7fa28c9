import NullLint.Proofs.Rule.Judgement
import NullLint.Proofs.Rule.Nested

set_option autoImplicit false
set_option relaxedAutoImplicit false

/-!
# The presentation of declarations

Two declarations that differ only in the order and the repetition of their modifiers and of their
annotations, in the packages of their annotations and in the display names of their types are judged
alike. So two trees all of whose declarations differ in no other way get the same report.

## Main definitions

* `Syntax.Declaration.Resembles`, `Syntax.Nested.Resembles`, `Syntax.Dump.Resembles` —
  declarations, nested trees and dumps that differ in their presentation only.

## Main results

* `Syntax.Declaration.Resembles.firstPosition_eq` — both declarations start at the same position.
* `NullAnnotations.Classifier.assess_eq_of_resembles`,
  `NullAnnotations.Classifier.visitNested_eq_of_resembles` — the same is found at both of them.
* `NullAnnotations.Classifier.dispatch_eq_of_resembles` — **presentation does not matter**.
-/

namespace NullLint

open Syntax

namespace Syntax

/-! ## Declarations -/

/-- Two declarations differ in their presentation only. Their modifiers are the same set, and so are
the simple names of their annotations (what follows the last point of a name) and the positions of
these. Nothing is said about the display names of their types. -/
structure Declaration.Resembles (d d' : Declaration) : Prop where
  kind : d'.kind = d.kind
  position : d'.position = d.position
  identifier : d'.identifier = d.identifier
  tag : d'.type.map (·.tag) = d.type.map (·.tag)
  typePosition : d'.type.map (·.position) = d.type.map (·.position)
  modifiers : ∀ m, m ∈ d'.modifiers ↔ m ∈ d.modifiers
  simpleNames : ∀ name, (∃ a ∈ d'.annotations, Text.IsLastSegment '.' a.name name) ↔
    ∃ a ∈ d.annotations, Text.IsLastSegment '.' a.name name
  positions : ∀ p, (∃ a ∈ d'.annotations, a.position = p) ↔ ∃ a ∈ d.annotations, a.position = p

/-- An annotation of a simple name is given if the name is the last segment of one of the names. -/
theorem Declaration.isAnnotatedWith_iff {d : Declaration} {name : String} :
    d.isAnnotatedWith name = true ↔ ∃ a ∈ d.annotations, Text.IsLastSegment '.' a.name name := by
  simp only [isAnnotatedWith, List.any_eq_true, beq_iff_eq, Annotation.simpleName,
    Text.afterLast_eq_iff]

namespace Declaration.Resembles

variable {d d' : Declaration} (h : d.Resembles d')

include h

theorem hasModifier_eq (m : Modifier) : d'.hasModifier m = d.hasModifier m := by
  rw [Bool.eq_iff_iff, hasModifier, hasModifier, List.contains_iff_mem, List.contains_iff_mem,
    h.modifiers]

theorem isAnnotatedWith_eq (name : String) : d'.isAnnotatedWith name = d.isAnnotatedWith name := by
  rw [Bool.eq_iff_iff, isAnnotatedWith_iff, isAnnotatedWith_iff, h.simpleNames]

/-- Both declarations have tokens at the same positions, if not the same number of them. -/
theorem mem_positions_iff {p : Position} :
    p ∈ d'.position :: d'.partPositions ↔ p ∈ d.position :: d.partPositions := by
  simp only [partPositions, List.mem_cons, List.mem_append, List.mem_map, h.position,
    h.identifier, h.typePosition, h.positions]

/-- Both declarations start at the same position. -/
theorem firstPosition_eq : d'.firstPosition = d.firstPosition := by
  have hle := Position.foldl_min_le d.position d.partPositions
  have hle' := Position.foldl_min_le d'.position d'.partPositions
  have hmem := Position.foldl_min_mem d.position d.partPositions
  have hmem' := Position.foldl_min_mem d'.position d'.partPositions
  exact Position.le_antisymm (hle' _ (h.mem_positions_iff.mpr hmem))
    (hle _ (h.mem_positions_iff.mp hmem'))

end Declaration.Resembles

/-! ## Trees -/

/-- Two nested trees of the same shape differ in the presentation of their declarations only. -/
inductive Nested.Resembles : Nested → Nested → Prop
  | node {d d' : Declaration} {cs cs' : List Nested} (hd : d.Resembles d')
      (hcs : List.Forall₂ Resembles cs cs') : Resembles (.node d cs) (.node d' cs')

/-- Two dumps with the same path differ in the presentation of their declarations only. -/
structure Dump.Resembles (dump dump' : Dump) : Prop where
  path : dump'.path = dump.path
  root : dump.root.Resembles dump'.root

namespace Nested.Resembles

variable {s s' : Nested} (h : s.Resembles s')

include h

theorem declaration : s.declaration.Resembles s'.declaration := by
  cases h with
  | node hd => exact hd

theorem children : List.Forall₂ Nested.Resembles s.children s'.children := by
  cases h with
  | node _ hcs => exact hcs

/-- The parameters of both nested trees resemble each other. -/
theorem parameters : List.Forall₂ Declaration.Resembles s.parameters s'.parameters := by
  have hfind := find?_of_forall₂ (p := fun c : Nested => c.declaration.kind == .parameters)
    (q := fun c : Nested => c.declaration.kind == .parameters) h.children
    fun c c' hc => by rw [hc.declaration.kind]
  rw [Nested.parameters, Nested.parameters]
  rcases hfind with ⟨hn, hn'⟩ | ⟨p, p', hp, hn, hn'⟩
  · rw [hn, hn']
    exact .nil
  · rw [hn, hn']
    refine List.rel_filter (fun d d' hd => ?_) ?_
    · simp only [hd.kind]
    · rw [List.forall₂_map_left_iff, List.forall₂_map_right_iff]
      exact hp.children.imp fun _ _ hc => hc.declaration

end Nested.Resembles

end Syntax

/-! ## What is found -/

namespace NullAnnotations

/-- Declarations that resemble each other and are both constants or both not. -/
def ResembleAsSubjects (x x' : Bool × Declaration) : Prop :=
  x'.1 = x.1 ∧ x.2.Resembles x'.2

/-- The subjects of nested trees that resemble each other do so, too. -/
theorem forall₂_nestedSubjects {s s' : Nested} (h : s.Resembles s') (member : Bool) :
    List.Forall₂ ResembleAsSubjects (nestedSubjects member s) (nestedSubjects member s') := by
  have hd := h.declaration
  have hparameters : List.Forall₂ ResembleAsSubjects (s.parameters.map fun p => (false, p))
      (s'.parameters.map fun p => (false, p)) := by
    rw [List.forall₂_map_left_iff, List.forall₂_map_right_iff]
    exact h.parameters.imp fun _ _ hp => ⟨rfl, hp⟩
  have hcallable : List.Forall₂ ResembleAsSubjects
      ((false, s.declaration) :: if s.declaration.hasModifier .isNative then []
        else s.parameters.map fun p => (false, p))
      ((false, s'.declaration) :: if s'.declaration.hasModifier .isNative then []
        else s'.parameters.map fun p => (false, p)) := by
    refine .cons ⟨rfl, hd⟩ ?_
    rw [hd.hasModifier_eq]
    split
    · exact .nil
    · exact hparameters
  rw [nestedSubjects, nestedSubjects, hd.kind]
  split
  · split
    · exact .cons ⟨by rw [hd.hasModifier_eq, hd.hasModifier_eq], hd⟩ .nil
    · exact .nil
  · exact hcallable
  · exact hcallable
  · exact .nil

namespace Classifier

variable (c : Classifier) (tokens : KindSet)

/-- The same is wrong with declarations that resemble each other. -/
theorem assess_eq_of_resembles {d d' : Declaration} (h : d.Resembles d') (constant : Bool) :
    c.assess constant d' = c.assess constant d := by
  have hmarks : c.marks d' = c.marks d := by
    rw [marks, marks, h.isAnnotatedWith_eq, h.isAnnotatedWith_eq]
  rw [assess, assess, h.kind, h.position, h.identifier, hmarks, h.firstPosition_eq]
  -- Nothing but the tag of a type is looked at.
  cases ht : d.type with
  | none =>
    have ht' : d'.type = none := by simpa [ht] using h.tag
    rw [ht']
  | some type =>
    obtain ⟨type', ht', htag⟩ : ∃ type', d'.type = some type' ∧ type'.tag = type.tag := by
      simpa [ht] using h.tag
    rw [ht']
    dsimp only
    rw [htag]

/-- The same is reported about nested trees that resemble each other. -/
theorem visitNested_eq_of_resembles {s s' : Nested} (h : s.Resembles s') (member : Bool) :
    c.visitNested member s' = c.visitNested member s := by
  have hsubjects := (forall₂_nestedSubjects h member).imp
    (S := fun x x' => c.assess x.1 x.2 = c.assess x'.1 x'.2)
    fun x x' hx => by rw [hx.1, c.assess_eq_of_resembles hx.2]
  rw [visitNested, visitNested, mapM_eq_mapM_of_forall₂ hsubjects]

/-- The recursion comes to the same on nested trees that resemble each other.

**Proof sketch.** Induction on the nested tree. The kinds are the same, so the recursion is shown
the same nodes and carries the same down. -/
theorem gather_eq_of_resembles {s s' : Nested} (h : s.Resembles s') (member : Bool) :
    Nested.gather c.visitNested tokens member s' =
      Nested.gather c.visitNested tokens member s := by
  induction s generalizing s' member with
  | node d cs ih =>
    have hvisit := c.visitNested_eq_of_resembles h member
    cases h with
    | @node _ d' _ cs' hd hcs =>
      have hbelow : ∀ member, Nested.gatherBelow c.visitNested tokens member cs' =
          Nested.gatherBelow c.visitNested tokens member cs := by
        intro member
        clear hvisit
        induction hcs with
        | nil => rfl
        | @cons s s' cs cs' hs _ ihcs =>
          rw [Nested.gatherBelow, Nested.gatherBelow, ih s List.mem_cons_self hs,
            ihcs fun x hx => ih x (List.mem_cons_of_mem s hx)]
      rw [Nested.gather, Nested.gather, hvisit, hd.kind, hbelow]

/-- **Presentation does not matter.** Whatever state the rule is in and whatever nodes it is shown,
it reports the same about two trees that differ in the presentation of their declarations only, in
the same order, or fails on both with the same error. -/
theorem dispatch_eq_of_resembles {dump dump' : Dump} (h : dump.Resembles dump') :
    (c.shownTo tokens).dispatch (Tree.ofDump dump') =
      (c.shownTo tokens).dispatch (Tree.ofDump dump) := by
  rw [c.dispatch_eq_gather_visitNested, c.dispatch_eq_gather_visitNested, h.path,
    c.gather_eq_of_resembles tokens h.root]

/-- The body of a type: a constant that has an annotation in vain, and a field that lacks one. -/
def plainHouse : Dump where
  path := "House.java"
  root := .node ⟨.objectBlock, ⟨1, 13⟩, none, none, [], []⟩ [
    .node ⟨.variableDef, ⟨2, 5⟩, some ⟨"ROOMS", ⟨3, 25⟩⟩, none, [.isStatic, .isFinal],
      [⟨"Deprecated", ⟨2, 5⟩⟩, ⟨"NonNull", ⟨2, 17⟩⟩]⟩ [],
    .node ⟨.variableDef, ⟨4, 5⟩, some ⟨"owner", ⟨4, 12⟩⟩,
      some ⟨.reference, some "String", ⟨4, 5⟩⟩, [], []⟩ []]

/-- The same body, presented in another way: modifiers and annotations are repeated and in another
order, annotations have packages, and the type has no display name. -/
def ornateHouse : Dump where
  path := "House.java"
  root := .node ⟨.objectBlock, ⟨1, 13⟩, none, none, [], []⟩ [
    .node ⟨.variableDef, ⟨2, 5⟩, some ⟨"ROOMS", ⟨3, 25⟩⟩, none, [.isFinal, .isStatic, .isFinal],
      [⟨"org.house.NonNull", ⟨2, 17⟩⟩, ⟨"java.lang.Deprecated", ⟨2, 5⟩⟩, ⟨"NonNull", ⟨2, 17⟩⟩]⟩ [],
    .node ⟨.variableDef, ⟨4, 5⟩, some ⟨"owner", ⟨4, 12⟩⟩, some ⟨.reference, none, ⟨4, 5⟩⟩, [], []⟩
      []]

theorem plainHouse_resembles_ornateHouse : plainHouse.Resembles ornateHouse where
  path := rfl
  root := by
    refine .node ?_ (.cons (.node ?_ .nil) (.cons (.node ?_ .nil) .nil))
    · exact ⟨rfl, rfl, rfl, rfl, rfl, fun _ => Iff.rfl, fun _ => Iff.rfl, fun _ => Iff.rfl⟩
    · have hdeprecated : Text.afterLast '.' "java.lang.Deprecated" = "Deprecated" := by decide
      have hnonNull : Text.afterLast '.' "org.house.NonNull" = "NonNull" := by decide
      have hdeprecated' : Text.afterLast '.' "Deprecated" = "Deprecated" := by decide
      have hnonNull' : Text.afterLast '.' "NonNull" = "NonNull" := by decide
      refine ⟨rfl, rfl, rfl, rfl, rfl, fun m => by cases m <;> decide, fun name => ?_, fun p => ?_⟩
      · simp only [← Text.afterLast_eq_iff, List.mem_cons, List.not_mem_nil, or_false,
          exists_eq_or_imp, exists_eq_left, hdeprecated, hdeprecated', hnonNull, hnonNull']
        tauto
      · simp only [List.mem_cons, List.not_mem_nil, or_false, exists_eq_or_imp, exists_eq_left]
        tauto
    · exact ⟨rfl, rfl, rfl, rfl, rfl, fun _ => Iff.rfl, fun _ => Iff.rfl, fun _ => Iff.rfl⟩

/-- Two things are reported about both of them. -/
theorem dispatch_ornateHouse :
    plainHouse.Resembles ornateHouse ∧
      (({} : Classifier).shownTo (KindSet.ofList rule.defaultTokens)).dispatch
        (Tree.ofDump ornateHouse) = .ok [
          ⟨⟨2, 5⟩, "null.annotations.redundant",
            "Redundant @NonNull/@Nullable annotation on 'ROOMS'", "ROOMS"⟩,
          ⟨⟨4, 5⟩, "null.annotations.missing",
            "Missing @NonNull or @Nullable annotation on 'owner'", "owner"⟩] := by
  refine ⟨plainHouse_resembles_ornateHouse, ?_⟩
  rw [dispatch_eq_of_resembles _ _ plainHouse_resembles_ornateHouse, Tree.ofDump_eq_layOut]
  rfl

end Classifier

end NullAnnotations

end NullLint
