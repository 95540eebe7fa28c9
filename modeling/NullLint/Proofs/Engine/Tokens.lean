import NullLint.Engine.Configure
import NullLint.Proofs.Matching
import NullLint.Proofs.Progress
import NullLint.Proofs.Syntax.Kind
import NullLint.Proofs.Text.Blank
import NullLint.Proofs.Text.Cut

set_option autoImplicit false
set_option relaxedAutoImplicit false

/-!
# The kinds of nodes a rule is shown

The property `tokens` lists names of kinds with commas between them. A rule is shown the kinds that
are listed, or its default ones if the property is not given, and those it requires in any case. The
property is refused if nothing is listed, or for the first item that is not the name of a kind that
the rule accepts. Order and repetitions of the items do not matter.

## Main definitions

* `ListsItems` — the items that a value lists.
* `Rule.AcceptsItem`, `Rule.RefusesItem` — the items that a rule accepts, and why it refuses others.
* `Rule.Chooses`, `Rule.RefusesTokens` — the kinds of nodes a rule is shown, and why a value of the
  property is refused.

## Main results

* `listsItems_iff` — `splitList` finds the items of a value.
* `Rule.effectiveTokens_eq_ok_iff`, `Rule.effectiveTokens_eq_error_iff` — what the property comes
  to.
* `Rule.exists_chooses_iff` — when there are kinds of nodes for a rule.
* `Rule.effectiveTokens_decides` — **what the property comes to**, and what does not matter for it.
-/

namespace NullLint

open Syntax

/-! ## Items of a list -/

section

variable {value : String} {items : List String}

/-- The items that a value lists: the parts between its commas without the blanks around them, as
far as anything is left. -/
def ListsItems (value : String) (items : List String) : Prop :=
  ∃ pieces trimmed, Text.ArePieces ',' value pieces ∧ List.Forall₂ Text.IsTrimOf pieces trimmed ∧
    items = trimmed.filter fun item => item ≠ ""

/-- Every value lists some items. -/
theorem listsItems_iff : ListsItems value items ↔ items = splitList value := by
  have htrim : ∀ pieces trimmed : List String,
      List.Forall₂ Text.IsTrimOf pieces trimmed ↔ pieces.map Text.trim = trimmed := by
    intro pieces trimmed
    rw [← List.forall₂_eq_eq_eq, List.forall₂_map_left_iff]
    simp only [Text.trim_eq_iff]
  have hfilter : ∀ trimmed : List String,
      (trimmed.filter fun item => item ≠ "") = trimmed.filter fun item => !item.isEmpty := by
    intro trimmed
    apply List.filter_congr
    intro item _
    rw [Bool.eq_iff_iff]
    simp
  unfold ListsItems splitList
  simp only [htrim, ← Text.pieces_eq_iff, hfilter]
  constructor
  · rintro ⟨_, _, rfl, rfl, rfl⟩
    rfl
  · rintro rfl
    exact ⟨_, _, rfl, rfl, rfl⟩

/-- An item has no blanks around it. -/
theorem isTrimmed_of_mem_splitList (value : String) :
    ∀ item ∈ splitList value, Text.IsTrimmed item.toList := by
  intro item h
  unfold splitList at h
  obtain ⟨piece, -, rfl⟩ := List.mem_map.mp (List.mem_filter.mp h).1
  exact (Text.trim_eq_iff.mp rfl).1

/-- There is no comma in an item. -/
theorem comma_notMem_of_mem_splitList (value : String) :
    ∀ item ∈ splitList value, ',' ∉ item.toList := by
  intro item h hcomma
  unfold splitList at h
  obtain ⟨piece, hpiece, rfl⟩ := List.mem_map.mp (List.mem_filter.mp h).1
  obtain ⟨-, before, after, hsplit, -, -⟩ := Text.trim_eq_iff.mp (rfl : Text.trim piece = _)
  have hfree := (Text.pieces_eq_iff.mp rfl).2.1 piece hpiece
  rw [hsplit, String.toList_append, String.toList_append] at hfree
  exact hfree (List.mem_append_left _ (List.mem_append_right _ hcomma))

/-- Items without blanks around them and without commas are listed by the value that has commas
between them. -/
theorem listsItems_intercalate (htrimmed : ∀ item ∈ items, Text.IsTrimmed item.toList)
    (hne : ∀ item ∈ items, item ≠ "") (hcomma : ∀ item ∈ items, ',' ∉ item.toList) :
    ListsItems (",".intercalate items) items := by
  cases items with
  | nil =>
    -- Nothing stands before the first comma, since there is none; it is an empty item.
    have htrim : Text.IsTrimOf "" "" := Text.trim_eq_iff.mp rfl
    exact ⟨[""], [""], ⟨by simp, by simp, rfl⟩, .cons htrim .nil, rfl⟩
  | cons first rest =>
    refine ⟨first :: rest, first :: rest, ⟨List.cons_ne_nil _ _, hcomma, rfl⟩, ?_, ?_⟩
    · rw [List.forall₂_same]
      exact fun item hitem => Text.trim_eq_iff.mp (Text.trim_of_isTrimmed (htrimmed item hitem))
    · exact (List.filter_eq_self.mpr fun item hitem => decide_eq_true (hne item hitem)).symm

/-- A value lists the same items when commas are put between them. -/
theorem splitList_intercalate (value : String) :
    splitList (",".intercalate (splitList value)) = splitList value := by
  refine (listsItems_iff.mp ?_).symm
  refine listsItems_intercalate (isTrimmed_of_mem_splitList value) (fun item hitem => ?_)
    (comma_notMem_of_mem_splitList value)
  simpa using (List.mem_filter.mp hitem).2

end

/-! ## One item -/

namespace Rule

variable (rule : Rule)

/-- An item is the name of a kind that the rule accepts. -/
def AcceptsItem (item : String) : Prop :=
  ∃ k ∈ rule.acceptableTokens, k ∈ Kind.named ∧ k.name = item

/-- Why an item is refused: it is not the name of a kind, or of one that the rule does not
accept. -/
inductive RefusesItem (item : String) : ConfigFault → Prop
  | unknown (h : ∀ k ∈ Kind.named, k.name ≠ item) : RefusesItem item (.unknownToken item)
  | unacceptable {k : Kind} (hk : k ∈ Kind.named) (hname : k.name = item)
    (h : k ∉ rule.acceptableTokens) : RefusesItem item (.unacceptableToken k)

variable {rule} {item : String} {k : Kind} {fault : ConfigFault}

/-- What is read of an item, by the kind that it names. -/
theorem tokenOf_eq (hitem : Text.IsTrimmed item.toList) :
    tokenOf rule.acceptableTokens item =
      match Kind.named? item with
      | none => .error (.unknownToken item)
      | some k =>
        if k ∈ rule.acceptableTokens then .ok k else .error (.unacceptableToken k) := by
  unfold tokenOf Kind.parse?
  rw [Text.trim_of_isTrimmed hitem]
  cases Kind.named? item with
  | none => rfl
  | some k => simp only [List.contains_iff_mem]

theorem tokenOf_eq_ok_iff (hitem : Text.IsTrimmed item.toList) :
    tokenOf rule.acceptableTokens item = .ok k ↔
      k ∈ rule.acceptableTokens ∧ k ∈ Kind.named ∧ k.name = item := by
  rw [tokenOf_eq hitem, ← Kind.named?_eq_some_iff]
  cases Kind.named? item with
  | none => simp
  | some k' =>
    by_cases hmem : k' ∈ rule.acceptableTokens
    · simp only [hmem, ↓reduceIte, Except.ok.injEq, Option.some.injEq]
      constructor
      · rintro rfl
        exact ⟨hmem, rfl⟩
      · exact fun h => h.2
    · simp only [hmem, ↓reduceIte, reduceCtorEq, Option.some.injEq, false_iff]
      rintro ⟨hk, rfl⟩
      exact hmem hk

theorem isOk_tokenOf_iff (hitem : Text.IsTrimmed item.toList) :
    (tokenOf rule.acceptableTokens item).isOk = true ↔ rule.AcceptsItem item := by
  have hok : (tokenOf rule.acceptableTokens item).isOk = true ↔
      ∃ k, tokenOf rule.acceptableTokens item = .ok k := by
    cases tokenOf rule.acceptableTokens item <;> simp [Except.isOk, Except.toBool]
  rw [hok]
  exact exists_congr fun k => tokenOf_eq_ok_iff hitem

theorem tokenOf_eq_error_iff (hitem : Text.IsTrimmed item.toList) :
    tokenOf rule.acceptableTokens item = .error fault ↔ rule.RefusesItem item fault := by
  rw [tokenOf_eq hitem]
  constructor
  · intro h
    cases hk : Kind.named? item with
    | none =>
      rw [hk] at h
      cases h
      exact .unknown (Kind.named?_eq_none_iff.mp hk)
    | some k =>
      obtain ⟨hnamed, hname⟩ := Kind.named?_eq_some_iff.mp hk
      rw [hk] at h
      dsimp only at h
      split at h
      · cases h
      · cases h
        exact .unacceptable hnamed hname ‹_›
  · intro h
    cases h with
    | unknown hnone => rw [Kind.named?_eq_none_iff.mpr hnone]
    | unacceptable hnamed hname hnot =>
      rw [Kind.named?_eq_some_iff.mpr ⟨hnamed, hname⟩]
      exact if_neg hnot

/-! ## The whole property -/

variable (rule)

/-- The kinds of nodes a rule is shown: its default ones if the property is not given, and otherwise
those that are listed, if there are any and the rule accepts all of them; and the required ones. -/
inductive Chooses : Option String → KindSet → Prop
  | default {tokens : KindSet}
    (h : ∀ k, k ∈ tokens ↔ k ∈ rule.defaultTokens ∨ k ∈ rule.requiredTokens) : Chooses none tokens
  | listed {value : String} {items : List String} {tokens : KindSet}
    (hitems : ListsItems value items) (hne : items ≠ [])
    (hall : ∀ item ∈ items, rule.AcceptsItem item)
    (h : ∀ k, k ∈ tokens ↔ (k ∈ Kind.named ∧ k.name ∈ items) ∨ k ∈ rule.requiredTokens) :
    Chooses (some value) tokens

/-- Why a value of the property is refused: it lists nothing, or the first item that the rule does
not accept is to blame. -/
inductive RefusesTokens (value : String) : ConfigFault → Prop
  | empty (h : ListsItems value []) : RefusesTokens value .noTokens
  | item {before after : List String} {item : String} {fault : ConfigFault}
    (hitems : ListsItems value (before ++ item :: after))
    (hbefore : ∀ x ∈ before, rule.AcceptsItem x) (h : rule.RefusesItem item fault) :
    RefusesTokens value fault

variable {rule} {value : String} {kinds : List Kind} {tokens : KindSet}

/-- The kinds that a value lists, if there are any and the rule accepts all of them. -/
theorem chosenTokens_eq_ok_iff : chosenTokens rule (some value) = .ok kinds ↔
    (splitList value).mapM (tokenOf rule.acceptableTokens) = .ok kinds ∧ kinds ≠ [] := by
  unfold chosenTokens
  dsimp only
  cases (splitList value).mapM (tokenOf rule.acceptableTokens) with
  | error fault => simp
  | ok found =>
    cases found with
    | nil =>
      simp only [reduceCtorEq, Except.ok.injEq, false_iff, not_and, not_not]
      exact Eq.symm
    | cons k ks =>
      simp only [Except.ok.injEq, iff_self_and]
      rintro rfl
      simp

theorem chosenTokens_eq_error_iff : chosenTokens rule (some value) = .error fault ↔
    (splitList value).mapM (tokenOf rule.acceptableTokens) = .error fault ∨
      (splitList value).mapM (tokenOf rule.acceptableTokens) = .ok [] ∧ fault = .noTokens := by
  unfold chosenTokens
  dsimp only
  cases (splitList value).mapM (tokenOf rule.acceptableTokens) with
  | error fault => simp
  | ok found =>
    cases found with
    | nil => simp [eq_comm]
    | cons k ks => simp

/-- The kinds of items that are all accepted.

**Proof sketch.** Items and kinds match: each item names its kind, and it names no other kind. -/
theorem mem_iff_of_mapM_tokenOf {items : List String}
    (htrimmed : ∀ item ∈ items, Text.IsTrimmed item.toList)
    (h : items.mapM (tokenOf rule.acceptableTokens) = .ok kinds) (k : Kind) :
    k ∈ kinds ↔ k ∈ Kind.named ∧ k.name ∈ items := by
  have hmatch := mapM_eq_ok_iff.mp h
  constructor
  · intro hk
    obtain ⟨item, hitem, hok⟩ := exists_of_forall₂_of_mem hmatch hk
    obtain ⟨-, hnamed, rfl⟩ := (tokenOf_eq_ok_iff (htrimmed item hitem)).mp hok
    exact ⟨hnamed, hitem⟩
  · rintro ⟨hnamed, hitem⟩
    obtain ⟨k', hk', hok⟩ := exists_of_forall₂_of_mem hmatch.flip hitem
    obtain ⟨-, hnamed', hname⟩ := (tokenOf_eq_ok_iff (htrimmed _ hitem)).mp hok
    have hsome := Kind.named?_eq_some_iff.mpr ⟨hnamed, rfl⟩
    rw [Kind.named?_eq_some_iff.mpr ⟨hnamed', hname⟩] at hsome
    cases hsome
    exact hk'

/-- Items are all accepted if a kind is read of each of them. -/
theorem exists_mapM_tokenOf_iff {items : List String}
    (htrimmed : ∀ item ∈ items, Text.IsTrimmed item.toList) :
    (∃ kinds, items.mapM (tokenOf rule.acceptableTokens) = .ok kinds) ↔
      ∀ item ∈ items, rule.AcceptsItem item := by
  rw [exists_mapM_eq_ok_iff]
  refine forall₂_congr fun item hitem => ?_
  exact exists_congr fun k => tokenOf_eq_ok_iff (htrimmed item hitem)

/-- The kinds of nodes a rule is shown. -/
theorem effectiveTokens_eq_ok_iff {value : Option String} :
    effectiveTokens rule value = .ok tokens ↔ rule.Chooses value tokens := by
  unfold effectiveTokens
  rw [map_eq_ok_iff]
  constructor
  · rintro ⟨kinds, hkinds, rfl⟩
    cases value with
    | none =>
      cases hkinds
      exact .default fun k => by simp
    | some value =>
      have htrimmed := isTrimmed_of_mem_splitList value
      obtain ⟨hmapM, hne⟩ := chosenTokens_eq_ok_iff.mp hkinds
      refine .listed (listsItems_iff.mpr rfl) ?_ ?_ fun k => ?_
      · intro hempty
        rw [hempty] at hmapM
        cases hmapM
        exact hne rfl
      · exact (exists_mapM_tokenOf_iff htrimmed).mp ⟨kinds, hmapM⟩
      · rw [KindSet.mem_ofList_iff, List.mem_append, mem_iff_of_mapM_tokenOf htrimmed hmapM]
  · intro h
    cases h with
    | default h =>
      refine ⟨rule.defaultTokens, rfl, KindSet.eq_of_mem_iff fun k => ?_⟩
      rw [h, KindSet.mem_ofList_iff, List.mem_append]
    | @listed value items tokens hitems hne hall h =>
      obtain rfl := listsItems_iff.mp hitems
      have htrimmed := isTrimmed_of_mem_splitList value
      obtain ⟨kinds, hmapM⟩ := (exists_mapM_tokenOf_iff htrimmed).mpr hall
      refine ⟨kinds, chosenTokens_eq_ok_iff.mpr ⟨hmapM, ?_⟩, KindSet.eq_of_mem_iff fun k => ?_⟩
      · rintro rfl
        exact hne (List.forall₂_nil_right_iff.mp (mapM_eq_ok_iff.mp hmapM))
      · rw [h, KindSet.mem_ofList_iff, List.mem_append, mem_iff_of_mapM_tokenOf htrimmed hmapM]

/-- Why there are no kinds of nodes for a rule to be shown. -/
theorem effectiveTokens_eq_error_iff {value : Option String} :
    effectiveTokens rule value = .error fault ↔
      ∃ text, value = some text ∧ rule.RefusesTokens text fault := by
  unfold effectiveTokens
  rw [map_eq_error_iff]
  cases value with
  | none => simp [chosenTokens]
  | some value =>
    have htrimmed := isTrimmed_of_mem_splitList value
    simp only [Option.some.injEq, exists_eq_left']
    rw [chosenTokens_eq_error_iff, mapM_eq_error_iff]
    constructor
    · rintro (⟨before, item, after, hsplit, hbefore, hitem⟩ | ⟨hempty, rfl⟩)
      · rw [hsplit] at htrimmed
        refine .item (listsItems_iff.mpr hsplit.symm) (fun x hx => ?_) ?_
        · exact (isOk_tokenOf_iff (htrimmed x (by simp [hx]))).mp (hbefore x hx)
        · exact (tokenOf_eq_error_iff (htrimmed item (by simp))).mp hitem
      · refine .empty (listsItems_iff.mpr ?_)
        exact (List.forall₂_nil_right_iff.mp (mapM_eq_ok_iff.mp hempty)).symm
    · intro h
      cases h with
      | empty h =>
        rw [← listsItems_iff.mp h]
        exact Or.inr ⟨rfl, rfl⟩
      | @item before after item fault hitems hbefore h =>
        have hsplit := listsItems_iff.mp hitems
        rw [← hsplit] at htrimmed
        refine Or.inl ⟨before, item, after, hsplit.symm, fun x hx => ?_, ?_⟩
        · exact (isOk_tokenOf_iff (htrimmed x (by simp [hx]))).mpr (hbefore x hx)
        · exact (tokenOf_eq_error_iff (htrimmed item (by simp))).mpr h

/-- There are kinds of nodes for a rule to be shown unless a value of the property lists none, or
something that the rule does not accept. -/
theorem exists_chooses_iff {value : Option String} :
    (∃ tokens, rule.Chooses value tokens) ↔ ∀ text, value = some text →
      ∃ items, ListsItems text items ∧ items ≠ [] ∧ ∀ item ∈ items, rule.AcceptsItem item := by
  constructor
  · rintro ⟨tokens, h⟩ text rfl
    cases h with
    | listed hitems hne hall h => exact ⟨_, hitems, hne, hall⟩
  · intro h
    cases value with
    | none =>
      exact ⟨KindSet.ofList (rule.defaultTokens ++ rule.requiredTokens), .default fun k => by simp⟩
    | some text =>
      obtain ⟨items, hitems, hne, hall⟩ := h text rfl
      let tokens : KindSet :=
        ⟨fun k => decide ((k ∈ Kind.named ∧ k.name ∈ items) ∨ k ∈ rule.requiredTokens)⟩
      exact ⟨tokens, .listed hitems hne hall fun k => by simp [tokens, KindSet.mem_iff]⟩

/-- A value that is refused gives no kinds of nodes. -/
theorem RefusesTokens.not_chooses (h : rule.RefusesTokens value fault) :
    ¬rule.Chooses (some value) tokens := by
  intro hchooses
  have hok := effectiveTokens_eq_ok_iff.mpr hchooses
  rw [effectiveTokens_eq_error_iff.mpr ⟨value, rfl, h⟩] at hok
  cases hok

/-! ## The same items -/

/-- Values that list the same items, in any order and any number of times, give a rule the same
kinds of nodes. -/
theorem Chooses.of_same_items {value value' : String} (h : rule.Chooses (some value) tokens)
    (hsame : ∀ item, item ∈ splitList value ↔ item ∈ splitList value') :
    rule.Chooses (some value') tokens := by
  cases h with
  | @listed _ items _ hitems hne hall h =>
    obtain rfl := listsItems_iff.mp hitems
    refine .listed (listsItems_iff.mpr rfl) ?_
      (fun item hitem => hall item ((hsame item).mpr hitem)) fun k => ?_
    · obtain ⟨item, hitem⟩ := List.exists_mem_of_ne_nil _ hne
      exact List.ne_nil_of_mem ((hsame item).mp hitem)
    · rw [h, hsame]

/-- A rule is shown only kinds that it accepts, if it accepts its default ones and those it
requires. -/
theorem Chooses.acceptable {value : Option String} (h : rule.Chooses value tokens)
    (haccepts : ∀ k, k ∈ rule.defaultTokens ∨ k ∈ rule.requiredTokens → k ∈ rule.acceptableTokens)
    {k : Kind} (hk : k ∈ tokens) : k ∈ rule.acceptableTokens := by
  cases h with
  | default h => exact haccepts k ((h k).mp hk)
  | @listed _ items _ _ _ hall h =>
    rcases (h k).mp hk with ⟨hnamed, hitem⟩ | hrequired
    · obtain ⟨k', hk', hnamed', hname⟩ := hall k.name hitem
      have hsome := Kind.named?_eq_some_iff.mpr ⟨hnamed, rfl⟩
      rw [Kind.named?_eq_some_iff.mpr ⟨hnamed', hname⟩] at hsome
      cases hsome
      exact hk'
    · exact haccepts k (Or.inr hrequired)

/-- **What the property `tokens` comes to.** A value of the property gives kinds of nodes if it
lists at least one item and the rule accepts all that it lists, and then they are the kinds with
these names and those that the rule requires. Without a value they are the default ones and the
required ones. So it does not matter how often and in which order a value lists its items, nor what
stands around them; and the rule is shown only kinds that it accepts, if it accepts its default ones
and those it requires. -/
theorem effectiveTokens_decides (rule : Rule) :
    (∀ value items, ListsItems value items ↔ items = splitList value) ∧
    (∀ value, (∃ tokens, effectiveTokens rule (some value) = .ok tokens) ↔
      splitList value ≠ [] ∧ ∀ item ∈ splitList value, rule.AcceptsItem item) ∧
    (∀ value tokens, effectiveTokens rule (some value) = .ok tokens → ∀ k, k ∈ tokens ↔
      (k ∈ Kind.named ∧ k.name ∈ splitList value) ∨ k ∈ rule.requiredTokens) ∧
    (∃ tokens, effectiveTokens rule none = .ok tokens ∧
      ∀ k, k ∈ tokens ↔ k ∈ rule.defaultTokens ∨ k ∈ rule.requiredTokens) ∧
    (∀ value value', (∀ item, item ∈ splitList value ↔ item ∈ splitList value') →
      ∀ tokens, effectiveTokens rule (some value) = .ok tokens ↔
        effectiveTokens rule (some value') = .ok tokens) ∧
    (∀ value, effectiveTokens rule (some (",".intercalate (splitList value))) =
      effectiveTokens rule (some value)) ∧
    ((∀ k, k ∈ rule.defaultTokens ∨ k ∈ rule.requiredTokens → k ∈ rule.acceptableTokens) →
      ∀ value tokens, effectiveTokens rule value = .ok tokens →
        ∀ k, k ∈ tokens → k ∈ rule.acceptableTokens) := by
  refine ⟨fun value items => listsItems_iff, fun value => ?_, fun value tokens h => ?_, ?_,
    fun value value' hsame tokens => ?_, fun value => ?_, fun haccepts value tokens h k hk => ?_⟩
  · simp only [effectiveTokens_eq_ok_iff]
    rw [exists_chooses_iff]
    simp only [Option.some.injEq, forall_eq', listsItems_iff, exists_eq_left]
  · cases effectiveTokens_eq_ok_iff.mp h with
    | @listed _ items _ hitems _ _ h =>
      obtain rfl := listsItems_iff.mp hitems
      exact h
  · obtain ⟨tokens, htokens⟩ : ∃ tokens, rule.Chooses none tokens :=
      exists_chooses_iff.mpr fun text htext => by cases htext
    refine ⟨tokens, effectiveTokens_eq_ok_iff.mpr htokens, ?_⟩
    cases htokens with
    | default h => exact h
  · rw [effectiveTokens_eq_ok_iff, effectiveTokens_eq_ok_iff]
    exact ⟨fun h => h.of_same_items hsame, fun h => h.of_same_items fun item => (hsame item).symm⟩
  · simp only [effectiveTokens, chosenTokens, splitList_intercalate]
  · exact (effectiveTokens_eq_ok_iff.mp h).acceptable haccepts hk

/-- A rule that is shown methods in any case and accepts constructors besides. -/
def methodRule : Rule where
  info := ⟨"METHODS", "Methods", "Methods are always looked at"⟩
  defaultTokens := [.methodDef]
  acceptableTokens := [.methodDef, .constructorDef]
  requiredTokens := [.methodDef]
  configure := takesNothing "METHODS" fun _ _ => { result := .ok [] }

/-- The kinds that a rule requires make up for no missing item, but they are added to the ones that
are listed. -/
theorem effectiveTokens_methodRule :
    (∀ tokens, effectiveTokens methodRule (some " , ") ≠ .ok tokens) ∧
      ∃ tokens, effectiveTokens methodRule (some "CTOR_DEF, ,CTOR_DEF") = .ok tokens ∧
        ∀ k, k ∈ tokens ↔ k = .constructorDef ∨ k = .methodDef := by
  obtain ⟨-, hexists, hmem, -⟩ := effectiveTokens_decides methodRule
  have hnone : splitList " , " = [] := by decide
  have hlisted : splitList "CTOR_DEF, ,CTOR_DEF" = ["CTOR_DEF", "CTOR_DEF"] := by decide
  refine ⟨fun tokens h => ((hexists " , ").mp ⟨tokens, h⟩).1 hnone, ?_⟩
  obtain ⟨tokens, htokens⟩ := (hexists "CTOR_DEF, ,CTOR_DEF").mpr (by
    rw [hlisted]
    refine ⟨List.cons_ne_nil _ _, fun item hitem => ?_⟩
    obtain rfl : item = "CTOR_DEF" := by simpa using hitem
    exact ⟨.constructorDef, by decide, by decide, rfl⟩)
  refine ⟨tokens, htokens, fun k => ?_⟩
  rw [hmem _ tokens htokens k, hlisted]
  cases k <;> decide

end Rule

end NullLint
