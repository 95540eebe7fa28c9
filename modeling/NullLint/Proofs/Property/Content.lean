import Mathlib.Data.String.Basic
import NullLint.Proofs.Matching
import NullLint.Property

set_option autoImplicit false
set_option relaxedAutoImplicit false

/-!
# Properties as maps

No key of a rule is given twice, so the properties of a rule are a map from keys to values. It is
listed in the strict order of the keys, and the rules that have properties are listed in the strict
order of their names. Both lists are determined by their members.

## Main results

* `RuleProperties.mem_forRule_iff`, `RuleProperties.pairwise_forRule` — the properties of a rule.
* `RuleProperties.get?_forRule_eq_some_iff` — the value of a key of a rule.
* `RuleProperties.mem_ruleIds_iff`, `RuleProperties.pairwise_ruleIds` — the rules that have
  properties.
* `RuleProperties.forRule_congr`, `RuleProperties.ruleIds_congr` — the order in which properties
  were given does not matter.
-/

namespace NullLint

/-! ## Lists without repetitions -/

/-- A list from which repetitions are removed has none. -/
theorem nodup_eraseDups {α : Type} [DecidableEq α] (as : List α) : as.eraseDups.Nodup := by
  induction h : as.length using Nat.strong_induction_on generalizing as with
  | _ n ih =>
    cases as with
    | nil => exact List.nodup_nil
    | cons a as =>
      have hlt : (as.filter fun b => !b == a).length < n := by
        have hle := List.length_filter_le (fun b => !b == a) as
        rw [List.length_cons] at h
        omega
      rw [List.eraseDups_cons, List.nodup_cons]
      refine ⟨fun hmem => ?_, ih _ hlt _ rfl⟩
      simp [List.mem_eraseDups] at hmem

namespace RuleProperties

variable {ps qs : RuleProperties} {p q : Property} {rule key value : String}

/-- A key of a rule has at most one value. -/
theorem eq_of_name_eq (hp : p ∈ ps.entries) (hq : q ∈ ps.entries) (h : p.name = q.name) : p = q :=
  List.inj_on_of_nodup_map ps.distinct hp hq h

/-! ## The properties of a rule -/

theorem mem_forRule_iff : (key, value) ∈ ps.forRule rule ↔ ⟨rule, key, value⟩ ∈ ps.entries := by
  unfold forRule Properties.sorted
  rw [List.mem_mergeSort]
  simp only [List.mem_map, List.mem_filter, beq_iff_eq, Prod.mk.injEq]
  constructor
  · rintro ⟨⟨r, k, v⟩, ⟨hmem, rfl⟩, rfl, rfl⟩
    exact hmem
  · intro hmem
    exact ⟨_, ⟨hmem, rfl⟩, rfl, rfl⟩

/-- The properties of a rule are in the strict order of their keys.

**Proof sketch.** They are sorted, and two of them with the same key would have the same name. -/
theorem pairwise_forRule (ps : RuleProperties) (rule : String) :
    (ps.forRule rule).Pairwise fun a b => a.1 < b.1 := by
  have hshare : ((ps.entries.filter fun p => p.rule == rule).map fun p => p.key).Nodup := by
    have hnames : ((ps.entries.filter fun p => p.rule == rule).map Property.name).Nodup :=
      ps.distinct.sublist (List.filter_sublist.map Property.name)
    have hkeys : ((ps.entries.filter fun p => p.rule == rule).map Property.name) =
        ((ps.entries.filter fun p => p.rule == rule).map fun p => p.key).map (rule, ·) := by
      rw [List.map_map]
      apply List.map_congr_left
      intro p hp
      have hrule : p.rule = rule := by simpa using (List.mem_filter.mp hp).2
      simp [Property.name, hrule]
    rw [hkeys] at hnames
    exact hnames.of_map
  apply pairwise_lt_of_nodup (pairwise_mergeSort_le Prod.fst _)
  refine (((List.mergeSort_perm _ _).map Prod.fst).nodup_iff).mpr ?_
  rw [List.map_map]
  exact hshare

/-- The value of a key of a rule.

**Proof sketch.** The first property of the rule with the key is the only one. -/
theorem get?_forRule_eq_some_iff :
    (ps.forRule rule).get? key = some value ↔ ⟨rule, key, value⟩ ∈ ps.entries := by
  rw [← mem_forRule_iff]
  unfold Properties.get?
  simp only [Option.map_eq_some_iff]
  constructor
  · rintro ⟨⟨k, v⟩, hfind, rfl⟩
    have hk : k = key := by simpa using List.find?_some hfind
    rw [← hk]
    exact List.mem_of_find?_eq_some hfind
  · intro hmem
    have hsome : ((ps.forRule rule).find? fun p => p.1 == key).isSome = true := by
      rw [List.find?_isSome]
      exact ⟨_, hmem, by simp⟩
    obtain ⟨⟨k, v⟩, hfind⟩ := Option.isSome_iff_exists.mp hsome
    have hk : k = key := by simpa using List.find?_some hfind
    have hfound := List.mem_of_find?_eq_some hfind
    rw [hk, mem_forRule_iff] at hfound
    have heq := eq_of_name_eq hfound (mem_forRule_iff.mp hmem) rfl
    refine ⟨(k, v), hfind, ?_⟩
    exact congrArg Property.value heq

theorem get?_forRule_eq_none_iff :
    (ps.forRule rule).get? key = none ↔ ∀ value, ⟨rule, key, value⟩ ∉ ps.entries := by
  simp only [← get?_forRule_eq_some_iff, Option.eq_none_iff_forall_ne_some]

/-- All properties of a rule but the one of a key. -/
theorem mem_erase_forRule_iff {other : String} :
    (key, value) ∈ (ps.forRule rule).erase other ↔
      ⟨rule, key, value⟩ ∈ ps.entries ∧ key ≠ other := by
  unfold Properties.erase
  rw [List.mem_filter, mem_forRule_iff, bne_iff_ne]

theorem pairwise_erase_forRule (ps : RuleProperties) (rule other : String) :
    ((ps.forRule rule).erase other).Pairwise fun a b => a.1 < b.1 :=
  (ps.pairwise_forRule rule).sublist List.filter_sublist

/-! ## The rules that have properties -/

theorem mem_ruleIds_iff : rule ∈ ps.ruleIds ↔ ∃ p ∈ ps.entries, p.rule = rule := by
  unfold ruleIds
  rw [List.mem_mergeSort, List.mem_eraseDups, List.mem_map]

/-- The rules that have properties are in the strict order of their names. -/
theorem pairwise_ruleIds (ps : RuleProperties) : ps.ruleIds.Pairwise (· < ·) := by
  apply pairwise_lt_of_nodup (pairwise_mergeSort_le id _)
  rw [List.map_id]
  exact ((List.mergeSort_perm _ _).nodup_iff).mpr (nodup_eraseDups _)

/-! ## Order -/

/-- Two collections of the same properties give each rule the same properties. -/
theorem forRule_congr (h : ∀ p, p ∈ ps.entries ↔ p ∈ qs.entries) (rule : String) :
    ps.forRule rule = qs.forRule rule := by
  refine eq_of_pairwise_of_mem_iff (fun a b => lt_asymm) (ps.pairwise_forRule rule)
    (qs.pairwise_forRule rule) ?_
  rintro ⟨key, value⟩
  rw [mem_forRule_iff, mem_forRule_iff, h]

/-- Two collections of the same properties have the same rules. -/
theorem ruleIds_congr (h : ∀ p, p ∈ ps.entries ↔ p ∈ qs.entries) : ps.ruleIds = qs.ruleIds := by
  refine eq_of_pairwise_of_mem_iff (fun a b => lt_asymm) ps.pairwise_ruleIds
    qs.pairwise_ruleIds ?_
  intro rule
  simp only [mem_ruleIds_iff, h]

end RuleProperties

end NullLint
