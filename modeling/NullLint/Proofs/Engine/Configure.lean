import NullLint.Engine.Configure
import NullLint.Proofs.Progress
import NullLint.Proofs.Property.Content

set_option autoImplicit false
set_option relaxedAutoImplicit false

/-!
# The rules of an engine

Configuring an engine keeps all rules and puts them in the order of their identifiers. An unknown
rule is reported before any rule that cannot be configured, and of such a rule the property `tokens`
is looked at first.

## Main results

* `Rule.configured_eq_ok_iff`, `Rule.configured_eq_error_iff` — what configuring one rule comes to.
* `Engine.unknownRule?_eq_some_iff`, `Engine.unknownRule?_eq_none_iff` — the unknown rule that is
  reported.
* `Engine.configure_eq_ok_iff`, `Engine.configure_eq_error_iff` — what configuring an engine comes
  to.
* `Engine.pairwise_inOrder` — rules in the order of their identifiers.
* `Engine.map_info_rules` — an engine has the rules that it was made of.
* `Engine.pairwise_rules` — the rules of an engine are in the order of their identifiers.
-/

namespace NullLint

namespace Rule

variable {rule : Rule} {ps : Properties} {ready : ConfiguredRule} {fault : ConfigFault}

/-- A rule is configured if it is shown some kinds of nodes and takes its other properties. -/
theorem configured_eq_ok_iff : rule.configured ps = .ok ready ↔
    ∃ tokens visit, effectiveTokens rule (ps.get? tokensKey) = .ok tokens ∧
      rule.configure (ps.erase tokensKey) = .ok visit ∧ ready = ⟨rule.info, tokens, visit⟩ := by
  unfold configured
  cases effectiveTokens rule (ps.get? tokensKey) with
  | error fault => simp
  | ok tokens =>
    dsimp only
    rw [map_eq_ok_iff]
    simp [eq_comm]

/-- The property `tokens` is to blame before any other. -/
theorem configured_eq_error_iff : rule.configured ps = .error fault ↔
    effectiveTokens rule (ps.get? tokensKey) = .error fault ∨
      ∃ tokens, effectiveTokens rule (ps.get? tokensKey) = .ok tokens ∧
        rule.configure (ps.erase tokensKey) = .error fault := by
  unfold configured
  cases effectiveTokens rule (ps.get? tokensKey) with
  | error fault => simp
  | ok tokens => simp [map_eq_error_iff]

/-- A rule that is configured is called what it was called before. -/
theorem info_configured (h : rule.configured ps = .ok ready) : ready.info = rule.info := by
  obtain ⟨tokens, visit, -, -, rfl⟩ := configured_eq_ok_iff.mp h
  rfl

end Rule

namespace Engine

variable {rules : List Rule} {ps : RuleProperties} {engine : Engine}

/-! ## Unknown rules -/

/-- The unknown rule that is reported is the least one that has properties. -/
theorem unknownRule?_eq_some_iff {id : String} : unknownRule? rules ps = some id ↔
    id ∈ ps.ruleIds ∧ (∀ other ∈ ps.ruleIds, other < id → ∃ rule ∈ rules, rule.info.id = other) ∧
      ∀ rule ∈ rules, rule.info.id ≠ id := by
  have hany : ∀ other, (rules.any fun rule => rule.info.id == other) = true ↔
      ∃ rule ∈ rules, rule.info.id = other := by
    intro other
    simp
  have hfirst := exists_first_iff (fun a b => lt_asymm) ps.pairwise_ruleIds
    (P := fun other => ∃ rule ∈ rules, rule.info.id = other)
    (Q := fun other => other = id ∧ ∀ rule ∈ rules, rule.info.id ≠ id)
  unfold unknownRule?
  rw [List.find?_eq_some_iff_append]
  simp only [Bool.not_not, hany, Bool.not_eq_true', Bool.eq_false_iff, Ne, not_exists, not_and]
  constructor
  · rintro ⟨hunknown, before, after, hids, hbefore⟩
    obtain ⟨_, hmem, hleast, rfl, -⟩ := hfirst.mp ⟨before, id, after, hids, hbefore, rfl, hunknown⟩
    exact ⟨hmem, hleast, hunknown⟩
  · rintro ⟨hmem, hleast, hunknown⟩
    obtain ⟨before, _, after, hids, hbefore, rfl, -⟩ :=
      hfirst.mpr ⟨id, hmem, hleast, rfl, hunknown⟩
    exact ⟨hunknown, before, after, hids, hbefore⟩

/-- No rule is unknown if there is one for all properties. -/
theorem unknownRule?_eq_none_iff : unknownRule? rules ps = none ↔
    ∀ p ∈ ps.entries, ∃ rule ∈ rules, rule.info.id = p.rule := by
  unfold unknownRule?
  rw [List.find?_eq_none]
  simp [RuleProperties.mem_ruleIds_iff]

/-! ## Rules in order -/

/-- Rules are put in the order of their identifiers. -/
theorem pairwise_inOrder (rules : List Rule) :
    (inOrder rules).Pairwise fun a b => a.info.id ≤ b.info.id :=
  pairwise_mergeSort_le (fun rule : Rule => rule.info.id) rules

/-- An engine is made of rules that are all known and can all be configured. -/
theorem configure_eq_ok_iff : configure rules ps = .ok engine ↔
    unknownRule? rules ps = none ∧ (inOrder rules).mapM (configureRule ps) = .ok engine.rules := by
  unfold configure
  cases unknownRule? rules ps with
  | some id => simp
  | none =>
    rw [map_eq_ok_iff]
    constructor
    · rintro ⟨ready, hready, rfl⟩
      exact ⟨rfl, hready⟩
    · rintro ⟨-, hready⟩
      exact ⟨engine.rules, hready, rfl⟩

/-- An unknown rule is reported before any rule that cannot be configured. -/
theorem configure_eq_error_iff {e : EngineError} : configure rules ps = .error e ↔
    (∃ id, unknownRule? rules ps = some id ∧ e = .unknownRule id) ∨
      unknownRule? rules ps = none ∧ (inOrder rules).mapM (configureRule ps) = .error e := by
  unfold configure
  cases unknownRule? rules ps with
  | some id => simp [eq_comm]
  | none => simp [map_eq_error_iff]

/-- An engine has the rules that it was made of, in order. -/
theorem map_info_rules (h : configure rules ps = .ok engine) :
    engine.rules.map (·.info) = (inOrder rules).map (·.info) := by
  obtain ⟨-, hready⟩ := configure_eq_ok_iff.mp h
  have hinfos : List.Forall₂ (· = ·) ((inOrder rules).map (·.info))
      (engine.rules.map (·.info)) := by
    rw [List.forall₂_map_left_iff, List.forall₂_map_right_iff]
    refine (mapM_eq_ok_iff.mp hready).imp fun rule r hr => ?_
    exact (Rule.info_configured (mapError_eq_ok_iff.mp hr)).symm
  rw [List.forall₂_eq_eq_eq] at hinfos
  exact hinfos.symm

/-- The rules of an engine are in the order of their identifiers. -/
theorem pairwise_rules (h : configure rules ps = .ok engine) :
    engine.rules.Pairwise fun a b => a.info.id ≤ b.info.id := by
  have hinfos : ((inOrder rules).map (·.info)).Pairwise fun a b => a.id ≤ b.id := by
    rw [List.pairwise_map]
    exact pairwise_inOrder rules
  rw [← map_info_rules h, List.pairwise_map] at hinfos
  exact hinfos

/-- No rule of an engine is lost or doubled. -/
theorem perm_infos (h : configure rules ps = .ok engine) :
    (engine.rules.map (·.info)).Perm (rules.map (·.info)) := by
  rw [map_info_rules h]
  exact (List.mergeSort_perm rules _).map _

end Engine

end NullLint
