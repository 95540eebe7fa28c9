import NullLint.Proofs.Engine.Analyze

set_option autoImplicit false
set_option relaxedAutoImplicit false

/-!
# The order in which rules are registered

Rules come to an engine in some order that nobody promises. The engine puts them in the order of
their identifiers, and if these are distinct there is only one such order. So what configuring comes
to does not depend on the order in which the rules were given: neither the engine nor the error.

## Main definitions

* `Engine.IsMadeOf` — an engine is made of some rules, configured by the properties.
* `Engine.Hinders` — the error that is reported if there is no engine.

## Main results

* `Engine.inOrder_eq_of_perm` — the order of distinct identifiers does not depend on the order in
  which rules are given.
* `Engine.configure_eq_ok_iff_isMadeOf`, `Engine.configure_eq_error_iff_hinders` — what configuring
  rules with distinct identifiers comes to.
* `Engine.configure_of_perm` — **the order of registration does not matter**.
-/

namespace NullLint.Engine

variable {rules rules' : List Rule} {ps : RuleProperties} {engine : Engine}

/-! ## What an engine is made of -/

/-- All properties belong to rules that there are. -/
def AllKnown (rules : List Rule) (ps : RuleProperties) : Prop :=
  ∀ p ∈ ps.entries, ∃ rule ∈ rules, rule.info.id = p.rule

/-- An engine is made of some rules: each of them is ready with its share of the properties, nothing
else is in the engine, and the identifiers are strictly increasing. -/
structure IsMadeOf (rules : List Rule) (ps : RuleProperties) (engine : Engine) : Prop where
  known : AllKnown rules ps
  increasing : engine.rules.Pairwise fun a b => a.info.id < b.info.id
  members : ∀ ready, ready ∈ engine.rules ↔
    ∃ rule ∈ rules, rule.configured (ps.forRule rule.info.id) = .ok ready
  complete : ∀ rule ∈ rules, ∃ ready, rule.configured (ps.forRule rule.info.id) = .ok ready

/-- The error that hinders an engine from being made. -/
inductive Hinders (rules : List Rule) (ps : RuleProperties) : EngineError → Prop
  /-- A rule does not exist; the one with the least name is reported. -/
  | unknownRule {id : String} (hid : ∃ p ∈ ps.entries, p.rule = id)
    (hunknown : ∀ rule ∈ rules, rule.info.id ≠ id)
    (hleast : ∀ p ∈ ps.entries, p.rule < id → ∃ rule ∈ rules, rule.info.id = p.rule) :
    Hinders rules ps (.unknownRule id)
  /-- All rules exist, but one cannot be configured; the one with the least identifier is
  reported. -/
  | rule {rule : Rule} {fault : ConfigFault} (hknown : AllKnown rules ps) (hrule : rule ∈ rules)
    (h : rule.configured (ps.forRule rule.info.id) = .error fault)
    (hleast : ∀ other ∈ rules, other.info.id < rule.info.id →
      ∃ ready, other.configured (ps.forRule other.info.id) = .ok ready) :
    Hinders rules ps (.rule rule.info.id fault)

/-! ## Rules in order -/

theorem mem_inOrder_iff {rule : Rule} : rule ∈ inOrder rules ↔ rule ∈ rules :=
  (List.mergeSort_perm rules _).mem_iff

/-- Rules with distinct identifiers are put in a strict order. -/
theorem pairwise_lt_inOrder (hdistinct : (rules.map fun rule => rule.info.id).Nodup) :
    (inOrder rules).Pairwise fun a b => a.info.id < b.info.id :=
  pairwise_lt_mergeSort hdistinct

/-- The order of rules with distinct identifiers does not depend on the order in which they are
given. -/
theorem inOrder_eq_of_perm (hperm : rules'.Perm rules)
    (hdistinct : (rules.map fun rule => rule.info.id).Nodup) : inOrder rules' = inOrder rules := by
  have hdistinct' := (hperm.map fun rule : Rule => rule.info.id).nodup_iff.mpr hdistinct
  refine eq_of_pairwise_of_mem_iff (fun _ _ => lt_asymm) (pairwise_lt_inOrder hdistinct')
    (pairwise_lt_inOrder hdistinct) fun rule => ?_
  rw [mem_inOrder_iff, mem_inOrder_iff, hperm.mem_iff]

/-- The unknown rule that is reported does not depend on the order of the rules. -/
theorem unknownRule?_eq_of_perm (hperm : rules'.Perm rules) :
    unknownRule? rules' ps = unknownRule? rules ps := by
  have hany : ∀ p : Rule → Bool, rules'.any p = rules.any p := by
    intro p
    rw [Bool.eq_iff_iff, List.any_eq_true, List.any_eq_true]
    simp only [hperm.mem_iff]
  simp only [unknownRule?, hany]

/-! ## What configuring comes to -/

theorem configureRule_eq_ok_iff {rule : Rule} {ready : ConfiguredRule} :
    configureRule ps rule = .ok ready ↔
      rule.configured (ps.forRule rule.info.id) = .ok ready := by
  rw [configureRule, mapError_eq_ok_iff]

/-- A rule is ready if configuring it succeeds. -/
theorem isOk_configureRule_iff {rule : Rule} : (configureRule ps rule).isOk = true ↔
    ∃ ready, rule.configured (ps.forRule rule.info.id) = .ok ready := by
  rw [configureRule]
  cases rule.configured (ps.forRule rule.info.id) <;>
    simp [Except.mapError, Except.isOk, Except.toBool]

/-- What is configured is made of the rules. -/
theorem isMadeOf_of_configure (hdistinct : (rules.map fun rule => rule.info.id).Nodup)
    (h : configure rules ps = .ok engine) : IsMadeOf rules ps engine := by
  obtain ⟨hknown, hready⟩ := configure_eq_ok_iff.mp h
  have hmatch := mapM_eq_ok_iff.mp hready
  refine ⟨unknownRule?_eq_none_iff.mp hknown, ?_, fun ready => ⟨fun hmem => ?_, ?_⟩,
    fun rule hrule => ?_⟩
  · have hinfos : ((inOrder rules).map (·.info)).Pairwise fun a b => a.id < b.id :=
      List.pairwise_map.mpr (pairwise_lt_inOrder hdistinct)
    rw [← map_info_rules h, List.pairwise_map] at hinfos
    exact hinfos
  · obtain ⟨rule, hrule, hok⟩ := exists_of_forall₂_of_mem hmatch hmem
    exact ⟨rule, mem_inOrder_iff.mp hrule, configureRule_eq_ok_iff.mp hok⟩
  · rintro ⟨rule, hrule, hok⟩
    obtain ⟨ready', hmem, hok'⟩ :=
      exists_of_forall₂_of_mem hmatch.flip (mem_inOrder_iff.mpr hrule)
    rw [configureRule_eq_ok_iff, hok] at hok'
    cases hok'
    exact hmem
  · obtain ⟨ready, hok⟩ :=
      exists_mapM_eq_ok_iff.mp ⟨engine.rules, hready⟩ rule (mem_inOrder_iff.mpr hrule)
    exact ⟨ready, configureRule_eq_ok_iff.mp hok⟩

/-- There is at most one engine that is made of some rules. -/
theorem IsMadeOf.unique {engine' : Engine} (h : IsMadeOf rules ps engine)
    (h' : IsMadeOf rules ps engine') : engine = engine' := by
  have hrules : engine.rules = engine'.rules :=
    eq_of_pairwise_of_mem_iff (fun _ _ => lt_asymm) h.increasing h'.increasing fun ready => by
      rw [h.members, h'.members]
  cases engine
  cases engine'
  exact congrArg Engine.mk hrules

/-- What configuring rules with distinct identifiers comes to, if it succeeds. -/
theorem configure_eq_ok_iff_isMadeOf (hdistinct : (rules.map fun rule => rule.info.id).Nodup) :
    configure rules ps = .ok engine ↔ IsMadeOf rules ps engine := by
  refine ⟨isMadeOf_of_configure hdistinct, fun h => ?_⟩
  obtain ⟨readies, hreadies⟩ :
      ∃ readies, (inOrder rules).mapM (configureRule ps) = .ok readies := by
    refine exists_mapM_eq_ok_iff.mpr fun rule hrule => ?_
    obtain ⟨ready, hready⟩ := h.complete rule (mem_inOrder_iff.mp hrule)
    exact ⟨ready, configureRule_eq_ok_iff.mpr hready⟩
  have hconfigure : configure rules ps = .ok ⟨readies⟩ :=
    configure_eq_ok_iff.mpr ⟨unknownRule?_eq_none_iff.mpr h.known, hreadies⟩
  rw [hconfigure, h.unique (isMadeOf_of_configure hdistinct hconfigure)]

/-- What configuring rules with distinct identifiers comes to, if it fails. -/
theorem configure_eq_error_iff_hinders (hdistinct : (rules.map fun rule => rule.info.id).Nodup)
    {e : EngineError} : configure rules ps = .error e ↔ Hinders rules ps e := by
  rw [configure_eq_error_iff, unknownRule?_eq_none_iff, mapM_eq_error_iff]
  -- The first rule in order that fails is the one with the least identifier.
  rw [exists_first_iff (fun _ _ => lt_asymm) (pairwise_lt_inOrder hdistinct)]
  simp only [isOk_configureRule_iff, mem_inOrder_iff, unknownRule?_eq_some_iff,
    RuleProperties.mem_ruleIds_iff]
  constructor
  · rintro (⟨id, ⟨hid, hleast, hunknown⟩, rfl⟩ | ⟨hknown, rule, hrule, hleast, herror⟩)
    · exact .unknownRule hid hunknown fun p hp => hleast p.rule ⟨p, hp, rfl⟩
    · obtain ⟨fault, hfault, rfl⟩ := mapError_eq_error_iff.mp herror
      exact .rule hknown hrule hfault hleast
  · intro h
    cases h with
    | @unknownRule id hid hunknown hleast =>
      refine Or.inl ⟨id, ⟨hid, ?_, hunknown⟩, rfl⟩
      rintro _ ⟨p, hp, rfl⟩
      exact hleast p hp
    | @rule rule fault hknown hrule h hleast =>
      refine Or.inr ⟨hknown, rule, hrule, hleast, ?_⟩
      exact mapError_eq_error_iff.mpr ⟨fault, h, rfl⟩

/-! ## The order of registration -/

/-- Configuring does not depend on the order in which rules with distinct identifiers are given. -/
theorem configure_eq_of_perm (hperm : rules'.Perm rules)
    (hdistinct : (rules.map fun rule => rule.info.id).Nodup) :
    configure rules' ps = configure rules ps := by
  simp only [configure, unknownRule?_eq_of_perm hperm, inOrder_eq_of_perm hperm hdistinct]

/-- **The order in which rules are registered does not matter.** Rules with distinct identifiers
make the same engine in each order, or are hindered by the same error: an unknown rule is reported
before any rule that cannot be configured, and of these the one with the least identifier. The rules
of the engine are in the strict order of their identifiers. So the descriptors of the rules and the
results of an analysis are the same, whatever the schedules are.

**Proof sketch.** The engine asks only whether there is a rule with an identifier, and then goes
through the rules in order; distinct identifiers have one order. The results of an analysis do not
depend on the schedule. -/
theorem configure_of_perm (rules rules' : List Rule) (ps : RuleProperties)
    (hdistinct : (rules.map fun rule => rule.info.id).Nodup) (hperm : rules'.Perm rules) :
    configure rules' ps = configure rules ps ∧
    configureEvents rules' ps = configureEvents rules ps ∧
    (∀ engine, configure rules' ps = .ok engine ↔ IsMadeOf rules ps engine) ∧
    (∀ e, configure rules' ps = .error e ↔ Hinders rules ps e) ∧
    ∀ engine engine', configure rules ps = .ok engine → configure rules' ps = .ok engine' →
      engine'.rules.map (fun rule => Sarif.descriptor rule.info) =
          engine.rules.map (fun rule => Sarif.descriptor rule.info) ∧
        ∀ artifacts units schedule schedule' results,
          engine'.analyze artifacts units schedule' = .ok results ↔
            engine.analyze artifacts units schedule = .ok results := by
  have hsame : configure rules' ps = configure rules ps := configure_eq_of_perm hperm hdistinct
  refine ⟨hsame, ?_, fun engine => ?_, fun e => ?_, fun engine engine' h h' => ?_⟩
  · simp only [configureEvents, unknownRule?_eq_of_perm hperm,
      inOrder_eq_of_perm hperm hdistinct]
  · rw [hsame, configure_eq_ok_iff_isMadeOf hdistinct]
  · rw [hsame, configure_eq_error_iff_hinders hdistinct]
  · rw [hsame, h] at h'
    cases h'
    refine ⟨rfl, fun artifacts units schedule schedule' results => ?_⟩
    rw [analyze_eq_ok_iff, analyze_eq_ok_iff]

/-- A rule that takes no properties and finds nothing. -/
def strictRule (id : String) : Rule where
  info := ⟨id, id, "Nothing is wrong"⟩
  defaultTokens := []
  acceptableTokens := []
  configure := Rule.takesNothing id fun _ _ => { result := .ok [] }

/-- A property for each of two rules. -/
def twoProperties : RuleProperties where
  entries := [⟨"B", "size", "1"⟩, ⟨"A", "size", "1"⟩]
  distinct := by decide

/-- Two rules refuse their properties; the one with the lesser identifier is reported although the
other one is registered before it. -/
theorem configure_of_perm_strictRules :
    ([strictRule "A", strictRule "B"].map fun rule => rule.info.id).Nodup ∧
      [strictRule "B", strictRule "A"].Perm [strictRule "A", strictRule "B"] ∧
      configure [strictRule "B", strictRule "A"] twoProperties =
        .error (.rule "A" (.unknownProperty "A" "size")) := by
  have hdistinct : ([strictRule "A", strictRule "B"].map fun rule => rule.info.id).Nodup := by
    decide
  have hperm : [strictRule "B", strictRule "A"].Perm [strictRule "A", strictRule "B"] :=
    List.Perm.swap _ _ _
  obtain ⟨-, -, -, herror, -⟩ := configure_of_perm _ _ twoProperties hdistinct hperm
  refine ⟨hdistinct, hperm, (herror _).mpr ?_⟩
  have hshare : twoProperties.forRule "A" = [("size", "1")] := List.mergeSort_singleton _
  have hrefuses : (strictRule "A").configured (twoProperties.forRule (strictRule "A").info.id) =
      .error (.unknownProperty "A" "size") := by
    change (strictRule "A").configured (twoProperties.forRule "A") = _
    rw [hshare]
    rfl
  refine Hinders.rule ?_ List.mem_cons_self hrefuses fun other hother hlt => ?_
  · simp [AllKnown, twoProperties, strictRule]
  · -- No identifier of the two is less than the one of the first rule.
    rcases List.mem_cons.mp hother with rfl | hother
    · exact absurd hlt (lt_irrefl _)
    · obtain rfl := List.mem_singleton.mp hother
      exact absurd hlt (by decide)

end NullLint.Engine
