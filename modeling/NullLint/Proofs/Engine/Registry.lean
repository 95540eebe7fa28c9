import NullLint.Proofs.Engine.Configure
import NullLint.Proofs.Engine.Tokens
import NullLint.Proofs.Rule.Names
import NullLint.Proofs.Rule.Nested

set_option autoImplicit false
set_option relaxedAutoImplicit false

/-!
# The engine of this program

The registry holds one rule, the one about null annotations. Which properties it can be configured
by, what it goes by then, and which error is reported otherwise: an unknown rule before anything
else, then the property `tokens`, then the other properties in the order of their keys.

## Main definitions

* `NullAnnotations.Given` — the properties of the rule.
* `NullAnnotations.Configurable` — the properties that the rule can be configured by.
* `NullAnnotations.AsksTokens`, `NullAnnotations.AsksName` — what the properties ask for.
* `NullAnnotations.Prevents` — the error that is reported.

## Main results

* `Engine.configure_registry_decides` — what configuring the engine comes to.
-/

namespace NullLint

open Syntax

namespace NullAnnotations

/-! ## What the properties say -/

/-- The rule is given a value for a key. -/
def Given (ps : RuleProperties) (key value : String) : Prop :=
  ⟨"NULL_ANNOTATIONS", key, value⟩ ∈ ps.entries

/-- A value lists at least one kind of nodes, and only kinds that the rule accepts. -/
def IsTokenList (value : String) : Prop :=
  ∃ items, ListsItems value items ∧ items ≠ [] ∧
    ∀ item ∈ items, item ∈ ["VARIABLE_DEF", "METHOD_DEF", "CTOR_DEF"]

/-- The rule can be configured: all properties are its own, their keys are known, and it can use
their values. -/
structure Configurable (ps : RuleProperties) : Prop where
  rules : ∀ p ∈ ps.entries, p.rule = "NULL_ANNOTATIONS"
  keys : ∀ p ∈ ps.entries, p.key ∈ ["tokens", "nonNullAnnotation", "nullableAnnotation"]
  tokens : ∀ value, Given ps "tokens" value → IsTokenList value
  names : ∀ key ∈ ["nonNullAnnotation", "nullableAnnotation"], ∀ value, Given ps key value →
    ∃ name, IsIdentifier name ∧ IsWrapped value name

/-- The kinds of nodes that the properties ask for: those that are listed, or all three that the
rule can be shown if none are. -/
structure AsksTokens (ps : RuleProperties) (tokens : KindSet) : Prop where
  given : ∀ value items, Given ps "tokens" value → ListsItems value items →
    ∀ k, k ∈ tokens ↔ k ∈ Kind.named ∧ k.name ∈ items
  notGiven : (∀ value, ¬Given ps "tokens" value) →
    ∀ k, k ∈ tokens ↔ k ∈ [Kind.variableDef, Kind.methodDef, Kind.constructorDef]

/-- The name that the properties ask for: the one in the value of its key, or else the usual one. -/
structure AsksName (ps : RuleProperties) (key usual name : String) : Prop where
  given : ∀ value, Given ps key value → IsIdentifier name ∧ IsWrapped value name
  notGiven : (∀ value, ¬Given ps key value) → name = usual

/-- The error that prevents that an engine is made. -/
inductive Prevents (ps : RuleProperties) : EngineError → Prop
  /-- A rule does not exist; the one with the least name is reported. -/
  | unknownRule {id : String} (hid : ∃ p ∈ ps.entries, p.rule = id) (hne : id ≠ "NULL_ANNOTATIONS")
    (hleast : ∀ p ∈ ps.entries, p.rule ≠ "NULL_ANNOTATIONS" → id ≤ p.rule) :
    Prevents ps (.unknownRule id)
  /-- All rules exist, and the kinds of nodes are refused. -/
  | tokens {value : String} {fault : ConfigFault}
    (hrules : ∀ p ∈ ps.entries, p.rule = "NULL_ANNOTATIONS") (hgiven : Given ps "tokens" value)
    (h : rule.RefusesTokens value fault) : Prevents ps (.rule "NULL_ANNOTATIONS" fault)
  /-- Rules and kinds are in order, and another property is refused; the one with the least key is
  reported. -/
  | property {key value : String} {fault : ConfigFault}
    (hrules : ∀ p ∈ ps.entries, p.rule = "NULL_ANNOTATIONS")
    (htokens : ∀ text, Given ps "tokens" text → IsTokenList text)
    (hkey : key ≠ "tokens") (hgiven : Given ps key value) (h : Refuses (key, value) fault)
    (hleast : ∀ key' value', Given ps key' value' → key' ≠ "tokens" → key' < key →
      ∃ name, Gives (key', value') name) : Prevents ps (.rule "NULL_ANNOTATIONS" fault)

variable {ps : RuleProperties} {tokens : KindSet} {names : Names} {fault : ConfigFault}

/-! ## The kinds of nodes -/

theorem acceptsItem_iff {item : String} :
    rule.AcceptsItem item ↔ item ∈ ["VARIABLE_DEF", "METHOD_DEF", "CTOR_DEF"] := by
  simp [Rule.AcceptsItem, rule, NullAnnotations.tokens, Kind.named, Kind.name, eq_comm]

/-- The kinds of nodes are chosen if the rule accepts what is listed, and then they are the ones
that the properties ask for. -/
theorem chooses_iff :
    rule.Chooses ((ps.forRule info.id).get? tokensKey) tokens ↔
      (∀ value, Given ps "tokens" value → IsTokenList value) ∧ AsksTokens ps tokens := by
  cases hget : (ps.forRule info.id).get? tokensKey with
  | none =>
    have hnone : ∀ value, ¬Given ps "tokens" value :=
      RuleProperties.get?_forRule_eq_none_iff.mp hget
    constructor
    · rintro ⟨h⟩
      refine ⟨fun value hvalue => absurd hvalue (hnone value), ?_, fun _ k => ?_⟩
      · exact fun value items hvalue => absurd hvalue (hnone value)
      · rw [h]
        simp [rule, NullAnnotations.tokens]
    · rintro ⟨-, hasks⟩
      refine .default fun k => ?_
      rw [hasks.notGiven hnone]
      simp [rule, NullAnnotations.tokens]
  | some value =>
    have hgiven : ∀ text, Given ps "tokens" text ↔ text = value := by
      intro text
      rw [Given, ← RuleProperties.get?_forRule_eq_some_iff]
      change (ps.forRule info.id).get? tokensKey = some text ↔ _
      rw [hget, Option.some.injEq, eq_comm]
    constructor
    · intro h
      cases h with
      | @listed _ items _ hitems hne hall h =>
        refine ⟨fun text htext => ?_, fun text items' htext hitems' k => ?_, fun hnot => ?_⟩
        · obtain rfl := (hgiven text).mp htext
          exact ⟨items, hitems, hne, fun item hitem => acceptsItem_iff.mp (hall item hitem)⟩
        · obtain rfl := (hgiven text).mp htext
          rw [h, listsItems_iff.mp hitems, listsItems_iff.mp hitems']
          simp [rule]
        · exact absurd ((hgiven value).mpr rfl) (hnot value)
    · rintro ⟨hlist, hasks⟩
      have hvalue := (hgiven value).mpr rfl
      obtain ⟨items, hitems, hne, hall⟩ := hlist value hvalue
      have haccepts : ∀ item ∈ items, rule.AcceptsItem item := fun item hitem =>
        acceptsItem_iff.mpr (hall item hitem)
      refine .listed hitems hne haccepts fun k => ?_
      rw [hasks.given value items hvalue hitems]
      simp [rule]

/-- There are kinds of nodes for the rule if it accepts what is listed. -/
theorem exists_chooses_iff :
    (∃ tokens, rule.Chooses ((ps.forRule info.id).get? tokensKey) tokens) ↔
      ∀ value, Given ps "tokens" value → IsTokenList value := by
  rw [Rule.exists_chooses_iff]
  simp only [RuleProperties.get?_forRule_eq_some_iff, acceptsItem_iff]
  rfl

/-! ## The other properties -/

/-- All properties of the rule but `tokens`. -/
theorem mem_others_iff {key value : String} :
    (key, value) ∈ (ps.forRule info.id).erase tokensKey ↔ Given ps key value ∧ key ≠ "tokens" :=
  RuleProperties.mem_erase_forRule_iff

theorem ne_tokens_of_mem_nameKeys {key : String} (h : key ∈ nameKeys) : key ≠ "tokens" := by
  rintro rfl
  revert h
  decide

/-- What the properties ask for under a key that gives a name. -/
theorem asksName_iff {key usual name : String} (hkey : key ∈ nameKeys)
    (husual : ({} : Names).get? key = some usual) (hname : names.get? key = some name) :
    AsksName ps key usual name ↔
      (∀ value, Given ps key value → ∃ given, Gives (key, value) given ∧
        names.get? key = some given) ∧
      ((∀ value, ¬Given ps key value) → names.get? key = ({} : Names).get? key) := by
  rw [hname, husual]
  simp only [Option.some.injEq]
  constructor
  · rintro ⟨hgiven, hnot⟩
    exact ⟨fun value hvalue => ⟨name, ⟨hkey, hgiven value hvalue⟩, rfl⟩, hnot⟩
  · rintro ⟨hgiven, hnot⟩
    refine ⟨fun value hvalue => ?_, hnot⟩
    obtain ⟨_, hgives, rfl⟩ := hgiven value hvalue
    exact hgives.2

/-- The names are configured if each property gives one, and then they are the ones that the
properties ask for.

**Proof sketch.** No key is given twice, so that each property gives the name of its key. A key that
stands for no name is not given, and the names know nothing of it. -/
theorem configure_names_eq_ok_iff :
    ({} : Names).configure ((ps.forRule info.id).erase tokensKey) = .ok names ↔
      (∀ key value, Given ps key value → key ≠ "tokens" → ∃ name, Gives (key, value) name) ∧
        AsksName ps "nonNullAnnotation" "NonNull" names.nonNull ∧
        AsksName ps "nullableAnnotation" "Nullable" names.nullable := by
  have hdistinct := (ps.pairwise_erase_forRule info.id tokensKey).imp fun h => ne_of_lt h
  have hall : (∀ p ∈ (ps.forRule info.id).erase tokensKey, ∃ name, Gives p name) ↔
      ∀ key value, Given ps key value → key ≠ "tokens" → ∃ name, Gives (key, value) name := by
    simp only [Prod.forall, mem_others_iff, and_imp]
  rw [Names.configure_eq_ok_iff, hall, Names.updates_iff_of_pairwise hdistinct,
    asksName_iff (by decide) rfl rfl, asksName_iff (by decide) rfl rfl]
  simp only [mem_others_iff]
  refine and_congr_right fun hgives => ?_
  constructor
  · intro h
    have hkey : ∀ key, key ≠ "tokens" →
        (∀ value, Given ps key value → ∃ given, Gives (key, value) given ∧
          names.get? key = some given) ∧
        ((∀ value, ¬Given ps key value) → names.get? key = ({} : Names).get? key) := by
      intro key hne
      simpa [hne] using h key
    exact ⟨hkey _ (by decide), hkey _ (by decide)⟩
  · rintro ⟨hnonNull, hnullable⟩ key
    by_cases hmem : key ∈ nameKeys
    · have hne := ne_tokens_of_mem_nameKeys hmem
      simp only [hne, ne_eq, not_false_eq_true, and_true]
      simp only [nameKeys, List.mem_cons, List.not_mem_nil, or_false] at hmem
      rcases hmem with rfl | rfl
      · exact hnonNull
      · exact hnullable
    · refine ⟨fun value hvalue => ?_, fun _ => ?_⟩
      · obtain ⟨name, hname⟩ := hgives key value hvalue.1 hvalue.2
        exact absurd hname.1 hmem
      · simp only [nameKeys, List.mem_cons, List.not_mem_nil, or_false, not_or] at hmem
        simp [Names.get?, hmem.1, hmem.2]

/-- The names cannot be configured if a property gives none; the one with the least key is
refused. -/
theorem configure_names_eq_error_iff :
    ({} : Names).configure ((ps.forRule info.id).erase tokensKey) = .error fault ↔
      ∃ key value, Given ps key value ∧ key ≠ "tokens" ∧ Refuses (key, value) fault ∧
        ∀ key' value', Given ps key' value' → key' ≠ "tokens" → key' < key →
          ∃ name, Gives (key', value') name := by
  rw [Names.configure_eq_error_iff, exists_first_iff (fun _ _ => lt_asymm)
    (ps.pairwise_erase_forRule info.id tokensKey)]
  simp only [Prod.exists, Prod.forall, mem_others_iff, and_imp]
  constructor
  · rintro ⟨key, value, ⟨hgiven, hne⟩, hleast, hrefuses⟩
    exact ⟨key, value, hgiven, hne, hrefuses, hleast⟩
  · rintro ⟨key, value, hgiven, hne, hrefuses, hleast⟩
    exact ⟨key, value, ⟨hgiven, hne⟩, hleast, hrefuses⟩

/-! ## Configurable properties -/

/-- The rule can be configured if all properties are its own, the value of `tokens` lists kinds that
it accepts, and each other property gives a name. -/
theorem configurable_iff :
    Configurable ps ↔ (∀ p ∈ ps.entries, p.rule = "NULL_ANNOTATIONS") ∧
      (∀ value, Given ps "tokens" value → IsTokenList value) ∧
      ∀ key value, Given ps key value → key ≠ "tokens" → ∃ name, Gives (key, value) name := by
  constructor
  · rintro ⟨hrules, hkeys, htokens, hnames⟩
    refine ⟨hrules, htokens, fun key value hgiven hne => ?_⟩
    have hkey : key ∈ nameKeys := List.mem_of_ne_of_mem hne (hkeys _ hgiven)
    obtain ⟨name, hname⟩ := hnames key hkey value hgiven
    exact ⟨name, hkey, hname⟩
  · rintro ⟨hrules, htokens, hgives⟩
    refine ⟨hrules, ?_, htokens, fun key hkey value hgiven => ?_⟩
    · rintro ⟨rule, key, value⟩ hp
      obtain rfl := hrules _ hp
      by_cases hne : key = "tokens"
      · simp [hne]
      · obtain ⟨name, hname⟩ := hgives key value hp hne
        exact List.mem_cons_of_mem _ hname.1
    · obtain ⟨name, hname⟩ := hgives key value hgiven (ne_tokens_of_mem_nameKeys hkey)
      exact ⟨name, hname.2⟩

/-- The rule cannot be configured if an error prevents it. -/
theorem Prevents.not_configurable {e : EngineError} (h : Prevents ps e) : ¬Configurable ps := by
  rw [configurable_iff]
  rintro ⟨hrules, htokens, hgives⟩
  cases h with
  | unknownRule hid hne _ =>
    obtain ⟨p, hp, rfl⟩ := hid
    exact hne (hrules p hp)
  | @tokens value fault _ hgiven hrefuses =>
    obtain ⟨items, hitems, hne, hall⟩ := htokens value hgiven
    have hchooses : ∃ tokens, rule.Chooses (some value) tokens := by
      rw [Rule.exists_chooses_iff]
      rintro text ⟨⟩
      exact ⟨items, hitems, hne, fun item hitem => acceptsItem_iff.mpr (hall item hitem)⟩
    obtain ⟨tokens, htokens⟩ := hchooses
    exact hrefuses.not_chooses htokens
  | @property key value fault _ _ hkey hgiven hrefuses _ =>
    obtain ⟨name, hname⟩ := hgives key value hgiven hkey
    exact hrefuses.not_gives hname

end NullAnnotations

namespace Engine

open NullAnnotations

variable {ps : RuleProperties} {engine : Engine}

/-! ## The engine -/

/-- No rule is unknown if all properties belong to the one rule that there is. -/
theorem unknownRule?_registry_eq_none_iff :
    unknownRule? registry ps = none ↔ ∀ p ∈ ps.entries, p.rule = "NULL_ANNOTATIONS" := by
  rw [unknownRule?_eq_none_iff]
  simp [registry, rule, info, eq_comm]

/-- The unknown rule that is reported is the least name of another rule. -/
theorem unknownRule?_registry_eq_some_iff {id : String} :
    unknownRule? registry ps = some id ↔ (∃ p ∈ ps.entries, p.rule = id) ∧
      id ≠ "NULL_ANNOTATIONS" ∧ ∀ p ∈ ps.entries, p.rule ≠ "NULL_ANNOTATIONS" → id ≤ p.rule := by
  have hknown : ∀ other, (∃ rule ∈ registry, rule.info.id = other) ↔
      other = "NULL_ANNOTATIONS" := by
    intro other
    simp [registry, rule, info, eq_comm]
  have hunknown : (∀ rule ∈ registry, rule.info.id ≠ id) ↔ id ≠ "NULL_ANNOTATIONS" := by
    rw [Ne, ← hknown id]
    simp only [not_exists, not_and, Ne]
  have hleast : (∀ other ∈ ps.ruleIds, other < id → other = "NULL_ANNOTATIONS") ↔
      ∀ p ∈ ps.entries, p.rule ≠ "NULL_ANNOTATIONS" → id ≤ p.rule := by
    simp only [RuleProperties.mem_ruleIds_iff, forall_exists_index, and_imp,
      forall_apply_eq_imp_iff₂]
    refine forall₂_congr fun p _ => ?_
    rw [← not_lt, not_imp_not]
  rw [unknownRule?_eq_some_iff, hunknown, RuleProperties.mem_ruleIds_iff]
  simp only [hknown]
  rw [hleast, and_comm (a := id ≠ _)]

/-- The engine of this program, made of what its one rule comes to. -/
theorem mapM_configureRule_registry :
    (inOrder registry).mapM (configureRule ps) =
      ((rule.configured (ps.forRule info.id)).mapError (.rule info.id)).map fun r => [r] := by
  rw [inOrder, registry, List.mergeSort_singleton, mapM_singleton_eq_map]
  rfl

/-- An engine is made if all properties belong to the rule, and kinds and names can be read. -/
theorem configure_registry_eq_ok_iff : configure registry ps = .ok engine ↔
    (∀ p ∈ ps.entries, p.rule = "NULL_ANNOTATIONS") ∧
      ∃ tokens names, rule.Chooses ((ps.forRule info.id).get? tokensKey) tokens ∧
        ({} : Names).configure ((ps.forRule info.id).erase tokensKey) = .ok names ∧
        engine = ⟨[({ names := names } : Classifier).shownTo tokens]⟩ := by
  rw [configure_eq_ok_iff, unknownRule?_registry_eq_none_iff, mapM_configureRule_registry]
  refine and_congr_right fun _ => ?_
  simp only [map_eq_ok_iff, mapError_eq_ok_iff, Rule.configured_eq_ok_iff,
    Rule.effectiveTokens_eq_ok_iff]
  constructor
  · rintro ⟨_, ⟨tokens, visit, htokens, hnames, rfl⟩, hengine⟩
    obtain ⟨names, hread, rfl⟩ := map_eq_ok_iff.mp hnames
    obtain ⟨rules⟩ := engine
    cases hengine
    exact ⟨tokens, names, htokens, hread, rfl⟩
  · rintro ⟨tokens, names, htokens, hnames, rfl⟩
    refine ⟨_, ⟨tokens, visitor { names := names }, htokens, ?_, rfl⟩, rfl⟩
    exact map_eq_ok_iff.mpr ⟨names, hnames, rfl⟩

/-- The stages of configuring: rules, then kinds of nodes, then the other properties. -/
theorem configure_registry_eq_error_iff {e : EngineError} : configure registry ps = .error e ↔
    (∃ id, unknownRule? registry ps = some id ∧ e = .unknownRule id) ∨
      (∀ p ∈ ps.entries, p.rule = "NULL_ANNOTATIONS") ∧ ∃ fault, e = .rule info.id fault ∧
        ((∃ value, Given ps "tokens" value ∧ rule.RefusesTokens value fault) ∨
          (∃ tokens, rule.Chooses ((ps.forRule info.id).get? tokensKey) tokens) ∧
            ({} : Names).configure ((ps.forRule info.id).erase tokensKey) = .error fault) := by
  rw [configure_eq_error_iff, unknownRule?_registry_eq_none_iff, mapM_configureRule_registry]
  refine or_congr_right (and_congr_right fun _ => ?_)
  simp only [map_eq_error_iff, mapError_eq_error_iff, Rule.configured_eq_error_iff,
    Rule.effectiveTokens_eq_ok_iff, Rule.effectiveTokens_eq_error_iff,
    RuleProperties.get?_forRule_eq_some_iff]
  constructor
  · rintro ⟨fault, htokens | ⟨tokens, htokens, hnames⟩, rfl⟩
    · exact ⟨fault, rfl, Or.inl htokens⟩
    · exact ⟨fault, rfl, Or.inr ⟨⟨tokens, htokens⟩, map_eq_error_iff.mp hnames⟩⟩
  · rintro ⟨fault, rfl, htokens | ⟨⟨tokens, htokens⟩, hnames⟩⟩
    · exact ⟨fault, Or.inl htokens, rfl⟩
    · exact ⟨fault, Or.inr ⟨tokens, htokens, map_eq_error_iff.mpr hnames⟩, rfl⟩

/-- The error that is reported. -/
theorem configure_registry_eq_error_iff_prevents {e : EngineError} :
    configure registry ps = .error e ↔ Prevents ps e := by
  rw [configure_registry_eq_error_iff]
  constructor
  · rintro (⟨id, hid, rfl⟩ | ⟨hrules, fault, rfl, ⟨value, hvalue, hrefuses⟩ | ⟨htokens, hnames⟩⟩)
    · obtain ⟨hid, hne, hleast⟩ := unknownRule?_registry_eq_some_iff.mp hid
      exact .unknownRule hid hne hleast
    · exact .tokens hrules hvalue hrefuses
    · obtain ⟨key, value, hgiven, hne, hrefuses, hleast⟩ :=
        configure_names_eq_error_iff.mp hnames
      exact .property hrules (exists_chooses_iff.mp htokens) hne hgiven hrefuses hleast
  · intro h
    cases h with
    | unknownRule hid hne hleast =>
      exact Or.inl ⟨_, unknownRule?_registry_eq_some_iff.mpr ⟨hid, hne, hleast⟩, rfl⟩
    | @tokens value fault hrules hgiven h =>
      exact Or.inr ⟨hrules, fault, rfl, Or.inl ⟨value, hgiven, h⟩⟩
    | @property key value fault hrules htokens hkey hgiven h hleast =>
      refine Or.inr ⟨hrules, fault, rfl, Or.inr ⟨exists_chooses_iff.mpr htokens, ?_⟩⟩
      exact configure_names_eq_error_iff.mpr ⟨key, value, hgiven, hkey, h, hleast⟩

/-- An engine goes by the kinds and names that the properties ask for. -/
theorem configure_registry_eq_ok_iff_configurable : configure registry ps = .ok engine ↔
    Configurable ps ∧ ∃ tokens names, AsksTokens ps tokens ∧
      AsksName ps "nonNullAnnotation" "NonNull" names.nonNull ∧
      AsksName ps "nullableAnnotation" "Nullable" names.nullable ∧
      engine = ⟨[({ names := names } : Classifier).shownTo tokens]⟩ := by
  rw [configure_registry_eq_ok_iff, configurable_iff]
  simp only [chooses_iff, configure_names_eq_ok_iff]
  constructor
  · rintro ⟨hrules, tokens, names, ⟨hlist, htokens⟩, ⟨hgives, hnonNull, hnullable⟩, rfl⟩
    exact ⟨⟨hrules, hlist, hgives⟩, tokens, names, htokens, hnonNull, hnullable, rfl⟩
  · rintro ⟨⟨hrules, hlist, hgives⟩, tokens, names, htokens, hnonNull, hnullable, rfl⟩
    exact ⟨hrules, tokens, names, ⟨hlist, htokens⟩, ⟨hgives, hnonNull, hnullable⟩, rfl⟩

/-- **Which properties make an engine.** Configuring succeeds if all properties belong to the rule,
their keys are known and their values can be used; the engine then goes by the kinds and names that
are asked for. Otherwise an unknown rule is reported before the kinds, and the kinds before the
other properties, of which the one with the least key is reported.

**Proof sketch.** What is configured is what the stages come to. If no engine is made, there is an
error, and whatever prevents an engine contradicts that the rule can be configured. -/
theorem configure_registry_decides (ps : RuleProperties) :
    ((∃ engine, configure registry ps = .ok engine) ↔ Configurable ps) ∧
    (∀ engine, configure registry ps = .ok engine ↔
      Configurable ps ∧ ∃ tokens names, AsksTokens ps tokens ∧
        AsksName ps "nonNullAnnotation" "NonNull" names.nonNull ∧
        AsksName ps "nullableAnnotation" "Nullable" names.nullable ∧
        engine = ⟨[({ names := names } : Classifier).shownTo tokens]⟩) ∧
    ∀ e, configure registry ps = .error e ↔ Prevents ps e := by
  refine ⟨⟨?_, fun h => ?_⟩, fun engine => configure_registry_eq_ok_iff_configurable,
    fun e => configure_registry_eq_error_iff_prevents⟩
  · rintro ⟨engine, hengine⟩
    exact (configure_registry_eq_ok_iff_configurable.mp hengine).1
  · cases hconfigure : configure registry ps with
    | ok engine => exact ⟨engine, rfl⟩
    | error e =>
      have hprevents := configure_registry_eq_error_iff_prevents.mp hconfigure
      exact absurd h hprevents.not_configurable

end Engine

end NullLint
