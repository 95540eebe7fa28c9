import NullLint.Rule.NullAnnotations

set_option autoImplicit false
set_option relaxedAutoImplicit false

/-!
# Configuring the engine

An engine holds the rules that are applied to each tree, in the order of their identifiers, each
configured by its properties. The property `tokens` belongs to every rule: it lists the kinds of
nodes the rule is shown.

## Main definitions

* `effectiveTokens` — the kinds of nodes a rule is shown.
* `ConfiguredRule`, `Engine` — rules and engines that are ready.
* `Engine.configure` — the engine of some rules and properties.
* `registry` — the rules of this program.
-/

namespace NullLint

open Syntax

/-- The name of the property that lists the kinds of nodes a rule is shown. -/
def tokensKey : String := "tokens"

/-- The kind that an item of the list of tokens stands for; the rule has to accept it. -/
def tokenOf (acceptable : List Kind) (item : String) : Except ConfigFault Kind :=
  match Kind.parse? item with
  | none => .error (.unknownToken (Text.trim item))
  | some kind =>
    if acceptable.contains kind then .ok kind else .error (.unacceptableToken kind)

/-- The kinds that the property lists, or the default ones if it is not given. -/
def chosenTokens (rule : Rule) : Option String → Except ConfigFault (List Kind)
  | none => .ok rule.defaultTokens
  | some value =>
    match (splitList value).mapM (tokenOf rule.acceptableTokens) with
    | .error fault => .error fault
    | .ok [] => .error .noTokens
    | .ok kinds => .ok kinds

/-- The kinds of nodes a rule is shown: the chosen ones and those it requires. -/
def effectiveTokens (rule : Rule) (value : Option String) : Except ConfigFault KindSet :=
  (chosenTokens rule value).map fun kinds => KindSet.ofList (kinds ++ rule.requiredTokens)

/-- A rule that is ready: what it is called, the kinds of nodes it is shown, and how it looks at
them. -/
structure ConfiguredRule where
  info : RuleInfo
  tokens : KindSet
  visit : Visitor

/-- A rule with the properties given for it. -/
def Rule.configured (rule : Rule) (ps : Properties) : Except ConfigFault ConfiguredRule :=
  match effectiveTokens rule (ps.get? tokensKey) with
  | .error fault => .error fault
  | .ok tokens => (rule.configure (ps.erase tokensKey)).map fun visit => ⟨rule.info, tokens, visit⟩

/-- The event that tells of a rule that is ready. -/
def ConfiguredRule.event (rule : ConfiguredRule) : Log.Event where
  level := .debug
  source := "annolint::engine"
  message := "configured rule"
  details := [("rule", Text.quoted rule.info.id), ("tokens", rule.tokens.logText)]

/-- Why there is no engine for some properties. -/
inductive EngineError where
  | unknownRule (id : String)
  | rule (id : String) (cause : ConfigFault)
  deriving DecidableEq, Repr

/-- The words for an error, from the general to the particular. -/
def EngineError.chain : EngineError → List String
  | .unknownRule id => ["unknown rule in properties: " ++ id]
  | .rule id cause => ("failed to configure " ++ id) :: cause.chain

/-- An engine: rules that are ready, in the order in which they are applied. -/
structure Engine where
  rules : List ConfiguredRule

namespace Engine

/-- Rules in the order of their identifiers. -/
def inOrder (rules : List Rule) : List Rule :=
  rules.mergeSort fun a b => decide (a.info.id ≤ b.info.id)

/-- The first rule that has properties but does not exist. -/
def unknownRule? (rules : List Rule) (ps : RuleProperties) : Option String :=
  ps.ruleIds.find? fun id => !(rules.any fun rule => rule.info.id == id)

/-- A rule with its share of the properties. -/
def configureRule (ps : RuleProperties) (rule : Rule) : Except EngineError ConfiguredRule :=
  (rule.configured (ps.forRule rule.info.id)).mapError (.rule rule.info.id)

/-- The engine of some rules, configured by the properties. -/
def configure (rules : List Rule) (ps : RuleProperties) : Except EngineError Engine :=
  match unknownRule? rules ps with
  | some id => .error (.unknownRule id)
  | none => ((inOrder rules).mapM (configureRule ps)).map Engine.mk

/-- The events of configuring an engine; they end at the first rule that cannot be configured. -/
def configureEvents (rules : List Rule) (ps : RuleProperties) : List Log.Event :=
  match unknownRule? rules ps with
  | some _ => []
  | none =>
    (((inOrder rules).map (configureRule ps)).takeWhile (·.isOk)).filterMap fun rule =>
      rule.toOption.map ConfiguredRule.event

end Engine

/-- The rules of this program. -/
def registry : List Rule := [NullAnnotations.rule]

end NullLint
