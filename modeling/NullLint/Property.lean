import NullLint.Text.Blank
import NullLint.Text.Cut

set_option autoImplicit false
set_option relaxedAutoImplicit false

/-!
# Rule properties

A rule is configured by entries `RULE_ID.key=value`. The name of an entry ends at the first equals
sign, the rule at the first point of the name. Blanks around the name and around the value do not
count, blanks around the point do.

## Main definitions

* `Property.parse` — the property that an entry denotes.
* `RuleProperties.parse` — the properties of a list of entries, of which no two may name the same
  key of the same rule.
* `RuleProperties.forRule`, `RuleProperties.ruleIds` — the properties of a rule, and the rules that
  have any, in the order of their names.
* `splitList` — the items of a value that is a list.
-/

namespace NullLint

/-- One property of a rule. -/
structure Property where
  rule : String
  key : String
  value : String
  deriving DecidableEq, Repr

/-- What a property is about: a key of a rule. -/
def Property.name (p : Property) : String × String := (p.rule, p.key)

/-- Names stay distinct when one that is not among them comes last. -/
theorem Property.nodup_map_name_concat {ps : List Property} {p : Property}
    (hps : (ps.map Property.name).Nodup) (hp : p.name ∉ ps.map Property.name) :
    ((ps ++ [p]).map Property.name).Nodup := by
  rw [List.map_append, List.map_cons, List.map_nil, List.nodup_append]
  refine ⟨hps, by simp, ?_⟩
  intro a ha b hb hab
  rw [hab, List.mem_singleton.mp hb] at ha
  exact hp ha

/-- Why an entry denotes no property. -/
inductive EntryFault where
  | notAnEntry
  | emptyName
  deriving DecidableEq, Repr

/-- The words for a bad entry. -/
def EntryFault.message : EntryFault → String
  | .notAnEntry => "expected RULE_ID.key=value"
  | .emptyName => "rule id and property name must not be empty"

/-- The property that an entry denotes. -/
def Property.parse (entry : String) : Except EntryFault Property :=
  match Text.cutFirst '=' entry with
  | none => .error .notAnEntry
  | some (name, value) =>
    match Text.cutFirst '.' (Text.trim name) with
    | none => .error .notAnEntry
    | some (rule, key) =>
      if rule.isEmpty || key.isEmpty then .error .emptyName
      else .ok ⟨rule, key, Text.trim value⟩

/-- Why a list of entries gives no properties. -/
inductive PropertyError where
  | malformed (entry : String) (cause : EntryFault)
  | repeated (rule key : String)
  deriving DecidableEq, Repr

/-- The words for an error, from the general to the particular. -/
def PropertyError.chain : PropertyError → List String
  | .malformed entry cause => ["invalid property: " ++ entry, cause.message]
  | .repeated rule key => ["duplicate property: " ++ rule ++ "." ++ key]

/-- The properties of one rule: keys and values, in the order of the keys. -/
abbrev Properties := List (String × String)

/-- Pairs in the order of their keys. -/
def Properties.sorted (ps : List (String × String)) : Properties :=
  ps.mergeSort fun a b => decide (a.1 ≤ b.1)

/-- The value of a key. -/
def Properties.get? (ps : Properties) (key : String) : Option String :=
  (ps.find? fun p => p.1 == key).map (·.2)

/-- All properties but the one of a key. -/
def Properties.erase (ps : Properties) (key : String) : Properties :=
  ps.filter fun p => p.1 != key

/-- The properties of all rules, in the order in which they were given. No key of a rule is given
twice. -/
structure RuleProperties where
  entries : List Property := []
  distinct : (entries.map Property.name).Nodup := by simp
  deriving DecidableEq, Repr

namespace RuleProperties

/-- Takes one more property, unless its key has a value already. -/
def insert (ps : RuleProperties) (p : Property) : Except PropertyError RuleProperties :=
  if h : p.name ∈ ps.entries.map Property.name then .error (.repeated p.rule p.key)
  else .ok ⟨ps.entries ++ [p], Property.nodup_map_name_concat ps.distinct h⟩

/-- Takes one more entry. -/
def insertEntry (ps : RuleProperties) (entry : String) : Except PropertyError RuleProperties :=
  match Property.parse entry with
  | .error cause => .error (.malformed entry cause)
  | .ok p => ps.insert p

/-- The properties of a list of entries. -/
def parse (entries : List String) : Except PropertyError RuleProperties :=
  entries.foldlM insertEntry {}

/-- The rules that have properties, each once, in the order of their names. -/
def ruleIds (ps : RuleProperties) : List String :=
  ((ps.entries.map (·.rule)).eraseDups).mergeSort fun a b => decide (a ≤ b)

/-- The properties of one rule. -/
def forRule (ps : RuleProperties) (rule : String) : Properties :=
  Properties.sorted ((ps.entries.filter fun p => p.rule == rule).map fun p => (p.key, p.value))

end RuleProperties

/-- The items of a value that lists them with commas between them. Blanks around an item do not
count, and an empty item is none. -/
def splitList (value : String) : List String :=
  ((Text.pieces ',' value).map Text.trim).filter fun item => !item.isEmpty

end NullLint
