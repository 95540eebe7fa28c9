import NullLint.Log
import NullLint.Property
import NullLint.Syntax.Tree

set_option autoImplicit false
set_option relaxedAutoImplicit false

/-!
# Rules

A rule looks at the nodes of certain kinds and reports what is wrong with the declarations it finds
there. Which kinds it is shown may be narrowed by the property `tokens`; all other properties of a
rule are its own.

## Main definitions

* `Diagnostic` — something a rule reports.
* `Malformed` — a node from which a part is missing that the rule needs.
* `Visit` — what visiting a node came to.
* `Rule` — a rule before it is configured.
* `Rule.takesNothing` — the configuration of a rule without properties.
-/

namespace NullLint

open Syntax

/-- Something that is wrong with a declaration: where, under which key, in words, and the name of
the declaration. -/
structure Diagnostic where
  position : Position
  key : String
  message : String
  subject : String
  deriving DecidableEq, Repr

/-- What can be missing from a declaration. -/
inductive MissingPart where
  | identifier
  | type
  deriving DecidableEq, Repr

/-- The words for what is missing. -/
def MissingPart.message : MissingPart → String
  | .identifier => "has no identifier"
  | .type => "has no type"

/-- A declaration that lacks a part. -/
structure Malformed where
  kind : Kind
  position : Position
  missing : MissingPart
  deriving DecidableEq, Repr

/-- The words for a malformed declaration. -/
def Malformed.message (m : Malformed) : String :=
  "malformed tree: " ++ m.kind.name ++ " at " ++ m.position.text ++ " " ++ m.missing.message

/-- What visiting a node came to: what was reported, or what is wrong with the tree; and the events
on the way, which also tell of findings that were dropped because of a later fault. -/
structure Visit where
  result : Except Malformed (List Diagnostic)
  events : List Log.Event := []

/-- Why a rule cannot be configured. -/
inductive ConfigFault where
  | unknownToken (name : String)
  | unacceptableToken (kind : Kind)
  | noTokens
  | unknownProperty (rule key : String)
  | emptyName (key : String)
  | notSimple (key value : String)
  deriving DecidableEq, Repr

/-- The words for a fault, from the general to the particular. -/
def ConfigFault.chain : ConfigFault → List String
  | .unknownToken name => ["unknown token: " ++ name]
  | .unacceptableToken kind => ["token " ++ kind.name ++ " is not acceptable"]
  | .noTokens => ["tokens must not be empty"]
  | .unknownProperty rule key => [rule ++ " has no property named " ++ key]
  | .emptyName key => ["invalid " ++ key, "annotation name must not be empty"]
  | .notSimple key value => ["invalid " ++ key, "not a simple annotation name: " ++ value]

/-- What a rule is called and what it is about. -/
structure RuleInfo where
  id : String
  name : String
  description : String
  deriving DecidableEq, Repr

/-- How a configured rule looks at a node. -/
abbrev Visitor := (t : Tree) → t.Node → Visit

/-- A rule before it is configured: the kinds of nodes it is shown unless the property `tokens` says
otherwise, the kinds that property may name, the kinds it is shown in any case, and the way its
properties configure it. -/
structure Rule where
  info : RuleInfo
  defaultTokens : List Kind
  acceptableTokens : List Kind
  requiredTokens : List Kind := []
  configure : Properties → Except ConfigFault Visitor

/-- The configuration of a rule that has no properties of its own: the first one given is an
error. -/
def Rule.takesNothing {α : Type} (id : String) (a : α) (ps : Properties) :
    Except ConfigFault α :=
  match ps with
  | [] => .ok a
  | (key, _) :: _ => .error (.unknownProperty id key)

end NullLint
