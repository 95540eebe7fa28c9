import NullLint.Engine.Configure
import NullLint.Progress

set_option autoImplicit false
set_option relaxedAutoImplicit false

/-!
# Applying rules to a tree

A rule is shown the nodes of a tree one after the other, parents before their children, but only
those whose kind is among its tokens. The first malformed node ends the work on the tree.

## Main definitions

* `ConfiguredRule.shown` — the nodes a rule is shown.
* `ConfiguredRule.dispatch` — what a rule reports about a tree.
* `ConfiguredRule.dispatchEvents` — the events on the way.
-/

namespace NullLint

open Syntax

/-- A rule came to a malformed node of a tree, which is named by its source path. -/
structure DispatchError where
  rule : String
  tree : String
  cause : Malformed
  deriving DecidableEq, Repr

/-- The words for an error, from the general to the particular. -/
def DispatchError.chain (e : DispatchError) : List String :=
  [e.rule ++ " failed on " ++ e.tree, e.cause.message]

namespace ConfiguredRule

variable (rule : ConfiguredRule)

/-- The nodes of a tree that a rule is shown. -/
def shown (t : Tree) : List t.Node :=
  (Tree.descendants t.root).filter fun n => rule.tokens.holds (Tree.kind n)

/-- What a rule reports about a tree, in the order of the nodes. -/
def dispatch (t : Tree) : Except DispatchError (List Diagnostic) :=
  (((rule.shown t).mapM fun n => (rule.visit t n).result).map List.flatten).mapError fun cause =>
    ⟨rule.info.id, t.path, cause⟩

/-- The events while a rule looks at a tree; they end with those of the first malformed node. -/
def dispatchEvents (t : Tree) : List Log.Event :=
  (through (fun v => !v.result.isOk) ((rule.shown t).map (rule.visit t))).flatMap Visit.events

end ConfiguredRule

end NullLint
