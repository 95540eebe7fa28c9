import NullLint.Rule.NullAnnotations

set_option autoImplicit false
set_option relaxedAutoImplicit false

/-!
# Working with the rule about null annotations

The rule has a state: it can be configured more than once, and it is shown nodes in between. What it
reports goes to the end of one list.

## Main definitions

* `NullAnnotations.Session` — what the rule goes by, and all that it has reported.
* `NullAnnotations.Session.configure`, `NullAnnotations.Session.visit` — what is done with the rule.
* `NullAnnotations.Step`, `NullAnnotations.Session.take`, `NullAnnotations.Session.after` — single
  steps of a session, and a session after some steps.

## Design

An action that is refused does not take back what it has changed before. That a refused action
changes nothing is therefore a matter of its order: the names are all read before the first one is
replaced, and all subjects of a node are judged before the first finding is reported.
-/

namespace NullLint.NullAnnotations

open Syntax

/-- What the rule goes by, and all that it has reported, the latest at the end. -/
structure Session where
  classifier : Classifier := {}
  reported : List Diagnostic := []

/-- Why the rule refuses to do something. -/
inductive Refusal where
  | configuration (fault : ConfigFault)
  | visit (cause : Malformed)
  deriving DecidableEq, Repr

/-- Something that is done with the rule. If it is refused, the session is left as it is at that
moment. -/
abbrev Action := ExceptT Refusal (StateM Session) Unit

namespace Action

/-- An action that looks at the session first. -/
theorem run_get_bind (f : Session → Action) (session : Session) :
    (get >>= f : Action).run.run session = (f session).run.run session := rfl

/-- An action that goes on with the value of an attempt. -/
theorem run_attempt_bind {α : Type} (x : Except Refusal α) (f : α → Action) (session : Session) :
    (liftM x >>= f : Action).run.run session =
      match x with
      | .error refusal => (.error refusal, session)
      | .ok a => (f a).run.run session := by
  cases x <;> rfl

/-- An action that changes the session once for each item of a list. -/
theorem run_forIn {α : Type} (as : List α) (f : α → Session → Session) (session : Session) :
    (do for a in as do modify (f a) : Action).run.run session =
      (.ok (), as.foldl (fun session a => f a session) session) := by
  induction as generalizing session with
  | nil => rfl
  | cons a as ih =>
    rw [List.forIn_cons]
    exact ih (f a session)

end Action

namespace Session

/-- Configures the rule. The types without null are the usual ones afterwards. -/
def configure (ps : Properties) : Action := do
  let names ← ((← get).classifier.names.configure ps).mapError Refusal.configuration
  modify fun session => { session with classifier := { names := names } }

/-- Shows the rule a node. -/
def visit {t : Tree} (n : t.Node) : Action := do
  let found ← ((← get).classifier.classify n).mapError Refusal.visit
  for f in found do
    modify fun session =>
      { session with reported := session.reported ++ [session.classifier.names.diagnostic f] }

end Session

/-- A step of a session. -/
inductive Step where
  | configure (ps : Properties)
  | visit (t : Tree) (n : t.Node)

/-- What is done in a step. -/
def Step.action : Step → Action
  | .configure ps => Session.configure ps
  | .visit _ n => Session.visit n

namespace Session

/-- Whether a step succeeds, and the session after it. -/
def take (session : Session) (step : Step) : Except Refusal Unit × Session :=
  (step.action.run.run session).run

/-- The session after some steps. -/
def after (steps : List Step) : Session :=
  steps.foldl (fun session step => (session.take step).2) {}

end Session

end NullLint.NullAnnotations
