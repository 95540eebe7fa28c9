import NullLint.Proofs.Rule.Judgement
import NullLint.Proofs.Rule.Names
import NullLint.Proofs.Syntax.Layout
import NullLint.Rule.Session

set_option autoImplicit false
set_option relaxedAutoImplicit false

/-!
# Steps of a session

A step that is refused changes nothing, however far it got. A configuration that succeeds replaces
the names that it gives, and a visit that succeeds adds what is found to the end of the report, in
words that use the names of that moment.

## Main definitions

* `NullAnnotations.Names.Reports` — how a finding is reported.
* `NullAnnotations.Session.Takes` — what a step does.
* `NullAnnotations.Classifier.IsUsual` — what holds of the rule at any time.

## Main results

* `NullAnnotations.Session.take_configure`, `NullAnnotations.Session.take_visit` — what a step comes
  to.
* `NullAnnotations.Session.takes_take` — the law of one step.
* `NullAnnotations.Session.isUsual_after` — the invariant of a session.
* `NullAnnotations.Session.after_lawful` — **the law of a session**.
-/

namespace NullLint.NullAnnotations

open Syntax Tree

namespace Names

/-- A finding is reported with its position and its name, under the key of its flaw and in words
that use the two names. -/
inductive Reports (names : Names) (f : Finding) : Diagnostic → Prop
  | missing (h : f.flaw = .missing) :
    Reports names f ⟨f.position, "null.annotations.missing",
      "Missing @" ++ names.nonNull ++ " or @" ++ names.nullable ++ " annotation on '" ++
        f.subject ++ "'", f.subject⟩
  | redundant (h : f.flaw = .redundant) :
    Reports names f ⟨f.position, "null.annotations.redundant",
      "Redundant @" ++ names.nonNull ++ "/@" ++ names.nullable ++ " annotation on '" ++
        f.subject ++ "'", f.subject⟩

theorem reports_diagnostic (names : Names) (f : Finding) :
    names.Reports f (names.diagnostic f) := by
  obtain ⟨position, flaw, subject⟩ := f
  cases flaw with
  | missing => exact Reports.missing rfl
  | redundant => exact Reports.redundant rfl

end Names

namespace Classifier

variable {c : Classifier} {t : Tree} {n : t.Node}

/-- If something is found at a node, all its subjects are complete, and it is what the verdicts on
them say. -/
theorem verdicts_of_classify {fs : List Finding} (h : c.classify n = .ok fs) :
    (∀ s ∈ subjects n, Complete s) ∧
      ∃ vs, List.Forall₂ c.Verdict (subjects n) vs ∧ fs = vs.reduceOption := by
  obtain ⟨vs, hvs, rfl⟩ := map_eq_ok_iff.mp h
  have hall := (mapM_eq_ok_iff.mp hvs).imp fun s v hv => judge_eq_ok_iff.mp hv
  obtain ⟨hcomplete, hverdicts⟩ := (List.forall₂_and_left _ _).mp hall
  exact ⟨hcomplete, vs, hverdicts, rfl⟩

/-- If a node is refused, it is for the first of its subjects that is not complete. -/
theorem lacks_of_classify {cause : Malformed} (h : c.classify n = .error cause) :
    ∃ before s after, subjects n = before ++ s :: after ∧ (∀ x ∈ before, Complete x) ∧
      Lacks s cause := by
  obtain ⟨before, s, after, hs, hbefore, hcause⟩ := mapM_eq_error_iff.mp (map_eq_error_iff.mp h)
  exact ⟨before, s, after, hs, fun x hx => isOk_judge_iff.mp (hbefore x hx),
    judge_eq_error_iff.mp hcause⟩

/-- What holds of the rule at any time: both names are identifiers, and the types without null are
the usual ones. -/
structure IsUsual (c : Classifier) : Prop where
  nonNull : IsIdentifier c.names.nonNull
  nullable : IsIdentifier c.names.nullable
  neverNull : c.neverNull = TypeSet.neverNull

end Classifier

namespace Session

variable {session session' : Session}

/-! ## Single steps -/

/-- What a step does to a session.

* `configured`: all properties give names. They replace the names that they are about.
* `notConfigured`: the first property that gives no name is refused, and nothing changes.
* `visited`: all subjects of the node are complete. What the verdicts on them say is reported after
  all that was reported before, with the names that are in force.
* `notVisited`: the first subject that is not complete is refused, and nothing changes. -/
inductive Takes (session : Session) : Step → Except Refusal Unit → Session → Prop
  | configured {ps : Properties} {names : Names} (hall : ∀ p ∈ ps, ∃ name, Gives p name)
      (hnames : session.classifier.names.Updates ps names) :
      Takes session (.configure ps) (.ok ()) { session with classifier := { names := names } }
  | notConfigured {before : Properties} {p : String × String} {after : Properties}
      {fault : ConfigFault} (hbefore : ∀ q ∈ before, ∃ name, Gives q name) (hp : Refuses p fault) :
      Takes session (.configure (before ++ p :: after)) (.error (.configuration fault)) session
  | visited {t : Tree} {n : t.Node} {ss : List t.Node} {vs : List (Option Finding)}
      {ds : List Diagnostic} (hsubjects : SubjectList n ss) (hall : ∀ s ∈ ss, Complete s)
      (hvs : List.Forall₂ session.classifier.Verdict ss vs)
      (hds : List.Forall₂ session.classifier.names.Reports vs.reduceOption ds) :
      Takes session (.visit t n) (.ok ()) { session with reported := session.reported ++ ds }
  | notVisited {t : Tree} {n : t.Node} {before : List t.Node} {s : t.Node} {after : List t.Node}
      {cause : Malformed} (hsubjects : SubjectList n (before ++ s :: after))
      (hbefore : ∀ x ∈ before, Complete x) (hs : Lacks s cause) :
      Takes session (.visit t n) (.error (.visit cause)) session

/-- What a configuration comes to. -/
theorem take_configure (session : Session) (ps : Properties) :
    session.take (.configure ps) =
      match session.classifier.names.configure ps with
      | .error fault => (.error (.configuration fault), session)
      | .ok names => (.ok (), { session with classifier := { names := names } }) := by
  rw [take, Step.action, configure, Action.run_get_bind, Action.run_attempt_bind]
  cases session.classifier.names.configure ps <;> rfl

/-- Findings that are reported one after the other follow what was reported before. -/
theorem foldl_report (fs : List Finding) (session : Session) :
    fs.foldl (fun (s : Session) f =>
        { s with reported := s.reported ++ [s.classifier.names.diagnostic f] }) session =
      { session with
        reported := session.reported ++ fs.map session.classifier.names.diagnostic } := by
  induction fs generalizing session with
  | nil => simp
  | cons f fs ih =>
    rw [List.foldl_cons, ih]
    simp

/-- What a visit comes to. -/
theorem take_visit (session : Session) {t : Tree} (n : t.Node) :
    session.take (.visit t n) =
      match session.classifier.classify n with
      | .error cause => (.error (.visit cause), session)
      | .ok fs =>
        (.ok (), { session with
          reported := session.reported ++ fs.map session.classifier.names.diagnostic }) := by
  rw [take, Step.action, visit, Action.run_get_bind, Action.run_attempt_bind]
  cases session.classifier.classify n with
  | error cause => rfl
  | ok fs =>
    simp only [Except.mapError, Action.run_forIn, foldl_report]
    rfl

/-- **The law of one step.**

**Proof sketch.** By what the names, or the findings, come to. If that is an error, the step ends
there and the session is the one before; otherwise the rest of the step cannot fail. -/
theorem takes_take (session : Session) (step : Step) :
    session.Takes step (session.take step).1 (session.take step).2 := by
  cases step with
  | configure ps =>
    rw [take_configure]
    cases h : session.classifier.names.configure ps with
    | error fault =>
      obtain ⟨before, p, after, rfl, hbefore, hp⟩ := Names.configure_eq_error_iff.mp h
      exact Takes.notConfigured hbefore hp
    | ok names =>
      obtain ⟨hall, hnames⟩ := Names.updates_of_configure h
      exact Takes.configured hall hnames
  | visit t n =>
    rw [take_visit]
    cases h : session.classifier.classify n with
    | error cause =>
      obtain ⟨before, s, after, hsubjects, hbefore, hs⟩ := Classifier.lacks_of_classify h
      exact Takes.notVisited (subjectList_iff.mpr hsubjects.symm) hbefore hs
    | ok fs =>
      obtain ⟨hall, vs, hvs, rfl⟩ := Classifier.verdicts_of_classify h
      refine Takes.visited (subjectList_iff.mpr rfl) hall hvs ?_
      exact List.forall₂_map_right_iff.mpr
        (List.forall₂_same.mpr fun f _ => Names.reports_diagnostic _ f)

/-! ## Whole sessions -/

theorem after_append_singleton (steps : List Step) (step : Step) :
    after (steps ++ [step]) = ((after steps).take step).2 := by
  rw [after, List.foldl_append]
  rfl

/-- A step keeps what holds of the rule at any time. -/
theorem Takes.isUsual {step : Step} {outcome : Except Refusal Unit}
    (h : session.Takes step outcome session') (hu : session.classifier.IsUsual) :
    session'.classifier.IsUsual := by
  cases h with
  | @configured ps names hall hnames =>
    refine ⟨hnames.isIdentifier "nonNullAnnotation" rfl fun old hold => ?_,
      hnames.isIdentifier "nullableAnnotation" rfl fun old hold => ?_, rfl⟩
    · cases hold
      exact hu.nonNull
    · cases hold
      exact hu.nullable
  | notConfigured => exact hu
  | visited => exact hu
  | notVisited => exact hu

/-- A step that is refused changes nothing. -/
theorem Takes.eq_of_error {step : Step} {refusal : Refusal}
    (h : session.Takes step (.error refusal) session') : session' = session := by
  cases h <;> rfl

/-- A visit does not change the rule. -/
theorem Takes.classifier_of_visit {t : Tree} {n : t.Node} {outcome : Except Refusal Unit}
    (h : session.Takes (.visit t n) outcome session') :
    session'.classifier = session.classifier := by
  cases h <;> rfl

/-- A step takes back nothing that was reported. -/
theorem Takes.prefix_reported {step : Step} {outcome : Except Refusal Unit}
    (h : session.Takes step outcome session') : session.reported <+: session'.reported := by
  cases h with
  | visited => exact List.prefix_append _ _
  | configured => exact List.prefix_rfl
  | notConfigured => exact List.prefix_rfl
  | notVisited => exact List.prefix_rfl

/-- What holds of the rule at any time holds after any steps.

**Proof sketch.** Induction on the steps, from the last one. The names at the start are
identifiers. -/
theorem isUsual_after (steps : List Step) : (after steps).classifier.IsUsual := by
  induction steps using List.reverseRecOn with
  | nil =>
    refine ⟨⟨'N', "onNull".toList, by decide, by decide, List.all_eq_true.mp (by decide)⟩,
      ⟨'N', "ullable".toList, by decide, by decide, List.all_eq_true.mp (by decide)⟩, rfl⟩
  | append_singleton steps step ih =>
    rw [after_append_singleton]
    exact (takes_take (after steps) step).isUsual ih

/-- What was reported is still there after some steps more. -/
theorem prefix_reported_after (steps more : List Step) :
    (after steps).reported <+: (after (steps ++ more)).reported := by
  induction more using List.reverseRecOn with
  | nil => simp only [List.append_nil, List.prefix_rfl]
  | append_singleton more step ih =>
    rw [← List.append_assoc, after_append_singleton]
    exact ih.trans (takes_take _ step).prefix_reported

/-- **The law of a session.** After any steps, both names are identifiers, so that they are not
empty and hold no blank, no at-sign and no point. Whatever is done next follows the law of one step;
in particular a visit does not change the rule, and a step that is refused changes nothing. What was
reported stays in its place. -/
theorem after_lawful (steps : List Step) :
    (∀ name ∈ [(after steps).classifier.names.nonNull, (after steps).classifier.names.nullable],
      name ≠ "" ∧ IsIdentifier name ∧
        ∀ c ∈ name.toList, Text.isBlank c = false ∧ c ≠ '@' ∧ c ≠ '.') ∧
      (∀ step, (after steps).Takes step ((after steps).take step).1 (after (steps ++ [step]))) ∧
      (∀ (t : Tree) (n : t.Node),
        (after (steps ++ [.visit t n])).classifier = (after steps).classifier) ∧
      (∀ step refusal, ((after steps).take step).1 = .error refusal →
        after (steps ++ [step]) = after steps) ∧
      ∀ more, (after steps).reported <+: (after (steps ++ more)).reported := by
  have hu := isUsual_after steps
  have hstep : ∀ step,
      (after steps).Takes step ((after steps).take step).1 (after (steps ++ [step])) := by
    intro step
    rw [after_append_singleton]
    exact takes_take _ step
  refine ⟨?_, hstep, ?_, ?_, prefix_reported_after steps⟩
  · intro name hname
    have hid : IsIdentifier name := by
      rcases List.mem_pair.mp hname with rfl | rfl
      · exact hu.nonNull
      · exact hu.nullable
    exact ⟨hid.ne_empty, hid, hid.plain⟩
  · intro t n
    exact (hstep (.visit t n)).classifier_of_visit
  · intro step refusal hrefused
    have h := hstep step
    rw [hrefused] at h
    exact h.eq_of_error

/-! ## A session with refusals -/

/-- A body of a type with a field that lacks an annotation, and a method that lacks one and has a
parameter without a type. -/
def openHouse : Dump where
  path := "House.java"
  root := .node ⟨.objectBlock, ⟨1, 13⟩, none, none, [], []⟩ [
    .node ⟨.variableDef, ⟨2, 5⟩, some ⟨"owner", ⟨2, 12⟩⟩,
      some ⟨.reference, some "String", ⟨2, 5⟩⟩, [], []⟩ [],
    .node ⟨.methodDef, ⟨3, 5⟩, some ⟨"enter", ⟨3, 12⟩⟩,
      some ⟨.reference, some "String", ⟨3, 5⟩⟩, [], []⟩ [
      .node ⟨.parameters, ⟨3, 17⟩, none, none, [], []⟩ [
        .node ⟨.parameterDef, ⟨3, 18⟩, some ⟨"key", ⟨3, 22⟩⟩, none, [], []⟩ []]]]

/-- A session in which the rule gets another name for values that may be null and visits the
field. -/
def fieldVisited : List Step :=
  [.configure [("nullableAnnotation", " @MaybeNull ")], .visit (layOut openHouse) ⟨1, by decide⟩]

/-- A configuration with a good name and one that is none. -/
def halfGood : Step :=
  .configure [("nonNullAnnotation", "Present"), ("nullableAnnotation", "a.b")]

/-- A visit of the method. -/
def methodVisit : Step := .visit (layOut openHouse) ⟨2, by decide⟩

/-- A configuration and a visit that are refused leave no trace, although the configuration gives a
good name first, and something is found at the method before its parameter is judged. The next visit
reports with the names that are in force then. -/
theorem after_refusals :
    ((after fieldVisited).take halfGood).1 =
      .error (.configuration (.notSimple "nullableAnnotation" "a.b")) ∧
    ((after (fieldVisited ++ [halfGood])).take methodVisit).1 =
      .error (.visit ⟨.parameterDef, ⟨3, 18⟩, .type⟩) ∧
    (after fieldVisited).classifier.foundEarly (⟨2, by decide⟩ : (layOut openHouse).Node) =
      [⟨⟨3, 5⟩, .missing, "enter"⟩] ∧
    after (fieldVisited ++ [halfGood] ++ [methodVisit]) = after fieldVisited ∧
    (after (fieldVisited ++ [halfGood] ++ [methodVisit] ++
        (.configure [("nonNullAnnotation", "@Present")] :: fieldVisited.tail))).reported =
      [⟨⟨2, 5⟩, "null.annotations.missing",
          "Missing @NonNull or @MaybeNull annotation on 'owner'", "owner"⟩,
        ⟨⟨2, 5⟩, "null.annotations.missing",
          "Missing @Present or @MaybeNull annotation on 'owner'", "owner"⟩] := by
  have hconfigure : ((after fieldVisited).take halfGood).1 =
      .error (.configuration (.notSimple "nullableAnnotation" "a.b")) := rfl
  have hvisit : ((after (fieldVisited ++ [halfGood])).take methodVisit).1 =
      .error (.visit ⟨.parameterDef, ⟨3, 18⟩, .type⟩) := rfl
  obtain ⟨-, -, -, hkept, -⟩ := after_lawful fieldVisited
  obtain ⟨-, -, -, hkept', -⟩ := after_lawful (fieldVisited ++ [halfGood])
  refine ⟨hconfigure, hvisit, rfl, ?_, rfl⟩
  rw [hkept' _ _ hvisit, hkept _ _ hconfigure]

end Session

end NullLint.NullAnnotations
