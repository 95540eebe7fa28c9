import NullLint.Engine.Analyze
import NullLint.Proofs.Engine.Configure
import NullLint.Proofs.Engine.Pool
import NullLint.Proofs.Sarif

set_option autoImplicit false
set_option relaxedAutoImplicit false

/-!
# The results of an analysis

The analysis of several trees succeeds if each rule succeeds on each tree, whatever the schedule is.
Its results then tell of all diagnostics, in the order of the trees, the rules and the nodes.

## Main definitions

* `ConfiguredRule.reports` — what a rule reports at the nodes that it is shown.
* `Engine.reported` — what all rules report about all trees.
* `Engine.FailsOn` — the first rule that fails on a tree.

## Main results

* `Engine.unitResults_of_dispatch`, `Engine.unitResults_eq_error_iff` — the results about one tree.
* `Engine.analyze_eq_ok_iff` — an analysis succeeds with the results about all trees in their order.
* `Engine.analyze_independent` — the results of an analysis do not depend on the schedule.
-/

namespace NullLint

open Syntax

/-! ## A rule and a tree -/

/-- What a rule reports at the nodes that it is shown, in their order. -/
def ConfiguredRule.reports (rule : ConfiguredRule) (t : Tree) : List Diagnostic :=
  (rule.shown t).flatMap fun n => ((rule.visit t n).result.toOption).getD []

/-- A rule that succeeds on a tree reports what it reports at the nodes. -/
theorem ConfiguredRule.dispatch_eq_reports {rule : ConfiguredRule} {t : Tree}
    (h : ∃ ds, rule.dispatch t = .ok ds) : rule.dispatch t = .ok (rule.reports t) := by
  obtain ⟨ds, hds⟩ := h
  rw [hds]
  unfold dispatch at hds
  rw [mapError_eq_ok_iff, map_eq_ok_iff] at hds
  obtain ⟨dss, hvisits, rfl⟩ := hds
  have hmap : (rule.shown t).map (fun n => ((rule.visit t n).result.toOption).getD []) = dss := by
    rw [← List.forall₂_eq_eq_eq, List.forall₂_map_left_iff]
    refine (mapM_eq_ok_iff.mp hvisits).imp fun n ds hn => ?_
    rw [hn]
    rfl
  rw [reports, List.flatMap, hmap]

namespace Engine

variable (engine : Engine) (artifacts : List Sarif.Artifact) (units : List SourceUnit)

/-! ## The results about one tree -/

/-- The first of the rules that fail on a tree fails with an error. -/
def FailsOn (u : SourceUnit) (e : DispatchError) : Prop :=
  ∃ before rule after, engine.rules = before ++ rule :: after ∧
    (∀ r ∈ before, (r.dispatch u.tree).isOk = true) ∧ rule.dispatch u.tree = .error e

/-- What all rules report about a tree. -/
def reportedOn (u : SourceUnit) : List (SourceUnit × ConfiguredRule × Diagnostic) :=
  engine.rules.flatMap fun rule => (rule.reports u.tree).map fun d => (u, rule, d)

/-- The result of what a rule reports about a tree. -/
def resultOf (x : SourceUnit × ConfiguredRule × Diagnostic) : Sarif.Result :=
  Sarif.Result.ofDiagnostic x.2.1.info.id (Sarif.artifactUri artifacts x.1.artifact) x.2.2

/-- If all rules succeed on a tree, its results are those of what they report. -/
theorem unitResults_of_dispatch {u : SourceUnit}
    (h : ∀ rule ∈ engine.rules, ∃ ds, rule.dispatch u.tree = .ok ds) :
    engine.unitResults artifacts u = .ok ((engine.reportedOn u).map (resultOf artifacts)) := by
  have hrules : engine.rules.mapM (ruleResults (Sarif.artifactUri artifacts u.artifact) u.tree) =
      .ok (engine.rules.map fun rule =>
        (rule.reports u.tree).map fun d => resultOf artifacts (u, rule, d)) := by
    refine mapM_eq_ok_map fun rule hrule => ?_
    rw [ruleResults, ConfiguredRule.dispatch_eq_reports (h rule hrule)]
    rfl
  rw [unitResults, treeResults, hrules, reportedOn, List.map_flatMap, List.flatMap]
  simp only [List.map_map, Function.comp_def]
  rfl

/-- The work on a tree fails with the error of the first rule that fails. -/
theorem unitResults_eq_error_iff {u : SourceUnit} {e : DispatchError} :
    engine.unitResults artifacts u = .error e ↔ engine.FailsOn u e := by
  rw [unitResults, treeResults, map_eq_error_iff, mapM_eq_error_iff, FailsOn]
  simp only [ruleResults, isOk_map, map_eq_error_iff]

/-- The work on a tree succeeds if all rules succeed on it. -/
theorem exists_unitResults_eq_ok_iff {u : SourceUnit} :
    (∃ rs, engine.unitResults artifacts u = .ok rs) ↔
      ∀ rule ∈ engine.rules, ∃ ds, rule.dispatch u.tree = .ok ds := by
  constructor
  · rintro ⟨rs, hrs⟩ rule hrule
    rw [unitResults, treeResults, map_eq_ok_iff] at hrs
    obtain ⟨rss, hrss, -⟩ := hrs
    obtain ⟨r, hr⟩ := exists_mapM_eq_ok_iff.mp ⟨rss, hrss⟩ rule hrule
    obtain ⟨ds, hds, -⟩ := map_eq_ok_iff.mp hr
    exact ⟨ds, hds⟩
  · intro h
    exact ⟨_, engine.unitResults_of_dispatch artifacts h⟩

/-! ## The results about all trees -/

/-- What all rules report about all trees, in the order of the trees, the rules and the nodes. -/
def reported : List (SourceUnit × ConfiguredRule × Diagnostic) :=
  units.flatMap engine.reportedOn

/-- The jobs in their order are the trees in their order. -/
theorem mapM_jobResults :
    (List.range units.length).mapM (engine.jobResults artifacts units) =
      units.mapM (engine.unitResults artifacts) := by
  refine mapM_eq_mapM_of_forall₂ (List.forall₂_iff_get.mpr ⟨List.length_range, ?_⟩)
  intro i hi hu
  simp [jobResults, hu]

/-- An analysis succeeds with the results about all trees in their order. -/
theorem analyze_eq_ok_iff {schedule : List Move} {rs : List Sarif.Result} :
    engine.analyze artifacts units schedule = .ok rs ↔
      ∃ rss, units.mapM (engine.unitResults artifacts) = .ok rss ∧ rss.flatten = rs := by
  rw [analyze, pool, map_eq_ok_iff]
  simp only [Pool.result_run_eq_ok_iff, mapM_jobResults]

/-- An analysis fails with the error of one of the trees. -/
theorem failsOn_of_analyze {schedule : List Move} {e : DispatchError}
    (h : engine.analyze artifacts units schedule = .error e) : ∃ u ∈ units, engine.FailsOn u e := by
  rw [analyze, pool, map_eq_error_iff] at h
  obtain ⟨job, hjob, hwork⟩ := Pool.work_eq_error_of_result_run h
  refine ⟨units[job], List.getElem_mem hjob, ?_⟩
  rw [← engine.unitResults_eq_error_iff artifacts, ← hwork, jobResults,
    List.getElem?_eq_getElem hjob]

/-- If all rules succeed on all trees, the results are those of what they report. -/
theorem analyze_of_dispatch (schedule : List Move)
    (h : ∀ u ∈ units, ∀ rule ∈ engine.rules, ∃ ds, rule.dispatch u.tree = .ok ds) :
    engine.analyze artifacts units schedule =
      .ok ((engine.reported units).map (resultOf artifacts)) := by
  rw [analyze_eq_ok_iff]
  refine ⟨units.map fun u => (engine.reportedOn u).map (resultOf artifacts), ?_, ?_⟩
  · exact mapM_eq_ok_map fun u hu => engine.unitResults_of_dispatch artifacts (h u hu)
  · rw [reported, List.map_flatMap, List.flatMap]

/-- An analysis succeeds if all rules succeed on all trees. -/
theorem exists_analyze_eq_ok_iff (schedule : List Move) :
    (∃ rs, engine.analyze artifacts units schedule = .ok rs) ↔
      ∀ u ∈ units, ∀ rule ∈ engine.rules, ∃ ds, rule.dispatch u.tree = .ok ds := by
  constructor
  · rintro ⟨rs, hrs⟩ u hu
    rw [analyze_eq_ok_iff] at hrs
    obtain ⟨rss, hrss, -⟩ := hrs
    rw [← engine.exists_unitResults_eq_ok_iff artifacts]
    exact exists_mapM_eq_ok_iff.mp ⟨rss, hrss⟩ u hu
  · intro h
    exact ⟨_, engine.analyze_of_dispatch artifacts units schedule h⟩

/-- **The results of an analysis do not depend on the schedule.** The analysis of any trees in any
files succeeds, whoever works on what and when, if and only if each rule succeeds on each tree. The
results then are the same under all schedules: one after the other they tell of what is reported, in
the order of the trees, then of the rules, then of the nodes. If a rule fails on a tree, the
analysis fails, and its error is that of a tree on which a rule fails. The rules of an engine that
is configured are those it is made of, in the order of their identifiers.

**Proof sketch.** The invariant of the pool keeps each outcome under the number of its tree, and in
the end no tree waits unless one has failed. So the analysis succeeds with the results about the
trees in their order, and an error is that of a tree that was finished. -/
theorem analyze_independent :
    (∀ schedule, (∃ rs, engine.analyze artifacts units schedule = .ok rs) ↔
      ∀ u ∈ units, ∀ rule ∈ engine.rules, ∃ ds, rule.dispatch u.tree = .ok ds) ∧
    (∀ schedule rs, engine.analyze artifacts units schedule = .ok rs →
      (∀ schedule', engine.analyze artifacts units schedule' = .ok rs) ∧
      List.Forall₂ (fun x r =>
          Sarif.Result.Tells artifacts x.1.artifact x.2.1.info.id x.2.2 r)
        (engine.reported units) rs) ∧
    (∀ schedule, (∃ u ∈ units, ∃ rule ∈ engine.rules, ∃ e, rule.dispatch u.tree = .error e) →
      ∃ e, engine.analyze artifacts units schedule = .error e ∧ ∃ u ∈ units, engine.FailsOn u e) ∧
    ∀ rules ps, configure rules ps = .ok engine →
      (engine.rules.map (·.info)).Perm (rules.map (·.info)) ∧
      engine.rules.Pairwise fun a b => a.info.id ≤ b.info.id := by
  refine ⟨engine.exists_analyze_eq_ok_iff artifacts units, fun schedule rs h => ?_,
    fun schedule hfail => ?_, fun rules ps h => ⟨perm_infos h, pairwise_rules h⟩⟩
  · have hall := (engine.exists_analyze_eq_ok_iff artifacts units schedule).mp ⟨rs, h⟩
    have hrs : (engine.reported units).map (resultOf artifacts) = rs := by
      rw [engine.analyze_of_dispatch artifacts units schedule hall] at h
      cases h
      rfl
    subst hrs
    refine ⟨fun schedule' => engine.analyze_of_dispatch artifacts units schedule' hall, ?_⟩
    rw [List.forall₂_map_right_iff, List.forall₂_same]
    intro x _
    exact Sarif.Result.tells_ofDiagnostic artifacts x.1.artifact x.2.1.info.id x.2.2
  · cases h : engine.analyze artifacts units schedule with
    | error e => exact ⟨e, rfl, engine.failsOn_of_analyze artifacts units h⟩
    | ok rs =>
      obtain ⟨u, hu, rule, hrule, e, he⟩ := hfail
      have hall := (engine.exists_analyze_eq_ok_iff artifacts units schedule).mp ⟨rs, h⟩
      obtain ⟨ds, hds⟩ := hall u hu rule hrule
      rw [he] at hds
      cases hds

end Engine

end NullLint
