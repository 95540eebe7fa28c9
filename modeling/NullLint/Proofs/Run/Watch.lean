import NullLint.Proofs.Run.Report
import NullLint.Proofs.Scan.Tried
import NullLint.Proofs.Telemetry.Recording
import NullLint.Run.Program

set_option autoImplicit false
set_option relaxedAutoImplicit false

/-!
# The spans of a run

A run that is watched records spans on the main thread, and on the threads of the workers while it
analyses trees. The span of a tree names its parent, since it is opened on another thread; the spans
of the rules belong to the innermost span of the worker. So the recorded spans are the same trees
whichever worker takes which tree, and however many a worker takes.

## Main definitions

* `Call.scanSpans`, `Call.artifactSpans`, `Call.analysisSpans` — the spans of the three parts of a
  run.
* `Call.Watches` — how far the recording of an analysis has got.

## Main results

* `Call.Watches.makes` — a move of a worker is recorded as it should be.
* `Call.awaits_watchAnalysis` — the spans of an analysis under any schedule.
* `Program.spans_of_run` — **the spans of a run** that gets through the analysis, or fails at the
  scan.
-/

namespace NullLint

open Telemetry

namespace Call

variable (s : Scanned)

/-! ## The trees of spans -/

/-- The spans of a scan: one for each tree dump that it comes to. -/
def scanSpans (paths : List String) : SpanTree :=
  .node "scan" [("annolint.phase", "scan")]
    (paths.map fun path => .node "tree.scan" [("annolint.tree_path", path)] [])

/-- The span of the look at the list of files. -/
def artifactSpans : SpanTree :=
  .node "artifact_analysis" [("annolint.phase", "artifact_analysis")] []

/-- The span of a rule at work. -/
def ruleSpans (rule : ConfiguredRule) : SpanTree :=
  .node ("rule:" ++ rule.info.id) [("annolint.rule_id", rule.info.id)] []

/-- The spans of the work on a tree with a source path in a file with a location: one for each
rule. -/
def treeSpans (engine : Engine) (path uri : String) : SpanTree :=
  .node "tree" [("annolint.tree", path), ("annolint.artifact_uri", uri)]
    (engine.rules.map ruleSpans)

/-- The spans of the analysis of some dumps: those of the work on each tree. -/
def analysisSpans (engine : Engine) (fs : FileSystem) (ls : List Scan.Loaded) : SpanTree :=
  .node "analysis" [("annolint.phase", "analysis")]
    (ls.map fun l => treeSpans engine l.tree.path (l.uri fs))

/-- The spans of the work on a unit. -/
def unitSpans (u : SourceUnit) : SpanTree :=
  .node "tree" (unitAttributes s.found.artifacts u) (s.engine.rules.map ruleSpans)

/-- The spans of the units are those of the dumps that were loaded. -/
theorem map_unitSpans {fs : FileSystem} {ls : List Scan.Loaded}
    (h : Scan.Output.ofLoaded fs ls = s.found) :
    s.found.units.map (unitSpans s) =
      ls.map fun l => treeSpans s.engine l.tree.path (l.uri fs) := by
  apply List.ext_getElem?
  intro i
  have hunit : (Scan.Output.ofLoaded fs ls).units[i]? = ls[i]?.map fun l => ⟨l.tree, i⟩ :=
    List.getElem?_mapIdx
  rw [List.getElem?_map, List.getElem?_map, ← h, hunit]
  cases hl : ls[i]? with
  | none => rfl
  | some l =>
    rw [Option.map_some, Option.map_some, Option.map_some, unitSpans, unitAttributes, ← h,
      Scan.artifactUri_ofLoaded fs ls hl]
    rfl

/-! ## The main thread -/

variable {s} {session : Session} {trees : List SpanTree} {todos : List (Option Nat × SpanTree)}

/-- The scan records its spans. -/
theorem awaits_scan {paths : List String}
    (h : session.Awaits trees [] ((none, scanSpans paths) :: todos)) :
    ((scanRequest paths).perform 0 session).Awaits trees [] todos := by
  have hcurrent : session.count.current 0 = none := h.current_eq 0
  rw [scanRequest, Request.perform, Session.enter, hcurrent]
  obtain ⟨span, hentered⟩ := h.count.enterBelow 0 "scan" [("annolint.phase", "scan")]
  rw [List.map_map] at hentered
  exact (Session.Awaits.leaves paths (fun _ => "tree.scan") _ rfl hentered).leave_innermost

/-- The look at the list of files records its span. -/
theorem awaits_artifact (h : session.Awaits trees [] ((none, artifactSpans) :: todos)) :
    (artifactRequest.perform 0 session).Awaits trees [] todos := by
  refine Session.Awaits.leaf ?_
  rw [h.current_eq]
  exact h

/-! ## The workers -/

/-- All rules are applied to a tree on which they all succeed. -/
theorem triedRules_eq_rules {engine : Engine} {t : Syntax.Tree}
    (h : ∀ rule ∈ engine.rules, ∃ ds, rule.dispatch t = .ok ds) :
    engine.triedRules t = engine.rules := by
  refine through_eq_self fun rule hrule => ?_
  obtain ⟨ds, hds⟩ := h rule hrule
  rw [hds]
  rfl

theorem take_unitAttributes (artifacts : List Sarif.Artifact) (u : SourceUnit) :
    (unitAttributes artifacts u).take Recorder.maxAttributes = unitAttributes artifacts u := by
  rw [unitAttributes]
  cases Sarif.artifactUri artifacts u.artifact <;> rfl

/-- The open spans while workers are busy with jobs: those of their trees, and that of the analysis
on the main thread. -/
def openSpans (span : Span) (working : List ((Nat × Nat) × Span)) : List (Nat × Span) :=
  working.map (fun w => (w.1.1 + 1, w.2)) ++ [(0, span)]

/-- What is still to be opened while workers are busy and jobs wait: the spans of the rules on the
trees that are worked on, and those of the trees that wait. -/
def remaining (s : Scanned) (span : Span) (working : List ((Nat × Nat) × Span))
    (waiting : List Nat) : List (Option Nat × SpanTree) :=
  working.flatMap (fun w => s.engine.rules.map fun rule => (some w.2.id, ruleSpans rule)) ++
    (waiting.filterMap fun job => s.found.units[job]?).map fun u => (some span.id, unitSpans s u)

variable {span treeSpan : Span} {worker job : Nat} {u : SourceUnit}

theorem remaining_of_waiting {working : List ((Nat × Nat) × Span)} {before after : List Nat}
    (hu : s.found.units[job]? = some u) :
    (remaining s span working (before ++ job :: after)).Perm
      ((some span.id, unitSpans s u) :: remaining s span working (before ++ after)) := by
  rw [remaining, remaining, List.filterMap_append, List.filterMap_cons_some hu, List.map_append,
    List.map_cons, List.filterMap_append, List.map_append]
  exact (List.perm_middle.append_left _).trans List.perm_middle

theorem remaining_of_working (before after : List ((Nat × Nat) × Span)) (waiting : List Nat) :
    (remaining s span (before ++ ((worker, job), treeSpan) :: after) waiting).Perm
      (s.engine.rules.map (fun rule => (some treeSpan.id, ruleSpans rule)) ++
        remaining s span (before ++ after) waiting) := by
  rw [remaining, remaining, List.flatMap_append, List.flatMap_cons, List.flatMap_append,
    ← List.append_assoc, ← List.append_assoc, ← List.append_assoc]
  exact (List.perm_append_comm.append_right _).append_right _

/-- A worker that takes a tree opens its span below that of the analysis. -/
theorem awaits_took {working : List ((Nat × Nat) × Span)} {before after : List Nat}
    (hu : s.found.units[job]? = some u)
    (h : session.Awaits trees (openSpans span working)
      (remaining s span working (before ++ job :: after))) :
    ∃ treeSpan, (watchDeed s (some span.id) session (.took worker job)).Awaits trees
      (openSpans span (((worker, job), treeSpan) :: working))
      (remaining s span (((worker, job), treeSpan) :: working) (before ++ after)) := by
  have htodo := h.perm (remaining_of_waiting hu)
  rw [unitSpans, ← take_unitAttributes] at htodo
  obtain ⟨treeSpan, hentered⟩ := htodo.enterBelow (worker + 1)
  refine ⟨treeSpan, ?_⟩
  rw [List.map_map] at hentered
  rw [watchDeed, hu]
  exact hentered.perm (remaining_of_working [] working (before ++ after)).symm

/-- A worker that finishes has recorded the rules below the span of its tree, and closes this span;
the spans of the other workers stay open.

**Proof sketch.** The main thread has no worker's number, and no other entry before that of the
worker has its number. So the innermost span of the worker is that of its tree. -/
theorem awaits_finished {before after : List ((Nat × Nat) × Span)} {waiting : List Nat}
    (hu : s.found.units[job]? = some u)
    (hrules : ∀ rule ∈ s.engine.rules, ∃ ds, rule.dispatch u.tree = .ok ds)
    (hbefore : ∀ w ∈ before, w.1.1 ≠ worker)
    (h : session.Awaits trees (openSpans span (before ++ ((worker, job), treeSpan) :: after))
      (remaining s span (before ++ ((worker, job), treeSpan) :: after) waiting)) :
    (watchDeed s (some span.id) session (.finished worker job)).Awaits trees
      (openSpans span (before ++ after)) (remaining s span (before ++ after) waiting) := by
  have hothers : ∀ a ∈ before.map (fun w => (w.1.1 + 1, w.2)), a.1 ≠ worker + 1 := by
    intro a ha heq
    obtain ⟨w, hw, rfl⟩ := List.mem_map.mp ha
    exact hbefore w hw (Nat.succ_inj.mp heq)
  have hopen : openSpans span (before ++ ((worker, job), treeSpan) :: after) =
      before.map (fun w => (w.1.1 + 1, w.2)) ++
        (worker + 1, treeSpan) :: openSpans span after := by
    rw [openSpans, openSpans, List.map_append, List.map_cons, List.append_assoc, List.cons_append]
  have hcurrent : ((openSpans span (before ++ ((worker, job), treeSpan) :: after)).find?
      fun a => a.1 == worker + 1).map (·.2.id) = some treeSpan.id := by
    rw [hopen, List.find?_append,
      List.find?_eq_none.mpr fun a ha heq => hothers a ha (eq_of_beq heq)]
    simp
  have hleaves := Session.Awaits.leaves s.engine.rules (fun rule => "rule:" ++ rule.info.id)
    (fun rule => [("annolint.rule_id", rule.info.id)]) hcurrent
    (h.perm (remaining_of_working before after waiting))
  rw [hopen] at hleaves
  rw [watchDeed, hu]
  dsimp only
  rw [triedRules_eq_rules hrules]
  have hleft := hleaves.leave hothers
  rwa [openSpans, ← List.append_assoc, ← List.map_append] at hleft

/-- How far the recording of an analysis has got. The span of the analysis is open on the main
thread, and each busy worker has a span open for its tree. What is still to be opened are the spans
of the rules on these trees, and those of the trees that wait. -/
def Watches (s : Scanned) (trees : List SpanTree) (span : Span)
    (p : Pool DispatchError (List Sarif.Result)) (session : Session) : Prop :=
  ∃ working : List ((Nat × Nat) × Span), (working.map (·.1)).Perm p.busy ∧
    session.Awaits trees (openSpans span working) (remaining s span working p.waiting)

/-- A move of a worker is recorded as it should be. -/
theorem Watches.makes {n : Nat} {work : Nat → Except DispatchError (List Sarif.Result)}
    {p q : Pool DispatchError (List Sarif.Result)} {deed : Deed}
    (hall : ∀ u ∈ s.found.units, ∀ rule ∈ s.engine.rules, ∃ ds, rule.dispatch u.tree = .ok ds)
    (hn : n = s.found.units.length) (hp : Pool.Sound work n p) (hm : Pool.Makes work p deed q)
    (h : Watches s trees span p session) :
    Watches s trees span q (watchDeed s (some span.id) session deed) := by
  obtain ⟨working, hbusy, hawaits⟩ := h
  have hunit : ∀ job ∈ p.jobs, ∃ u ∈ s.found.units, s.found.units[job]? = some u := by
    intro job hjob
    have hlt := List.mem_range.mp (hp.jobs.mem_iff.mp hjob)
    rw [hn] at hlt
    exact ⟨_, List.getElem_mem hlt, List.getElem?_eq_getElem hlt⟩
  cases hm with
  | take worker job before after hfail hwait hfree =>
    obtain ⟨u, -, hu⟩ := hunit job (by simp [Pool.jobs, hwait])
    rw [hwait] at hawaits
    obtain ⟨treeSpan, htook⟩ := awaits_took hu hawaits
    exact ⟨((worker, job), treeSpan) :: working,
      (hbusy.cons _).trans (List.perm_append_singleton _ _).symm, htook⟩
  | finish worker job before after hdone =>
    obtain ⟨u, humem, hu⟩ := hunit job (by simp [Pool.jobs, hdone])
    rw [hdone] at hbusy
    have hmem : (worker, job) ∈ working.map (·.1) := hbusy.mem_iff.mpr (by simp)
    obtain ⟨⟨_, treeSpan⟩, hw, rfl⟩ := List.mem_map.mp hmem
    obtain ⟨first, rest, rfl⟩ := List.append_of_mem hw
    rw [List.map_append, List.map_cons] at hbusy
    have hfirst : ∀ w ∈ first, w.1.1 ≠ worker := by
      intro w hw heq
      have hworkers := hp.workers
      rw [Pool.workers, hdone, ← (hbusy.map Prod.fst).nodup_iff, List.map_append,
        List.nodup_append] at hworkers
      exact hworkers.2.2 _ (List.mem_map_of_mem (List.mem_map_of_mem hw)) _ List.mem_cons_self heq
    refine ⟨first ++ rest, ?_, awaits_finished hu (hall u humem) hfirst hawaits⟩
    rw [List.map_append]
    exact ((List.perm_middle.symm.trans hbusy).trans List.perm_middle).cons_inv

/-! ## The parts of a run -/

/-- The jobs in their order are the units in their order. -/
theorem filterMap_getElem? {α : Type} (as : List α) :
    (List.range as.length).filterMap (fun i => as[i]?) = as := by
  induction as using List.reverseRecOn with
  | nil => rfl
  | append_singleton as a ih =>
    have hfirst : (List.range as.length).filterMap (fun i => (as ++ [a])[i]?) = as := by
      refine Eq.trans (List.filterMap_congr fun i hi => ?_) ih
      exact List.getElem?_append_left (List.mem_range.mp hi)
    rw [List.length_append, List.length_singleton, List.range_succ, List.filterMap_append, hfirst]
    simp

/-- If all rules succeed, in the end no worker is busy and no tree waits. -/
theorem pool_of_dispatch (schedule : List Move)
    (hall : ∀ u ∈ s.found.units, ∀ rule ∈ s.engine.rules, ∃ ds, rule.dispatch u.tree = .ok ds) :
    (s.engine.pool s.found.artifacts s.found.units schedule).busy = [] ∧
      (s.engine.pool s.found.artifacts s.found.units schedule).waiting = [] := by
  let work := s.engine.jobResults s.found.artifacts s.found.units
  have hsettled := Pool.settled_run work s.found.units.length schedule
  refine ⟨hsettled.busy, hsettled.waiting ?_⟩
  cases hfail : (Pool.run work s.found.units.length schedule).firstError? with
  | none => rfl
  | some e =>
    obtain ⟨job, hjob, hwork⟩ := (Pool.sound_run work _ schedule).work_eq_error hfail
    have hunit : s.engine.unitResults s.found.artifacts s.found.units[job] = .error e := by
      rw [← hwork]
      simp only [work, Engine.jobResults, List.getElem?_eq_getElem hjob]
    obtain ⟨rs, hrs⟩ := (s.engine.exists_unitResults_eq_ok_iff s.found.artifacts).mpr
      (hall _ (List.getElem_mem hjob))
    rw [hunit] at hrs
    cases hrs

/-- **The spans of an analysis** in which all rules succeed, under any schedule.

**Proof sketch.** Each move of a worker is recorded as it should be, and in the end no worker is
busy and no tree waits. -/
theorem awaits_watchAnalysis (call : Call) (s : Scanned)
    (hall : ∀ u ∈ s.found.units, ∀ rule ∈ s.engine.rules, ∃ ds, rule.dispatch u.tree = .ok ds)
    (h : session.Awaits trees []
      [(none, .node "analysis" [("annolint.phase", "analysis")]
        (s.found.units.map (unitSpans s)))]) :
    (call.watchAnalysis s session).Awaits trees [] [] := by
  have hcurrent : session.current 0 = none := h.current_eq 0
  obtain ⟨span, hentered⟩ := h.enterBelow 0 "analysis" [("annolint.phase", "analysis")]
  have hparent := hentered.current_eq 0
  rw [watchAnalysis, Session.enter, hcurrent]
  revert hentered hparent
  generalize session.enterBelow 0 none "analysis" [("annolint.phase", "analysis")] = started
  intro hentered hparent
  have hwatches : Watches s trees span
      (s.engine.pool s.found.artifacts s.found.units call.schedule)
      ((s.engine.pool s.found.artifacts s.found.units call.schedule).deeds.foldl
        (watchDeed s (some span.id)) started) := by
    refine Pool.run_induction (motive := fun p =>
      Watches s trees span p (p.deeds.foldl (watchDeed s (some span.id)) started)) call.schedule
      ?_ fun p deed q hp hm hwatches => ?_
    · refine ⟨[], List.Perm.refl _, ?_⟩
      rw [remaining, Pool.start, filterMap_getElem?]
      rw [List.map_map, List.append_nil] at hentered
      exact hentered
    · have hdeeds : q.deeds = p.deeds ++ [deed] := by cases hm <;> rfl
      rw [hdeeds, List.foldl_append]
      exact hwatches.makes hall rfl hp hm
  -- In the end no worker is busy, and no tree waits, since none has failed.
  obtain ⟨working, hbusy, hawaits⟩ := hwatches
  obtain ⟨hidle, hwaiting⟩ := pool_of_dispatch call.schedule hall
  rw [hidle] at hbusy
  rw [hwaiting, List.map_eq_nil_iff.mp hbusy.eq_nil] at hawaits
  rw [hparent]
  exact hawaits.leave_innermost

variable {rules : List Rule} {call : Call}

/-- A call that is ready and names an endpoint records its spans from the scan on. -/
theorem recorder?_of_isReady {ready : Ready} (h : call.IsReady rules ready)
    (hotel : call.options.otel.isSome = true) :
    call.recorder? rules = (call.watchAfterScan rules ((scanRequest
      (Scan.triedPaths call.files call.input)).perform 0
        { recorder := some {} })).recorder := by
  have hready := ready_eq_ok_iff.mpr h
  have htarget : ∃ url, ready.endpoint = some url := by
    rcases h.endpoint with ⟨hnone, -⟩ | ⟨text, url, -, -, hurl⟩
    · rw [hnone] at hotel
      cases hotel
    · exact ⟨url, hurl⟩
  obtain ⟨url, hurl⟩ := htarget
  have htarget : call.target? rules = some url := by
    rw [target?, hready]
    exact hurl
  have hwatched : call.watched rules { recorder := some {} } =
      call.watchAfterScan rules ((scanRequest
        (Scan.triedPaths call.files call.input)).perform 0 { recorder := some {} }) := by
    rw [watched, hready]
  rw [recorder?, htarget, Option.map_some, Option.bind_some, hwatched]

/-- A call that stops at the scan gets past the stages before it. -/
theorem exists_of_stops_scan {cause : Scan.Error} (h : call.Stops rules (.scan cause)) :
    ∃ ready, call.IsReady rules ready ∧
      Scan.scan call.files call.input = .error cause := by
  generalize he : RunError.scan cause = e at h
  cases h with
  | scan hready hscan =>
    cases he
    exact ⟨_, hready, hscan⟩
  | writing ho hb =>
    rw [Opened.breakError] at he
    split_ifs at he
  | _ => cases he

end Call

namespace Program

open Call

variable (rules : List Rule) (call : Call)

/-- **The spans of a run.** Consider a run that is watched. If it gets through the analysis, its
spans make up three trees: that of the scan with a span for each dump that was loaded, in any order,
that of the look at the list of files, and that of the analysis with a span for each loaded tree and
below it one for each rule that is configured. If the scan fails, its spans make up one tree: that
of the scan with a span for each dump up to and including the first one that cannot be loaded, or
for each one before the first directory that cannot be listed.

**Proof sketch.** Spans are opened and closed on the main thread and on those of the workers. At any
time it is known which are open and which are still to be opened, and each part of the run opens and
closes its own. -/
theorem spans_of_run (hotel : call.options.otel.isSome = true) :
    (∀ a, call.IsAnalysed rules a → ∃ r ls, (run rules call).recorder = some r ∧
      Scan.loadAll call.files call.input = .ok ls ∧
      r.Records [scanSpans (ls.map (·.path)), artifactSpans,
        analysisSpans a.engine call.files ls]) ∧
    ∀ cause, (run rules call).result = .error (.scan cause) →
      ∃ r paths, (run rules call).recorder = some r ∧
        Scan.FailsAfter call.files call.input paths cause ∧
        r.Records [scanSpans paths] := by
  constructor
  · intro a ha
    obtain ⟨ls, hls, hfound⟩ := map_eq_ok_iff.mp ha.scanned.found
    have hall := (a.engine.exists_analyze_eq_ok_iff a.found.artifacts a.found.units
      call.schedule).mp ⟨a.results, ha.results⟩
    have hspans : analysisSpans a.engine call.files ls = .node "analysis"
        [("annolint.phase", "analysis")] (a.found.units.map (unitSpans a.toScanned)) := by
      rw [analysisSpans, map_unitSpans a.toScanned hfound]
    have hartifact := awaits_artifact (awaits_scan (Session.Awaits.start
      [scanSpans (ls.map (·.path)), artifactSpans, analysisSpans a.engine call.files ls]))
    rw [hspans] at hartifact
    obtain ⟨r, hr, hrecords⟩ := (awaits_watchAnalysis call a.toScanned hall hartifact).records
    rw [← hspans] at hrecords
    refine ⟨r, ls, ?_, hls, hrecords⟩
    rw [run, recorder?_of_isReady ha.scanned.ready hotel, watchAfterScan,
      scanned_eq_ok_iff.mpr ha.scanned, Scan.triedPaths_of_loadAll hls]
    exact hr
  · intro cause hcause
    obtain ⟨r, hr, hrecords⟩ := (awaits_scan (Session.Awaits.start
      [scanSpans (Scan.triedPaths call.files call.input)])).records
    obtain ⟨ready, hready, hscan⟩ := exists_of_stops_scan (completed_eq_error_iff.mp hcause)
    have hscanned : call.scanned rules = .error (.scan cause) := by
      rw [scanned, ready_eq_ok_iff.mpr hready, hscan]
      rfl
    refine ⟨r, _, ?_, Scan.failsAfter_triedPaths (map_eq_error_iff.mp hscan), hrecords⟩
    rw [run, recorder?_of_isReady hready hotel, watchAfterScan, hscanned]
    exact hr

/-- The call for the file with the dump, with an endpoint for its spans. -/
def watchedHouseCall : Call :=
  { houseCall with
    options := { houseCall.options with otel := some "http://localhost:4318/" } }

theorem exists_target_house : ∃ url,
    Telemetry.target "http://localhost:4318/" = .ok url := by
  obtain ⟨url, hurl⟩ := Option.isSome_iff_exists.mp
    (show (Telemetry.target "http://localhost:4318/").toOption.isSome = true from rfl)
  exact ⟨url, toOption_eq_some_iff.mp hurl⟩

/-- The call gets through the analysis. -/
theorem exists_isAnalysed_house :
    ∃ a, watchedHouseCall.IsAnalysed registry a ∧ a.engine = ⟨[plainRule]⟩ := by
  obtain ⟨found, results, hscan, hresults⟩ := exists_results_house
  obtain ⟨url, hurl⟩ := exists_target_house
  let ready : Ready := ⟨⟨[plainRule]⟩, some url⟩
  have hready : watchedHouseCall.IsReady registry ready :=
    ⟨⟨⟨_, rfl, rfl⟩, {}, rfl, configure_registry_nil⟩, Or.inr ⟨_, url, rfl, hurl, rfl⟩⟩
  exact ⟨⟨⟨ready, found⟩, results⟩, ⟨⟨hready, hscan⟩, hresults⟩, rfl⟩

/-- The spans of the call tell of the dump and of the rule. -/
theorem spans_of_house : watchedHouseCall.options.otel.isSome = true ∧
    ∃ r ls, (run registry watchedHouseCall).recorder = some r ∧
      ls.map Scan.Loaded.path = ["house.json"] ∧
      r.Records [scanSpans ["house.json"], artifactSpans,
        analysisSpans ⟨[plainRule]⟩ watchedHouseCall.files ls] := by
  refine ⟨rfl, ?_⟩
  obtain ⟨a, ha, hengine⟩ := exists_isAnalysed_house
  obtain ⟨r, ls, hr, hls, hrecords⟩ := (spans_of_run registry watchedHouseCall rfl).1 a ha
  have hpaths : ls.map Scan.Loaded.path = ["house.json"] := by
    have hitems : Scan.items watchedHouseCall.files watchedHouseCall.input = _ :=
      items_house
    rw [Scan.paths_of_loadAll hls hitems]
    rfl
  rw [hpaths, hengine] at hrecords
  exact ⟨r, ls, hr, hpaths, hrecords⟩

end Program

end NullLint
