import NullLint.Proofs.Engine.Registry
import NullLint.Proofs.Rule.Judged
import NullLint.Proofs.Rule.Judgement
import NullLint.Proofs.Run.Report
import NullLint.Proofs.Sarif.Region

set_option autoImplicit false
set_option relaxedAutoImplicit false

/-!
# Where the regions of a report come from

The region of a result says where the first token of a declaration with a flaw is. Positions are
taken from the dumps as they are, also where a line or a column is zero, which no region may have.
So the regions of a report count from one exactly if the first tokens of all declarations with a
flaw do.

## Main definitions

* `Syntax.Declaration.StartsOneBased` — the first token of a declaration counts from one.
* `NullAnnotations.Classifier.IsFlawed` — something is wrong with a declaration.

## Main results

* `NullAnnotations.Classifier.exists_mem_reports_iff` — at which positions the rule reports
  something about a tree.
* `Program.hasRegion_iff` — the regions of the report of a run that succeeds.
* `Program.regions_oneBased_iff` — **when the regions of a report count from one**.
* `Program.regions_zero` — a zero in a dump gets into the report.
-/

namespace NullLint

open Syntax Tree

/-- The first token of a declaration is on a line and in a column that count from one. -/
def Syntax.Declaration.StartsOneBased (d : Declaration) : Prop :=
  ∀ p, d.StartsAt p → 1 ≤ p.line ∧ 1 ≤ p.column

namespace NullAnnotations.Classifier

variable {c : Classifier} {t : Tree} {s : t.Node} {tokens : KindSet} {p : Position}

/-! ## Declarations with a flaw -/

/-- Something is wrong with a declaration: it is exempt and carries an annotation, or it is not
exempt and carries none. -/
def IsFlawed (c : Classifier) (s : t.Node) : Prop :=
  c.Exempts s ↔ c.Accepts s

/-- A finding about a declaration is at the position where the declaration starts. -/
theorem IsAbout.position_eq_iff {f : Finding} (h : IsAbout f s) :
    f.position = p ↔ (declaration s).StartsAt p := by
  rw [Declaration.startsAt_iff, ← Declaration.startsAt_iff.mp h.2, eq_comm]

/-- Something is reported about a complete declaration if it has a flaw, and then at the position
where it starts.

**Proof sketch.** By the verdict on the declaration. A missing and a redundant annotation are the
two flaws, and a declaration on which nothing is found has none. -/
theorem exists_report?_iff (h : Complete s) :
    (∃ d, c.report? s = some d ∧ d.position = p) ↔ c.IsFlawed s ∧ (declaration s).StartsAt p := by
  obtain ⟨v, hv, hverdict⟩ := exists_verdict (c := c) h
  have hreport : c.report? s = v.map c.names.diagnostic := by
    rw [report?, hv]
    rfl
  have hfound : ∀ f, v = some f → IsAbout f s → ((∃ d, c.report? s = some d ∧ d.position = p) ↔
      (declaration s).StartsAt p) := by
    rintro f rfl habout
    rw [hreport, ← habout.position_eq_iff]
    simp [Names.diagnostic]
  cases (hverdict v).mpr rfl with
  | missing f hf hs he ha =>
    have hflawed : c.IsFlawed s := iff_of_false he ha
    rw [hfound f rfl hs]
    exact (and_iff_right hflawed).symm
  | redundant f hf hs he ha =>
    have hflawed : c.IsFlawed s := iff_of_true he ha
    rw [hfound f rfl hs]
    exact (and_iff_right hflawed).symm
  | nothing hn =>
    have hflawed : ¬c.IsFlawed s := fun hiff => not_iff_self (hn.symm.trans hiff)
    rw [hreport]
    simp [hflawed]

/-- If the rule succeeds on a tree, it reports something at those positions where declarations with
a flaw start. -/
theorem exists_mem_reports_iff
    (h : (c.shownTo tokens).dispatch t = .ok ((c.shownTo tokens).reports t)) :
    (∃ d ∈ (c.shownTo tokens).reports t, d.position = p) ↔
      ∃ s ∈ candidates tokens t, c.IsFlawed s ∧ (declaration s).StartsAt p := by
  obtain ⟨hjudged, hreports⟩ := c.judged_of_ok h
  have hcomplete : ∀ s ∈ candidates tokens t, Complete s := by
    intro s hs
    rw [dispatch_eq_mapM_judge, mapError_eq_ok_iff, map_eq_ok_iff] at h
    obtain ⟨found, hfound, -⟩ := h
    obtain ⟨v, hv⟩ := exists_mapM_eq_ok_iff.mp ⟨found, hfound⟩ s hs
    exact (judge_eq_ok_iff.mp hv).1
  rw [hreports]
  constructor
  · rintro ⟨d, hd, hp⟩
    obtain ⟨s, hs, hsd⟩ := List.mem_filterMap.mp hd
    exact ⟨s, hs, (exists_report?_iff (hcomplete s hs)).mp ⟨d, hsd, hp⟩⟩
  · rintro ⟨s, hs, hflawed⟩
    obtain ⟨d, hsd, hp⟩ := (exists_report?_iff (hcomplete s hs)).mpr hflawed
    exact ⟨d, List.mem_filterMap.mpr ⟨s, hs, hsd⟩, hp⟩

end NullAnnotations.Classifier

open NullAnnotations

/-! ## The regions of a run -/

/-- The results of an analysis tell of what the rules report about the dumps that were loaded. -/
theorem Call.IsAnalysed.results_eq {rules : List Rule} {call : Call} {a : Analysed}
    (h : call.IsAnalysed rules a) :
    ∃ ls, Scan.loadAll call.files call.input = .ok ls ∧
      (∀ l ∈ ls, ∀ rule ∈ a.engine.rules, rule.dispatch l.tree = .ok (rule.reports l.tree)) ∧
      a.results = (a.engine.reportedOf ls).map fun x =>
        Sarif.Result.ofDiagnostic x.2.1.info.id (some (x.1.uri call.files)) x.2.2 := by
  obtain ⟨ls, hls, hfound⟩ := map_eq_ok_iff.mp h.scanned.found
  have hall := (a.engine.exists_analyze_eq_ok_iff a.found.artifacts a.found.units
    call.schedule).mp ⟨a.results, h.results⟩
  refine ⟨ls, hls, fun l hl rule hrule => ?_, ?_⟩
  · obtain ⟨i, hi, hget⟩ := List.getElem_of_mem hl
    have hunit : (⟨l.tree, i⟩ : SourceUnit) ∈ a.found.units := by
      rw [← hfound]
      exact List.mem_mapIdx.mpr ⟨i, hi, by rw [hget]⟩
    exact ConfiguredRule.dispatch_eq_reports (hall _ hunit rule hrule)
  · have hanalyze := h.results
    rw [a.engine.analyze_of_dispatch a.found.artifacts a.found.units call.schedule hall] at hanalyze
    rw [← Except.ok.inj hanalyze, ← hfound, Engine.results_ofLoaded]

/-- The only rule, with one classifier, reports about the dumps that were loaded what it reports
about each of them. -/
theorem NullAnnotations.Classifier.mem_reportedOf_iff {c : Classifier} {tokens : KindSet}
    {ls : List Scan.Loaded} {x : Scan.Loaded × ConfiguredRule × Diagnostic} :
    x ∈ Engine.reportedOf ⟨[c.shownTo tokens]⟩ ls ↔
      x.1 ∈ ls ∧ x.2.1 = c.shownTo tokens ∧ x.2.2 ∈ (c.shownTo tokens).reports x.1.tree := by
  obtain ⟨l, rule, d⟩ := x
  simp only [Engine.reportedOf, List.mem_flatMap, List.mem_map, List.mem_singleton]
  constructor
  · rintro ⟨l, hl, rule, rfl, d, hd, ⟨⟩⟩
    exact ⟨hl, rfl, hd⟩
  · rintro ⟨hl, rfl, hd⟩
    exact ⟨l, hl, _, rfl, d, hd, rfl⟩

namespace Program

/-- The regions of the report of a run that succeeds are those where declarations with a flaw start
that the rule is shown in one of the dumps. -/
theorem hasRegion_iff {call : Call} {report : Sarif.Report}
    (h : (run registry call).result = .ok report) :
    ∃ (c : Classifier) (tokens : KindSet) (ls : List Scan.Loaded),
      call.IsConfigured registry ⟨[c.shownTo tokens]⟩ ∧
      Scan.loadAll call.files call.input = .ok ls ∧
      ∀ region, report.value.HasMember "region" region ↔
        ∃ l ∈ ls, ∃ s ∈ candidates tokens l.tree, ∃ p, (c.IsFlawed s ∧ (declaration s).StartsAt p) ∧
          region = Sarif.regionAt p := by
  obtain ⟨o, ho, -, rfl⟩ := Call.completed_eq_ok_iff.mp h
  obtain ⟨a, ha, hreport⟩ := ho.report
  have hconfigured := ha.scanned.ready.configured
  obtain ⟨ps, -, hconfigure⟩ := hconfigured.engine
  obtain ⟨-, tokens, names, -, -, hengine⟩ := Engine.configure_registry_eq_ok_iff.mp hconfigure
  obtain ⟨ls, hls, hdispatch, hresults⟩ := ha.results_eq
  let c : Classifier := { names := names }
  rw [hengine] at hconfigured hdispatch hresults
  refine ⟨c, tokens, ls, hconfigured, hls, fun region => ?_⟩
  have hpositions : ∀ l ∈ ls, ∀ p, (∃ d ∈ (c.shownTo tokens).reports l.tree, d.position = p) ↔
      ∃ s ∈ candidates tokens l.tree, c.IsFlawed s ∧ (declaration s).StartsAt p := fun l hl p =>
    Classifier.exists_mem_reports_iff (hdispatch l hl _ (List.mem_singleton.mpr rfl))
  have hfound : o.report.results = a.results := by
    rw [hreport]
    rfl
  rw [Sarif.Report.hasRegion_iff, hfound, hresults]
  constructor
  · rintro ⟨x, hx, place, hplace, rfl⟩
    obtain ⟨y, hy, rfl⟩ := List.mem_map.mp hx
    obtain ⟨hl, -, hd⟩ := Classifier.mem_reportedOf_iff.mp hy
    obtain rfl := Option.some.inj hplace
    obtain ⟨s, hs, hflawed⟩ := (hpositions y.1 hl _).mp ⟨y.2.2, hd, rfl⟩
    exact ⟨y.1, hl, s, hs, _, hflawed, rfl⟩
  · rintro ⟨l, hl, s, hs, p, hflawed, rfl⟩
    obtain ⟨d, hd, rfl⟩ := (hpositions l hl p).mpr ⟨s, hs, hflawed⟩
    have hmem := Classifier.mem_reportedOf_iff (x := (l, c.shownTo tokens, d)).mpr ⟨hl, rfl, hd⟩
    exact ⟨_, List.mem_map_of_mem hmem, ⟨_, d.position⟩, rfl, rfl⟩

/-- **When the regions of a report count from one.** All regions of the report of a run that
succeeds do if and only if each declaration with a flaw that the rule is shown in one of the dumps
starts at a position that does. Nothing else keeps a zero in a dump out of the report. -/
theorem regions_oneBased_iff (call : Call) (report : Sarif.Report)
    (h : (run registry call).result = .ok report) :
    ∃ (c : Classifier) (tokens : KindSet) (ls : List Scan.Loaded),
      call.IsConfigured registry ⟨[c.shownTo tokens]⟩ ∧
      Scan.loadAll call.files call.input = .ok ls ∧
      ((∀ region, report.value.HasMember "region" region → Sarif.IsOneBased region) ↔
        ∀ l ∈ ls, ∀ s ∈ candidates tokens l.tree, c.IsFlawed s →
          (declaration s).StartsOneBased) := by
  obtain ⟨c, tokens, ls, hconfigured, hls, hregion⟩ := hasRegion_iff h
  refine ⟨c, tokens, ls, hconfigured, hls, fun hall l hl s hs hflawed p hp => ?_, ?_⟩
  · rw [← Sarif.isOneBased_regionAt_iff]
    exact hall _ ((hregion _).mpr ⟨l, hl, s, hs, p, ⟨hflawed, hp⟩, rfl⟩)
  · intro hall region hmem
    obtain ⟨l, hl, s, hs, p, ⟨hflawed, hp⟩, rfl⟩ := (hregion _).mp hmem
    exact Sarif.isOneBased_regionAt_iff.mpr (hall l hl s hs hflawed p hp)

/-! ## Two dumps -/

/-- The positions at which the only rule reports something about the dump of a text. -/
def reportedAt? (text : String) : Option (List Position) :=
  (Dump.parse text).toOption.bind fun dump =>
    (plainRule.dispatch (Tree.layOut dump)).toOption.map fun ds => ds.map Diagnostic.position

/-- The run on such a text succeeds, and its report has regions at these positions. -/
theorem exists_report_of_reportedAt? {text : String} {ps : List Position}
    (h : reportedAt? text = some ps) :
    ∃ report, (run registry (callFor text)).result = .ok report ∧
      ∀ region, report.value.HasMember "region" region ↔ ∃ p ∈ ps, region = Sarif.regionAt p := by
  obtain ⟨dump, hdump, hmap⟩ := Option.bind_eq_some_iff.mp h
  obtain ⟨ds, hds, rfl⟩ := Option.map_eq_some_iff.mp hmap
  rw [toOption_eq_some_iff] at hdump hds
  rw [← Tree.ofDump_eq_layOut] at hds
  obtain ⟨report, uri, hreport, hresults⟩ := exists_report_callFor hdump hds
  refine ⟨report, hreport, fun region => ?_⟩
  rw [Sarif.Report.hasRegion_iff, hresults]
  simp [Sarif.Result.ofDiagnostic, Sarif.Location.of]

/-- The report on the house has regions, and they count from one. So do the positions where its
declarations with a flaw start. -/
theorem regions_oneBased_house : ∃ (report : Sarif.Report) (c : Classifier) (tokens : KindSet)
    (ls : List Scan.Loaded), (run registry houseCall).result = .ok report ∧
      report.value.HasMember "region" (Sarif.regionAt ⟨2, 5⟩) ∧
      houseCall.IsConfigured registry ⟨[c.shownTo tokens]⟩ ∧
      Scan.loadAll houseCall.files houseCall.input = .ok ls ∧
      (∀ region, report.value.HasMember "region" region → Sarif.IsOneBased region) ∧
      ∀ l ∈ ls, ∀ s ∈ candidates tokens l.tree, c.IsFlawed s → (declaration s).StartsOneBased := by
  have hpositions : reportedAt? houseText = some [⟨2, 5⟩] := by decide +kernel
  obtain ⟨report, hreport, hregion⟩ := exists_report_of_reportedAt? hpositions
  obtain ⟨c, tokens, ls, hconfigured, hls, hiff⟩ := regions_oneBased_iff houseCall report hreport
  have hall : ∀ region, report.value.HasMember "region" region → Sarif.IsOneBased region := by
    intro region hmem
    obtain ⟨p, hp, rfl⟩ := (hregion region).mp hmem
    obtain rfl := List.mem_singleton.mp hp
    rw [Sarif.isOneBased_regionAt_iff]
    decide
  exact ⟨report, c, tokens, ls, hreport, (hregion _).mpr ⟨_, List.mem_singleton.mpr rfl, rfl⟩,
    hconfigured, hls, hall, hiff.mp hall⟩

/-- The text of a dump in which a field lacks an annotation and its type is at line and column
zero. -/
def zeroText : String :=
  "[\"\",\x7b\"kind\":\"OBJ_BLOCK\",\"line\":1,\"column\":13,\"children\":[" ++
    "\x7b\"kind\":\"VARIABLE_DEF\",\"line\":2,\"column\":5," ++
    "\"ident\":\x7b\"text\":\"owner\",\"line\":2,\"column\":12\x7d," ++
    "\"type\":\x7b\"tag\":\"reference\",\"line\":0,\"column\":0\x7d\x7d]\x7d]"

/-- **A zero in a dump gets into the report.** The run on that dump succeeds, and its report has a
region at line and column zero, although the field and its name are elsewhere. -/
theorem regions_zero : ∃ report, (run registry (callFor zeroText)).result = .ok report ∧
    ∃ region, report.value.HasMember "region" region ∧
      region.at? ["startLine"] = some (.nat 0) ∧ region.at? ["startColumn"] = some (.nat 0) ∧
      ¬Sarif.IsOneBased region := by
  have hpositions : reportedAt? zeroText = some [⟨0, 0⟩] := by decide +kernel
  obtain ⟨report, hreport, hregion⟩ := exists_report_of_reportedAt? hpositions
  refine ⟨report, hreport, Sarif.regionAt ⟨0, 0⟩, ?_, rfl, rfl, ?_⟩
  · exact (hregion _).mpr ⟨_, List.mem_singleton.mpr rfl, rfl⟩
  · rw [Sarif.isOneBased_regionAt_iff]
    decide

end Program

end NullLint
