import NullLint.Proofs.Engine.Analyze
import NullLint.Proofs.Run.Stages
import NullLint.Proofs.Scan.Load
import NullLint.Proofs.Scan.Location
import NullLint.Proofs.Syntax.Layout

set_option autoImplicit false
set_option relaxedAutoImplicit false

/-!
# A report is consistent

The parts of the report of a run refer to each other by numbers and by texts: a result names a rule
and the location of a file, and the counts are those of lists. They all go back to the dumps that
were loaded, so that they agree.

## Main definitions

* `Engine.reportedOf` — what the rules report about the dumps that were loaded.
* `Sarif.TellsOf` — a result in a document tells of something that is reported about a dump.
* `Sarif.IsConsistent` — a document agrees with the dumps that were loaded.

## Main results

* `Engine.results_ofLoaded` — the results about the trees of some dumps, each with the location of
  its own dump.
* `Sarif.isConsistent_value` — a report that is made of the parts it should have.
* `Program.report_consistent` — **the report of a run that succeeds is consistent**.
-/

namespace NullLint

open Syntax Json

/-! ## Results about loaded dumps -/

namespace Scan

variable (fs : FileSystem) (ls : List Loaded)

/-- The index of a tree designates the file of its own dump. -/
theorem artifactUri_ofLoaded {i : Nat} {l : Loaded} (h : ls[i]? = some l) :
    Sarif.artifactUri (Output.ofLoaded fs ls).artifacts i = some (l.uri fs) := by
  change (ls.map fun l => Sarif.Artifact.analysed (l.uri fs) l.length)[i]?.bind
    Sarif.Artifact.uri? = _
  rw [List.getElem?_map, h]
  rfl

end Scan

namespace Engine

variable (engine : Engine) (fs : FileSystem) (ls : List Scan.Loaded)

/-- What all rules report about some dumps, in the order of the dumps, the rules and the nodes. -/
def reportedOf : List (Scan.Loaded × ConfiguredRule × Diagnostic) :=
  ls.flatMap fun l => engine.rules.flatMap fun rule =>
    (rule.reports l.tree).map fun d => (l, rule, d)

/-- The results about the trees of some dumps, each with the location of its own dump. -/
theorem results_ofLoaded :
    (engine.reported (Scan.Output.ofLoaded fs ls).units).map
        (resultOf (Scan.Output.ofLoaded fs ls).artifacts) =
      (engine.reportedOf ls).map fun x =>
        Sarif.Result.ofDiagnostic x.2.1.info.id (some (x.1.uri fs)) x.2.2 := by
  have hunits : (Scan.Output.ofLoaded fs ls).units.map (fun u =>
      (engine.reportedOn u).map (resultOf (Scan.Output.ofLoaded fs ls).artifacts)) =
      ls.map fun l => (engine.rules.flatMap fun rule =>
        (rule.reports l.tree).map fun d => (l, rule, d)).map fun x =>
          Sarif.Result.ofDiagnostic x.2.1.info.id (some (x.1.uri fs)) x.2.2 := by
    -- The unit of a dump has its index, and with this index the location of the dump is found.
    apply List.ext_getElem?
    intro i
    have hunit : (Scan.Output.ofLoaded fs ls).units[i]? = ls[i]?.map fun l => ⟨l.tree, i⟩ :=
      List.getElem?_mapIdx
    rw [List.getElem?_map, List.getElem?_map, hunit]
    cases hl : ls[i]? with
    | none => rfl
    | some l =>
      have huri := Scan.artifactUri_ofLoaded fs ls hl
      simp only [Option.map_some, reportedOn, List.map_flatMap, List.map_map, Function.comp_def,
        resultOf, huri]
  rw [reported, reportedOf, List.map_flatMap, List.map_flatMap, List.flatMap, List.flatMap, hunits]

/-- If no two rules have the same identifier, each rule that reports something is the only one of
its identifier. -/
theorem existsUnique_rule {x : Scan.Loaded × ConfiguredRule × Diagnostic}
    (hnodup : (engine.rules.map fun rule => rule.info.id).Nodup) (h : x ∈ engine.reportedOf ls) :
    ∃! j : Nat, engine.rules[j]?.map (fun rule => rule.info.id) = some x.2.1.info.id := by
  obtain ⟨l, -, hl⟩ := List.mem_flatMap.mp h
  obtain ⟨rule, hrule, hd⟩ := List.mem_flatMap.mp hl
  obtain ⟨d, -, rfl⟩ := List.mem_map.mp hd
  obtain ⟨j, hj, hget⟩ := List.getElem_of_mem hrule
  refine ⟨j, by simp [hj, hget], fun k hk => ?_⟩
  simp only [← List.getElem?_map] at hk
  have hlt : k < (engine.rules.map fun rule => rule.info.id).length :=
    (List.getElem?_eq_some_iff.mp hk).1
  apply (List.getElem?_inj hlt hnodup).mp
  rw [hk, List.getElem?_map, List.getElem?_eq_getElem hj, hget]
  rfl

end Engine

namespace Sarif

/-- A result in a document tells of something that a rule reports about a dump. It names the rule,
and it has one location: the declaration, and its place at the location of that dump. -/
structure TellsOf (fs : FileSystem) (x : Scan.Loaded × ConfiguredRule × Diagnostic)
    (result : Value) : Prop where
  rule : result.at? ["ruleId"] = some (.string x.2.1.info.id)
  message : result.at? ["message", "text"] = some (.string x.2.2.message)
  key : result.at? ["properties", "messageKey"] = some (.string x.2.2.key)
  location : ∃ location, result.at? ["locations"] = some (.array [location])
  subject : result.at? ["locations", 0, "logicalLocations", 0, "name"] =
    some (.string x.2.2.subject)
  uri : ∃ uri, Scan.IsLocation fs x.1.path x.1.tree.path uri ∧
    result.at? ["locations", 0, "physicalLocation", "artifactLocation", "uri"] =
      some (.string uri)
  line : result.at? ["locations", 0, "physicalLocation", "region", "startLine"] =
    some (.nat x.2.2.position.line.toNat)
  column : result.at? ["locations", 0, "physicalLocation", "region", "startColumn"] =
    some (.nat x.2.2.position.column.toNat)

/-- The result of a diagnostic with the location of its dump tells of it. -/
theorem tellsOf_ofDiagnostic (fs : FileSystem) (x : Scan.Loaded × ConfiguredRule × Diagnostic) :
    TellsOf fs x (Result.ofDiagnostic x.2.1.info.id (some (x.1.uri fs)) x.2.2).value :=
  ⟨rfl, rfl, rfl, ⟨_, rfl⟩, rfl, ⟨_, Scan.isLocation_uri fs x.1, rfl⟩, rfl, rfl⟩

/-- A document agrees with the dumps that were loaded and with the engine. Both counts are the
number of dumps. There is one file for each dump, with the location and the length of the dump, and
no list of files if there are no dumps. The results tell of what is reported about the dumps. Each
rule that is named by a result is listed once. -/
structure IsConsistent (v : Value) (fs : FileSystem) (engine : Engine) (ls : List Scan.Loaded) :
    Prop where
  treeCount : v.at? ["runs", 0, "invocations", 0, "properties", "annolint.tree_count"] =
    some (.nat ls.length)
  artifactCount : v.at? ["runs", 0, "invocations", 0, "properties", "annolint.artifact_count"] =
    some (.nat ls.length)
  noArtifacts : ls = [] → v.at? ["runs", 0, "artifacts"] = none
  artifacts : ls ≠ [] → ∃ files, v.at? ["runs", 0, "artifacts"] = some (.array files) ∧
    List.Forall₂ (fun l file => (∃ uri, Scan.IsLocation fs l.path l.tree.path uri ∧
        file.at? ["location", "uri"] = some (.string uri)) ∧
      file.at? ["length"] = some (.nat l.length)) ls files
  results : ∃ results, v.at? ["runs", 0, "results"] = some (.array results) ∧
    List.Forall₂ (TellsOf fs) (engine.reportedOf ls) results
  rules : ∀ x ∈ engine.reportedOf ls, ∃! j : Nat,
    v.at? ["runs", 0, "tool", "driver", "rules", j, "id"] = some (.string x.2.1.info.id)

variable {fs : FileSystem} {engine : Engine} {ls : List Scan.Loaded}

/-- A report agrees with the dumps that were loaded if its parts are made of them. -/
theorem isConsistent_value {report : Report}
    (hrules : report.rules = engine.rules.map (·.info))
    (hnodup : (engine.rules.map fun rule => rule.info.id).Nodup)
    (htrees : report.invocation.treeCount = ls.length)
    (hfiles : report.invocation.artifactCount = ls.length)
    (hresults : report.results = (engine.reportedOf ls).map fun x =>
      Result.ofDiagnostic x.2.1.info.id (some (x.1.uri fs)) x.2.2)
    (hartifacts : report.artifacts = ls.map fun l => .analysed (l.uri fs) l.length) :
    IsConsistent report.value fs engine ls where
  treeCount := by
    rw [Report.at?_invocation, ← htrees]
    rfl
  artifactCount := by
    rw [Report.at?_invocation, ← hfiles]
    rfl
  noArtifacts := by
    rintro rfl
    rw [Report.at?_artifacts, hartifacts]
    rfl
  artifacts := by
    intro hne
    refine ⟨report.artifacts.map Artifact.value, ?_, ?_⟩
    · have hsome : report.artifacts.isEmpty = false := by
        rw [hartifacts]
        simpa using hne
      rw [Report.at?_artifacts, hsome]
      rfl
    · rw [hartifacts, List.map_map, List.forall₂_map_right_iff, List.forall₂_same]
      exact fun l _ => ⟨⟨_, Scan.isLocation_uri fs l, Artifact.at?_uri _ _⟩,
        Artifact.at?_length _ _⟩
  results := by
    refine ⟨report.results.map Result.value, Report.at?_results report [], ?_⟩
    rw [hresults, List.map_map, List.forall₂_map_right_iff, List.forall₂_same]
    exact fun x _ => tellsOf_ofDiagnostic fs x
  rules := by
    intro x hx
    have hid : ∀ j : Nat,
        report.value.at? ["runs", 0, "tool", "driver", "rules", j, "id"] =
          some (.string x.2.1.info.id) ↔
        engine.rules[j]?.map (fun rule => rule.info.id) = some x.2.1.info.id := by
      intro j
      rw [Report.at?_rule, hrules, List.getElem?_map]
      cases engine.rules[j]? <;> simp
    simp only [hid]
    exact engine.existsUnique_rule ls hnodup hx

end Sarif

namespace Program

/-- **The report of a run that succeeds is consistent.** The input of the run is there and its
properties configure an engine. All dumps among the files of the input are loaded, in the order in
which the scan comes to them, and each rule succeeds on each of their trees. The report agrees with
these dumps: both counts are their number, the files are theirs, and the results tell of what the
rules report about them, each with the location of its own dump and with the identifier of a rule
that is listed once. The location of a dump is its source path, or its file if there is none. -/
theorem report_consistent (call : Call) (report : Sarif.Report)
    (h : (run registry call).result = .ok report) :
    ∃ engine found ls, call.IsConfigured registry engine ∧
      Scan.items call.files call.input = .ok found ∧
      List.Forall₂ (fun d l => Scan.load d.1 d.2 = .ok l) (Scan.dumpsOf found) ls ∧
      (∀ l ∈ ls, ∀ rule ∈ engine.rules, rule.dispatch l.tree = .ok (rule.reports l.tree)) ∧
      Sarif.IsConsistent report.value call.files engine ls := by
  obtain ⟨o, ho, -, rfl⟩ := Call.completed_eq_ok_iff.mp h
  obtain ⟨a, ha, hreport⟩ := ho.report
  have hconfigured := ha.scanned.ready.configured
  obtain ⟨ps, -, hconfigure⟩ := hconfigured.engine
  obtain ⟨ls, hls, hfound⟩ := map_eq_ok_iff.mp ha.scanned.found
  obtain ⟨found, hitems, hloads⟩ := Scan.loads_of_loadAll hls
  have hall := (a.engine.exists_analyze_eq_ok_iff a.found.artifacts a.found.units
    call.schedule).mp ⟨a.results, ha.results⟩
  have hresults : a.results = (a.engine.reportedOf ls).map fun x =>
      Sarif.Result.ofDiagnostic x.2.1.info.id (some (x.1.uri call.files)) x.2.2 := by
    have hanalyze := ha.results
    rw [a.engine.analyze_of_dispatch a.found.artifacts a.found.units call.schedule hall] at hanalyze
    rw [← Except.ok.inj hanalyze, ← hfound, Engine.results_ofLoaded]
  refine ⟨a.engine, found, ls, hconfigured, hitems, hloads, fun l hl rule hrule => ?_, ?_⟩
  · obtain ⟨i, hi, hget⟩ := List.getElem_of_mem hl
    have hunit : (⟨l.tree, i⟩ : SourceUnit) ∈ a.found.units := by
      rw [← hfound]
      exact List.mem_mapIdx.mpr ⟨i, hi, by rw [hget]⟩
    exact ConfiguredRule.dispatch_eq_reports (hall _ hunit rule hrule)
  · rw [hreport]
    refine Sarif.isConsistent_value rfl ?_ ?_ ?_ hresults ?_
    · have hperm := (Engine.perm_infos hconfigure).map RuleInfo.id
      rw [List.map_map, List.map_map] at hperm
      exact hperm.nodup_iff.mpr (by decide)
    · change a.found.units.length = _
      rw [← hfound]
      exact List.length_mapIdx
    · change a.found.artifacts.length = _
      rw [← hfound]
      exact List.length_map _
    · change a.found.artifacts = _
      rw [← hfound]
      rfl

/-- The text of a dump without a source path, in which a field lacks an annotation. -/
def houseText : String :=
  "[\"\",\x7b\"kind\":\"OBJ_BLOCK\",\"line\":1,\"column\":13,\"children\":[" ++
    "\x7b\"kind\":\"VARIABLE_DEF\",\"line\":2,\"column\":5," ++
    "\"ident\":\x7b\"text\":\"owner\",\"line\":2,\"column\":12\x7d," ++
    "\"type\":\x7b\"tag\":\"reference\",\"line\":2,\"column\":5\x7d\x7d]\x7d]"

/-- The words of a call for a file with that dump. -/
def houseWords : List String := ["--input", "house.json"]

/-- A call for a file with that dump. -/
def houseCall : Call where
  options := { input := "house.json" }
  arguments := ("annolint" :: houseWords).map .text
  files := ⟨.directory [("house.json", .file houseText.toUTF8)], []⟩

/-- The only rule, as it is without properties. -/
def plainRule : ConfiguredRule :=
  ⟨NullAnnotations.info, KindSet.ofList NullAnnotations.tokens, NullAnnotations.visitor {}⟩

theorem configure_registry_nil : Engine.configure registry {} = .ok ⟨[plainRule]⟩ := by
  have hids : RuleProperties.ruleIds {} = [] := by
    rw [RuleProperties.ruleIds]
    exact List.mergeSort_nil
  have hrules : Engine.inOrder registry = registry := List.mergeSort_singleton _
  have hshare : RuleProperties.forRule {} NullAnnotations.rule.info.id = [] := by
    rw [RuleProperties.forRule]
    exact List.mergeSort_nil
  have hready : [NullAnnotations.rule].mapM (Engine.configureRule {}) = .ok [plainRule] := by
    rw [mapM_singleton_eq_map, Engine.configureRule, hshare]
    rfl
  rw [Engine.configure, Engine.unknownRule?, hids, hrules, registry, List.find?_nil, hready]
  rfl

/-- The text is that of a dump, and the rule succeeds on its tree. -/
theorem exists_dump_house : ∃ dump, Dump.parse houseText = .ok dump ∧
    ∃ ds, plainRule.dispatch (Tree.ofDump dump) = .ok ds := by
  have hsome : ((Dump.parse houseText).toOption.bind fun dump =>
      (plainRule.dispatch (Tree.layOut dump)).toOption).isSome = true := by
    decide +kernel
  obtain ⟨ds, hds⟩ := Option.isSome_iff_exists.mp hsome
  obtain ⟨dump, hdump, hds⟩ := Option.bind_eq_some_iff.mp hds
  rw [toOption_eq_some_iff] at hdump hds
  rw [← Tree.ofDump_eq_layOut] at hds
  exact ⟨dump, hdump, ds, hds⟩

/-- The call with another text in its file. -/
def callFor (text : String) : Call :=
  { houseCall with files := ⟨.directory [("house.json", .file text.toUTF8)], []⟩ }

/-- The files of such a call are the one dump with the text. -/
theorem items_callFor (text : String) :
    Scan.items (callFor text).files houseCall.input =
      .ok [.dump "house.json" (.ok text.toUTF8)] := rfl

/-- The files of the call are that dump. -/
theorem items_house : Scan.items houseCall.files houseCall.input =
    .ok [.dump "house.json" (.ok houseText.toUTF8)] := rfl

/-- If the text is that of a dump and the rule succeeds on its tree, its file can be loaded, and the
results of the analysis are those of the diagnostics. -/
theorem exists_results_callFor {text : String} {dump : Dump} {ds : List Diagnostic}
    (hdump : Dump.parse text = .ok dump) (hds : plainRule.dispatch (Tree.ofDump dump) = .ok ds) :
    ∃ found uri, Scan.scan (callFor text).files houseCall.input = .ok found ∧
      Engine.analyze ⟨[plainRule]⟩ found.artifacts found.units houseCall.schedule =
        .ok (ds.map (Sarif.Result.ofDiagnostic plainRule.info.id (some uri))) := by
  have htree : Scan.parseTree text = .ok (Tree.ofDump dump) := by
    rw [Scan.parseTree, hdump]
    rfl
  obtain ⟨l, hload, hl⟩ : ∃ l, Scan.load "house.json" (.ok text.toUTF8) = .ok l ∧
      l.tree = Tree.ofDump dump :=
    ⟨_, Scan.load_eq_ok_iff.mpr ⟨_, _, rfl, ⟨text, rfl, htree⟩, rfl⟩, rfl⟩
  let found := Scan.Output.ofLoaded (callFor text).files [l]
  have hscan : Scan.scan (callFor text).files houseCall.input = .ok found := by
    rw [Scan.scan, Scan.loadAll_eq_of_items (items_callFor text)]
    change ([("house.json", Except.ok text.toUTF8)].mapM fun d =>
      Scan.load d.1 d.2).map _ = _
    rw [mapM_singleton_eq_map, hload]
    rfl
  rw [← hl] at hds
  have hanalyze := Engine.analyze_of_dispatch ⟨[plainRule]⟩ found.artifacts found.units
    houseCall.schedule fun u hu rule hrule => by
      obtain rfl := List.mem_singleton.mp hu
      obtain rfl := List.mem_singleton.mp hrule
      exact ⟨ds, hds⟩
  have hreports := ConfiguredRule.dispatch_eq_reports ⟨ds, hds⟩
  rw [hds] at hreports
  refine ⟨found, l.uri (callFor text).files, hscan, ?_⟩
  rw [hanalyze, Engine.results_ofLoaded, Except.ok.inj hreports]
  simp [Engine.reportedOf, Function.comp_def]

/-- The dump can be loaded, and the rule succeeds on it. -/
theorem exists_results_house : ∃ found results,
    Scan.scan houseCall.files houseCall.input = .ok found ∧
      Engine.analyze ⟨[plainRule]⟩ found.artifacts found.units houseCall.schedule =
        .ok results := by
  obtain ⟨dump, hdump, ds, hds⟩ := exists_dump_house
  obtain ⟨found, uri, hscan, hresults⟩ := exists_results_callFor hdump hds
  exact ⟨found, _, hscan, hresults⟩

/-- Such a call succeeds, and its report has the results of the diagnostics. -/
theorem exists_report_callFor {text : String} {dump : Dump} {ds : List Diagnostic}
    (hdump : Dump.parse text = .ok dump) (hds : plainRule.dispatch (Tree.ofDump dump) = .ok ds) :
    ∃ report uri, (run registry (callFor text)).result = .ok report ∧
      report.results = ds.map (Sarif.Result.ofDiagnostic plainRule.info.id (some uri)) := by
  obtain ⟨found, uri, hscan, hresults⟩ := exists_results_callFor hdump hds
  let results := ds.map (Sarif.Result.ofDiagnostic plainRule.info.id (some uri))
  let analysed : Analysed := ⟨⟨⟨⟨[plainRule]⟩, none⟩, found⟩, results⟩
  have hnode : (callFor text).files.node "house.json" = .ok (.file text.toUTF8) := rfl
  have hinput : (callFor text).files.exists? "house.json" = true := by
    rw [FileSystem.exists?, hnode]
    rfl
  have hready : (callFor text).IsReady registry analysed.toReady :=
    ⟨⟨⟨_, rfl, hinput⟩, {}, rfl, configure_registry_nil⟩, Or.inl ⟨rfl, rfl⟩⟩
  have hopened : (callFor text).IsOpened registry ⟨(callFor text).report analysed, none⟩ :=
    ⟨⟨analysed, ⟨⟨hready, hscan⟩, hresults⟩, rfl⟩, ⟨"annolint" :: houseWords, rfl⟩,
      Or.inl ⟨rfl, rfl⟩⟩
  exact ⟨(callFor text).report analysed, uri,
    Call.completed_eq_ok_iff.mpr ⟨_, hopened, rfl, rfl⟩, rfl⟩

/-- The call succeeds. -/
theorem exists_report_house : ∃ report, (run registry houseCall).result = .ok report := by
  obtain ⟨dump, hdump, ds, hds⟩ := exists_dump_house
  obtain ⟨report, uri, hreport, -⟩ := exists_report_callFor hdump hds
  exact ⟨report, hreport⟩

/-- The report of the call agrees with the one dump that was loaded. -/
theorem report_consistent_house : ∃ report engine ls,
    (run registry houseCall).result = .ok report ∧
      Sarif.IsConsistent report.value houseCall.files engine ls ∧ ls.length = 1 := by
  obtain ⟨report, hreport⟩ := exists_report_house
  obtain ⟨engine, found, ls, -, hitems, hloads, -, hconsistent⟩ :=
    report_consistent houseCall report hreport
  refine ⟨report, engine, ls, hreport, hconsistent, ?_⟩
  rw [items_house] at hitems
  rw [← hloads.length_eq, ← Except.ok.inj hitems]
  rfl

end Program

end NullLint
