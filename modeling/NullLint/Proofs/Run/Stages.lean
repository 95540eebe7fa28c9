import NullLint.Proofs.FileSystem.Put
import NullLint.Proofs.Sarif
import NullLint.Proofs.Sarif.Document
import NullLint.Run.Program

set_option autoImplicit false
set_option relaxedAutoImplicit false

/-!
# A run goes through its stages

A run fails with the error of the first stage that fails: whether a stage is reached depends on the
stages before it, never on those after it. Before the output is opened a run that fails leaves no
trace in the files and prints nothing; up to the scan it records no span either. A run that succeeds
changes one file at most, the one that gets the report.

## Main definitions

* `Call.IsReady`, `Call.IsScanned`, `Call.IsAnalysed`, `Call.HasTexts`, `Call.IsOpened` — what a
  call has to meet to get past a stage.
* `Call.Stops` — the stages at which a call can stop, each with its error.
* `Program.Outcome.Delivers` — what a run that succeeds leaves behind.

## Main results

* `Call.completed_eq_error_iff` — the error of a run is that of the first stage that fails.
* `Program.delivers_run` — what a run that succeeds leaves behind.
-/

namespace NullLint

/-! ## The stages -/

namespace RunError

/-- The errors of the stages before the scan. -/
def PrecedesScan : RunError → Prop
  | inputMissing _ | properties _ | engine _ | endpoint _ => True
  | _ => False

/-- The errors of the stages before the output is opened. -/
def PrecedesOutput : RunError → Prop
  | scan _ | analysis _ | garbled _ => True
  | e => e.PrecedesScan

end RunError

namespace Call

variable (rules : List Rule) (call : Call)

/-- The input of a call is there, and its properties are well-formed and configure the rules. -/
structure IsConfigured (engine : Engine) : Prop where
  input : ∃ path, call.options.input = .text path ∧ call.files.exists? path = true
  engine : ∃ ps, RuleProperties.parse call.options.properties = .ok ps ∧
    Engine.configure rules ps = .ok engine

/-- A call names no endpoint, or one to which spans can be sent. -/
def IsTarget (endpoint : Option Url) : Prop :=
  (call.options.otel = none ∧ endpoint = none) ∨
    ∃ text url, call.options.otel = some text ∧ Telemetry.target text = .ok url ∧
      endpoint = some url

/-- A call gets past the stages before the scan. -/
structure IsReady (r : Ready) : Prop where
  configured : call.IsConfigured rules r.engine
  endpoint : call.IsTarget r.endpoint

/-- A call gets past the scan. -/
structure IsScanned (s : Scanned) : Prop where
  ready : call.IsReady rules s.toReady
  found : Scan.scan call.files call.input = .ok s.found

/-- A call gets past the analysis. -/
structure IsAnalysed (a : Analysed) : Prop where
  scanned : call.IsScanned rules a.toScanned
  results : a.engine.analyze a.found.artifacts a.found.units call.schedule = .ok a.results

/-- All words of a call are texts, so that they can be part of a report. -/
def HasTexts : Prop :=
  ∃ words : List String, call.arguments = words.map .text

/-- A call gets past the opening of its output. -/
structure IsOpened (o : Opened) : Prop where
  report : ∃ a, call.IsAnalysed rules a ∧ o.report = call.report a
  texts : call.HasTexts
  place : (call.outputPath? = none ∧ o.place = none) ∨
    ∃ path names, call.outputPath? = some path ∧ call.files.place path = .ok names ∧
      o.place = some names

/-- The stages at which a call stops, with the error of each. A call stops at a stage if it gets
past those before it; what comes after does not matter. -/
inductive Stops : RunError → Prop
  | input (h : ∀ path, call.options.input = .text path → call.files.exists? path = false) :
    Stops (.inputMissing call.input)
  | properties {path : String} {cause : PropertyError} (hpath : call.options.input = .text path)
      (hinput : call.files.exists? path = true)
      (h : RuleProperties.parse call.options.properties = .error cause) :
      Stops (.properties cause)
  | engine {path : String} {ps : RuleProperties} {cause : EngineError}
      (hpath : call.options.input = .text path) (hinput : call.files.exists? path = true)
      (hps : RuleProperties.parse call.options.properties = .ok ps)
      (h : Engine.configure rules ps = .error cause) : Stops (.engine cause)
  | endpoint {engine : Engine} {text : String} {cause : Telemetry.EndpointError}
      (hengine : call.IsConfigured rules engine) (htext : call.options.otel = some text)
      (h : Telemetry.target text = .error cause) : Stops (.endpoint cause)
  | scan {r : Ready} {cause : Scan.Error} (hready : call.IsReady rules r)
      (h : Scan.scan call.files call.input = .error cause) : Stops (.scan cause)
  | analysis {s : Scanned} {cause : DispatchError} (hscanned : call.IsScanned rules s)
      (h : s.engine.analyze s.found.artifacts s.found.units call.schedule = .error cause) :
      Stops (.analysis cause)
  | garbled {a : Analysed} {before : List String} {word : Argument} {after : List Argument}
      (hanalysed : call.IsAnalysed rules a)
      (hwords : call.arguments = before.map .text ++ word :: after) (h : ∀ s, word ≠ .text s) :
      Stops (.garbled word)
  | output {a : Analysed} {path : String} {fault : FileSystem.Fault}
      (hanalysed : call.IsAnalysed rules a) (htexts : call.HasTexts)
      (hpath : call.outputPath? = some path)
      (h : call.files.place path = .error fault) : Stops (.output path fault)
  | writing {o : Opened} {b : BreakOff} (hopened : call.IsOpened rules o)
      (h : call.breakOff? o = some b) : Stops (o.breakError b)

/-! ## How far a run gets -/

variable {rules call}

theorem hasInput_iff :
    call.hasInput = true ↔
      ∃ path, call.options.input = .text path ∧ call.files.exists? path = true := by
  rw [hasInput]
  cases call.options.input <;> simp

theorem hasInput_eq_false_iff :
    call.hasInput = false ↔
      ∀ path, call.options.input = .text path → call.files.exists? path = false := by
  rw [hasInput]
  cases call.options.input <;> simp

theorem properties_eq_ok_iff {ps : RuleProperties} :
    call.properties = .ok ps ↔ call.hasInput = true ∧
      RuleProperties.parse call.options.properties = .ok ps := by
  rw [Call.properties]
  split
  · next hinput => simp [hinput, mapError_eq_ok_iff]
  · next hinput => simp [hinput]

theorem engine_eq_ok_iff {engine : Engine} :
    call.engine rules = .ok engine ↔ call.IsConfigured rules engine := by
  simp only [Call.engine, bind_eq_ok_iff, mapError_eq_ok_iff, properties_eq_ok_iff, hasInput_iff]
  constructor
  · rintro ⟨ps, ⟨hinput, hps⟩, hengine⟩
    exact ⟨hinput, ps, hps, hengine⟩
  · rintro ⟨hinput, ps, hps, hengine⟩
    exact ⟨ps, ⟨hinput, hps⟩, hengine⟩

theorem endpoint_eq_ok_iff {endpoint : Option Url} :
    call.endpoint = .ok endpoint ↔ call.IsTarget endpoint := by
  rw [Call.endpoint, IsTarget]
  cases call.options.otel with
  | none => simp [eq_comm]
  | some text =>
    rw [mapError_eq_ok_iff, map_eq_ok_iff]
    simp [eq_comm]

theorem ready_eq_ok_iff {r : Ready} : call.ready rules = .ok r ↔ call.IsReady rules r := by
  simp only [Call.ready, bind_eq_ok_iff, map_eq_ok_iff, engine_eq_ok_iff, endpoint_eq_ok_iff]
  constructor
  · rintro ⟨engine, hengine, endpoint, hendpoint, rfl⟩
    exact ⟨hengine, hendpoint⟩
  · rintro ⟨hengine, hendpoint⟩
    exact ⟨r.engine, hengine, r.endpoint, hendpoint, rfl⟩

theorem scanned_eq_ok_iff {s : Scanned} :
    call.scanned rules = .ok s ↔ call.IsScanned rules s := by
  simp only [Call.scanned, bind_eq_ok_iff, mapError_eq_ok_iff, map_eq_ok_iff, ready_eq_ok_iff]
  constructor
  · rintro ⟨r, hready, found, hfound, rfl⟩
    exact ⟨hready, hfound⟩
  · rintro ⟨hready, hfound⟩
    exact ⟨s.toReady, hready, s.found, hfound, rfl⟩

theorem analysed_eq_ok_iff {a : Analysed} :
    call.analysed rules = .ok a ↔ call.IsAnalysed rules a := by
  simp only [Call.analysed, bind_eq_ok_iff, mapError_eq_ok_iff, map_eq_ok_iff, scanned_eq_ok_iff]
  constructor
  · rintro ⟨s, hscanned, results, hresults, rfl⟩
    exact ⟨hscanned, hresults⟩
  · rintro ⟨hscanned, hresults⟩
    exact ⟨a.toScanned, hscanned, a.results, hresults, rfl⟩

/-- Words that are all texts. -/
theorem exists_eq_map_text_iff {words : List Argument} :
    (∃ texts : List String, words = texts.map .text) ↔ ∀ word ∈ words, ∃ s, word = .text s := by
  constructor
  · rintro ⟨texts, rfl⟩ word hword
    obtain ⟨s, -, rfl⟩ := List.mem_map.mp hword
    exact ⟨s, rfl⟩
  · intro h
    induction words with
    | nil => exact ⟨[], rfl⟩
    | cons word words ih =>
      obtain ⟨⟨s, rfl⟩, hwords⟩ := List.forall_mem_cons.mp h
      obtain ⟨texts, rfl⟩ := ih hwords
      exact ⟨s :: texts, rfl⟩

theorem isNone_text?_iff {word : Argument} : word.text?.isNone = true ↔ ∀ s, word ≠ .text s := by
  cases word <;> simp [Argument.text?]

/-- The first word of a call that is no text stands behind texts. -/
theorem garbled?_eq_some_iff {word : Argument} :
    call.garbled? = some word ↔ ∃ (before : List String) (after : List Argument),
      call.arguments = before.map .text ++ word :: after ∧ ∀ s, word ≠ .text s := by
  have hbefore : ∀ before : List Argument,
      (∀ a ∈ before, (!a.text?.isNone) = true) ↔
        ∃ texts : List String, before = texts.map .text := by
    intro before
    rw [exists_eq_map_text_iff]
    refine forall₂_congr fun a _ => ?_
    cases a <;> simp [Argument.text?]
  rw [garbled?, List.find?_eq_some_iff_append, isNone_text?_iff]
  simp only [hbefore]
  constructor
  · rintro ⟨hword, -, after, hwords, before, rfl⟩
    exact ⟨before, after, hwords, hword⟩
  · rintro ⟨before, after, hwords, hword⟩
    exact ⟨hword, _, after, hwords, before, rfl⟩

/-- There is no such word if all words are texts. -/
theorem garbled?_eq_none_iff : call.garbled? = none ↔ call.HasTexts := by
  rw [garbled?, List.find?_eq_none, HasTexts, exists_eq_map_text_iff]
  refine forall₂_congr fun a _ => ?_
  cases a <;> simp [Argument.text?]

theorem reported_eq_ok_iff {report : Sarif.Report} :
    call.reported rules = .ok report ↔
      (∃ a, call.IsAnalysed rules a ∧ report = call.report a) ∧ call.HasTexts := by
  rw [reported, bind_eq_ok_iff, ← garbled?_eq_none_iff]
  simp only [analysed_eq_ok_iff]
  cases call.garbled? <;> simp [eq_comm]

theorem opened_eq_ok_iff {o : Opened} : call.opened rules = .ok o ↔ call.IsOpened rules o := by
  rw [Call.opened, bind_eq_ok_iff]
  simp only [reported_eq_ok_iff]
  constructor
  · rintro ⟨report, ⟨⟨a, ha, rfl⟩, htexts⟩, hopen⟩
    split at hopen
    · next hpath =>
      cases hopen
      exact ⟨⟨a, ha, rfl⟩, htexts, Or.inl ⟨hpath, rfl⟩⟩
    · next path hpath =>
      obtain ⟨names, hnames, rfl⟩ := map_eq_ok_iff.mp (mapError_eq_ok_iff.mp hopen)
      exact ⟨⟨a, ha, rfl⟩, htexts, Or.inr ⟨path, names, hpath, hnames, rfl⟩⟩
  · obtain ⟨report, place⟩ := o
    rintro ⟨hreport, htexts, hplace⟩
    refine ⟨report, ⟨hreport, htexts⟩, ?_⟩
    rcases hplace with ⟨hpath, rfl : place = none⟩ | ⟨path, names, hpath, hnames, hplace⟩
    · simp only [hpath]
    · obtain rfl : place = some names := hplace
      simp only [hpath, hnames]
      rfl

theorem completed_eq_ok_iff {report : Sarif.Report} :
    call.completed rules = .ok report ↔
      ∃ o, call.IsOpened rules o ∧ call.breakOff? o = none ∧ o.report = report := by
  rw [completed, bind_eq_ok_iff]
  simp only [opened_eq_ok_iff]
  refine exists_congr fun o => and_congr_right fun _ => ?_
  cases call.breakOff? o <;> simp

/-! ## Where a run stops -/

theorem precedesOutput_of_precedesScan {e : RunError} (h : e.PrecedesScan) :
    e.PrecedesOutput := by
  cases e <;> first | exact h | trivial

theorem not_precedesOutput_breakError (o : Opened) (b : BreakOff) :
    ¬(o.breakError b).PrecedesOutput := by
  rw [Opened.breakError]
  split_ifs <;> exact id

theorem properties_eq_error_iff {e : RunError} :
    call.properties = .error e ↔
      (call.hasInput = false ∧ .inputMissing call.input = e) ∨
      (call.hasInput = true ∧
        ∃ cause, RuleProperties.parse call.options.properties = .error cause ∧
          .properties cause = e) := by
  rw [Call.properties]
  split
  · next hinput => simp [hinput, mapError_eq_error_iff]
  · next hinput => simp [hinput]

theorem endpoint_eq_error_iff {e : RunError} :
    call.endpoint = .error e ↔ ∃ text, call.options.otel = some text ∧
      ∃ cause, Telemetry.target text = .error cause ∧ .endpoint cause = e := by
  rw [Call.endpoint]
  cases call.options.otel with
  | none => simp
  | some text => simp [mapError_eq_error_iff, map_eq_error_iff]

/-- A run stops before the scan at one of the stages before it. -/
theorem ready_eq_error_iff {e : RunError} :
    call.ready rules = .error e ↔ call.Stops rules e ∧ e.PrecedesScan := by
  simp only [Call.ready, bind_eq_error_iff, map_eq_error_iff, engine_eq_ok_iff,
    endpoint_eq_error_iff]
  simp only [Call.engine, bind_eq_error_iff, properties_eq_ok_iff, properties_eq_error_iff,
    mapError_eq_error_iff, hasInput_iff, hasInput_eq_false_iff]
  constructor
  · rintro (((⟨hinput, rfl⟩ | ⟨⟨path, hpath, hinput⟩, cause, hps, rfl⟩) |
      ⟨ps, ⟨⟨path, hpath, hinput⟩, hps⟩, cause, hengine, rfl⟩) |
      ⟨engine, hengine, text, htext, cause, h, rfl⟩)
    · exact ⟨Stops.input hinput, trivial⟩
    · exact ⟨Stops.properties hpath hinput hps, trivial⟩
    · exact ⟨Stops.engine hpath hinput hps hengine, trivial⟩
    · exact ⟨Stops.endpoint hengine htext h, trivial⟩
  · rintro ⟨hstops, hprecedes⟩
    cases hstops with
    | input hinput => exact Or.inl (Or.inl (Or.inl ⟨hinput, rfl⟩))
    | properties hpath hinput hps =>
      exact Or.inl (Or.inl (Or.inr ⟨⟨_, hpath, hinput⟩, _, hps, rfl⟩))
    | engine hpath hinput hps hengine =>
      exact Or.inl (Or.inr ⟨_, ⟨⟨_, hpath, hinput⟩, hps⟩, _, hengine, rfl⟩)
    | endpoint hengine htext h => exact Or.inr ⟨_, hengine, _, htext, _, h, rfl⟩
    | scan => exact absurd hprecedes id
    | analysis => exact absurd hprecedes id
    | garbled => exact absurd hprecedes id
    | output => exact absurd hprecedes id
    | @writing o b =>
      have houtput := precedesOutput_of_precedesScan hprecedes
      exact absurd houtput (not_precedesOutput_breakError o b)

/-- A run stops at the analysis, or before. -/
theorem analysed_eq_error_iff {e : RunError} :
    call.analysed rules = .error e ↔ (call.Stops rules e ∧ e.PrecedesScan) ∨
      (∃ r, call.IsReady rules r ∧
        ∃ cause, Scan.scan call.files call.input = .error cause ∧ .scan cause = e) ∨
      ∃ s : Scanned, call.IsScanned rules s ∧ ∃ cause, s.engine.analyze s.found.artifacts
        s.found.units call.schedule = .error cause ∧ .analysis cause = e := by
  simp only [Call.analysed, bind_eq_error_iff, scanned_eq_ok_iff, mapError_eq_error_iff,
    map_eq_error_iff]
  simp only [Call.scanned, bind_eq_error_iff, ready_eq_ok_iff, ready_eq_error_iff,
    mapError_eq_error_iff, map_eq_error_iff, or_assoc]

/-- A run stops before its output is opened at one of the stages before that. -/
theorem reported_eq_error_iff {e : RunError} :
    call.reported rules = .error e ↔ call.Stops rules e ∧ e.PrecedesOutput := by
  rw [reported, bind_eq_error_iff, analysed_eq_error_iff]
  simp only [analysed_eq_ok_iff]
  constructor
  · rintro ((⟨hstops, hprecedes⟩ | ⟨r, hready, cause, h, rfl⟩ | ⟨s, hscanned, cause, h, rfl⟩) |
      ⟨a, ha, hword⟩)
    · exact ⟨hstops, precedesOutput_of_precedesScan hprecedes⟩
    · exact ⟨Stops.scan hready h, trivial⟩
    · exact ⟨Stops.analysis hscanned h, trivial⟩
    · split at hword
      · cases hword
      · next word hgarbled =>
        obtain rfl := Except.error.inj hword
        obtain ⟨before, after, hwords, hword⟩ := garbled?_eq_some_iff.mp hgarbled
        exact ⟨Stops.garbled ha hwords hword, trivial⟩
  · rintro ⟨hstops, hprecedes⟩
    cases hstops with
    | input hinput => exact Or.inl (Or.inl ⟨Stops.input hinput, trivial⟩)
    | properties hpath hinput h =>
      exact Or.inl (Or.inl ⟨Stops.properties hpath hinput h, trivial⟩)
    | engine hpath hinput hps h =>
      exact Or.inl (Or.inl ⟨Stops.engine hpath hinput hps h, trivial⟩)
    | endpoint hengine htext h => exact Or.inl (Or.inl ⟨Stops.endpoint hengine htext h, trivial⟩)
    | scan hready h => exact Or.inl (Or.inr (Or.inl ⟨_, hready, _, h, rfl⟩))
    | analysis hscanned h => exact Or.inl (Or.inr (Or.inr ⟨_, hscanned, _, h, rfl⟩))
    | @garbled a before word after ha hwords h =>
      have hgarbled : call.garbled? = some word :=
        garbled?_eq_some_iff.mpr ⟨before, after, hwords, h⟩
      exact Or.inr ⟨a, ha, by rw [hgarbled]⟩
    | output => exact absurd hprecedes id
    | @writing o b => exact absurd hprecedes (not_precedesOutput_breakError o b)

/-- A run whose output cannot be opened stops there, or before. -/
theorem opened_eq_error_iff {e : RunError} :
    call.opened rules = .error e ↔ (call.Stops rules e ∧ e.PrecedesOutput) ∨
      ∃ a path fault, call.IsAnalysed rules a ∧ call.HasTexts ∧
        call.outputPath? = some path ∧ call.files.place path = .error fault ∧
        .output path fault = e := by
  rw [Call.opened, bind_eq_error_iff, reported_eq_error_iff]
  refine or_congr_right ?_
  simp only [reported_eq_ok_iff]
  cases call.outputPath? with
  | none => simp
  | some path =>
    simp only [mapError_eq_error_iff, map_eq_error_iff, Option.some.injEq]
    constructor
    · rintro ⟨report, ⟨⟨a, ha, -⟩, htexts⟩, fault, h, rfl⟩
      exact ⟨a, path, fault, ha, htexts, rfl, h, rfl⟩
    · rintro ⟨a, path, fault, ha, htexts, rfl, h, rfl⟩
      exact ⟨_, ⟨⟨a, ha, rfl⟩, htexts⟩, fault, h, rfl⟩

/-- **The first stage that fails.** A run fails exactly if its call stops at some stage, and the
error is the one of that stage. -/
theorem completed_eq_error_iff {e : RunError} :
    call.completed rules = .error e ↔ call.Stops rules e := by
  simp only [completed, bind_eq_error_iff, opened_eq_error_iff, opened_eq_ok_iff]
  constructor
  · rintro ((⟨hstops, -⟩ | ⟨a, path, fault, ha, htexts, hpath, h, rfl⟩) | ⟨o, ho, h⟩)
    · exact hstops
    · exact Stops.output ha htexts hpath h
    · split at h
      · cases h
      · next b hb =>
        obtain rfl := Except.error.inj h
        exact Stops.writing ho hb
  · intro hstops
    by_cases hprecedes : e.PrecedesOutput
    · exact Or.inl (Or.inl ⟨hstops, hprecedes⟩)
    · cases hstops with
      | output ha htexts hpath h => exact Or.inl (Or.inr ⟨_, _, _, ha, htexts, hpath, h, rfl⟩)
      | writing ho h => exact Or.inr ⟨_, ho, by rw [h]⟩
      | _ => exact absurd trivial hprecedes

end Call

namespace Program

/-! ## What a run leaves behind -/

variable (rules : List Rule) (call : Call)

/-- What a run that succeeds leaves behind. The report is one JSON document and a line break, and
the document has the form of a report. It is printed, or it is the content of the file that is asked
for, and nothing else changes. The line about the time is shown if it is asked for. -/
structure Outcome.Delivers (o : Outcome) (report : Sarif.Report) : Prop where
  document : ∃ d : Json.Draft, d.IsTextOf report.document ∧
    (report.value.AllIntegers Json.IsExact → d.Denotes report.value)
  form : ∃ words : List String, call.arguments = words.map .text ∧
    Sarif.IsDocument report.value words report.results
  text : report.text = report.document ++ "\n"
  printed : call.outputPath? = none → o.printed = report.text ∧ o.files = call.files
  written : ∀ path, call.outputPath? = some path →
    o.printed = "" ∧ call.files.DiffersAt path report.text.toUTF8 o.files
  timing : o.timing.isSome = true ↔ call.options.timing = true ∧ call.options.quiet = false

theorem isSome_timing? {report : Sarif.Report} :
    (timing? call report).isSome = true ↔
      call.options.timing = true ∧ call.options.quiet = false := by
  rw [timing?, wantsTiming]
  cases call.options.timing <;> cases call.options.quiet <;> simp

/-- A run that does not get as far as writing leaves all as it was. -/
theorem left_of_opened_eq_error {e : RunError} (h : call.opened rules = .error e) :
    left rules call = (call.files, "") := by
  delta left
  rw [h]

/-- A run that opens its output leaves what it has written. -/
theorem left_of_isOpened {o : Opened} (h : call.IsOpened rules o) :
    left rules call = call.written o := by
  delta left
  rw [Call.opened_eq_ok_iff.mpr h]

theorem delivers_run {report : Sarif.Report} (h : call.completed rules = .ok report) :
    Outcome.Delivers call (run rules call) report := by
  obtain ⟨o, ho, hbreak, rfl⟩ := Call.completed_eq_ok_iff.mp h
  have hwritten := left_of_isOpened rules call ho
  rw [Call.written, hbreak] at hwritten
  refine ⟨o.report.exists_isTextOf_document, ?_, rfl, ?_, ?_, ?_⟩
  · obtain ⟨a, -, hreport⟩ := ho.report
    obtain ⟨words, hwords⟩ := ho.texts
    have harguments : o.report.invocation.arguments = words := by
      rw [hreport, Call.report, hwords, List.map_map]
      exact List.map_id words
    exact ⟨words, hwords, harguments ▸ o.report.isDocument_value⟩
  · intro hpath
    rcases ho.place with ⟨-, hplace⟩ | ⟨path, names, hpath', -⟩
    · rw [hplace] at hwritten
      simp only [run, hwritten]
      exact ⟨trivial, trivial⟩
    · rw [hpath] at hpath'
      cases hpath'
  · intro path hpath
    rcases ho.place with ⟨hpath', -⟩ | ⟨path', names, hpath', hnames, hplace⟩
    · rw [hpath] at hpath'
      cases hpath'
    · rw [hpath] at hpath'
      cases hpath'
      rw [hplace] at hwritten
      simp only [run, hwritten]
      exact ⟨trivial, FileSystem.differsAt_put hnames⟩
  · simp only [run, h]
    exact isSome_timing? call

end Program

end NullLint
