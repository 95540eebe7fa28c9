import Mathlib.Data.String.Basic
import NullLint.Proofs.CommandLine
import NullLint.Proofs.Run.Watch

set_option autoImplicit false
set_option relaxedAutoImplicit false

/-!
# Watching a run does not change it

Two runs of the same call that are watched in different ways come to the same. How a call is
watched, how long its parts take and which worker does what reaches the report in two places only:
in the words of the call, and in the time of the scan.

## Main definitions

* `Sarif.Report.masked` — a report without the words of the call and without the time of the scan.
* `Call.AsksLike` — two calls that ask for the same.
* `Call.ComeToSame` — what two runs come to is the same.

## Main results

* `Call.AsksLike.comeToSame` — calls that ask for the same come to the same.
* `Program.observation_changes_nothing` — **watching a run does not change it**.
* `Program.observation_changes_house` — an endpoint that is a URL but no target ends a run, and so
  does a longer report for which there is no room.
-/

namespace NullLint

open CommandLine Json

/-- A report without the words of the call and without the time of the scan. -/
def Sarif.Report.masked (r : Sarif.Report) : Sarif.Report :=
  { r with invocation := { r.invocation with arguments := [], scanMilliseconds := 0 } }

namespace Call

/-- Two calls that ask for the same: their options differ at most in how the calls are watched, both
have the same first word that is no text, if there is one, they see the same files, and writing
breaks off at the same place if it does. -/
structure AsksLike (call call' : Call) : Prop where
  options : call.options.unwatched = call'.options.unwatched
  garbled : call.garbled? = call'.garbled?
  files : call.files = call'.files
  breakOff : call.breakOff = call'.breakOff

variable {rules : List Rule} {call call' : Call}

namespace AsksLike

theorem symm (h : call.AsksLike call') : call'.AsksLike call :=
  ⟨h.options.symm, h.garbled.symm, h.files.symm, h.breakOff.symm⟩

theorem input (h : call.AsksLike call') : call.options.input = call'.options.input :=
  congrArg (·.input) h.options

theorem input_eq (h : call.AsksLike call') : call.input = call'.input :=
  congrArg Argument.shown h.input

theorem hasTexts (h : call.AsksLike call') (htexts : call.HasTexts) : call'.HasTexts := by
  rw [← garbled?_eq_none_iff] at *
  exact h.garbled.symm.trans htexts

theorem properties (h : call.AsksLike call') :
    call.options.properties = call'.options.properties :=
  congrArg (·.properties) h.options

theorem outputPath? (h : call.AsksLike call') : call.outputPath? = call'.outputPath? := by
  rw [Call.outputPath?, Call.outputPath?, show call.options.output = call'.options.output from
    congrArg (·.output) h.options]

/-! ## Stage by stage -/

theorem isConfigured (h : call.AsksLike call') {engine : Engine}
    (hc : call.IsConfigured rules engine) : call'.IsConfigured rules engine := by
  obtain ⟨hinput, ps, hps, hengine⟩ := hc
  rw [h.files, h.input] at hinput
  rw [h.properties] at hps
  exact ⟨hinput, ps, hps, hengine⟩

variable (h : call.AsksLike call') (ht : ∃ endpoint, call'.IsTarget endpoint)

include h ht

theorem exists_isReady {r : Ready} (hr : call.IsReady rules r) :
    ∃ r', call'.IsReady rules r' ∧ r'.engine = r.engine := by
  obtain ⟨endpoint, hendpoint⟩ := ht
  exact ⟨⟨r.engine, endpoint⟩, ⟨h.isConfigured hr.configured, hendpoint⟩, rfl⟩

theorem exists_isScanned {s : Scanned} (hs : call.IsScanned rules s) :
    ∃ s', call'.IsScanned rules s' ∧ s'.engine = s.engine ∧ s'.found = s.found := by
  obtain ⟨r', hr', hengine⟩ := h.exists_isReady ht hs.ready
  have hfound := hs.found
  rw [h.files, h.input_eq] at hfound
  exact ⟨⟨r', s.found⟩, ⟨hr', hfound⟩, hengine, rfl⟩

/-- The workers may act in another order, but the results are the same. -/
theorem exists_isAnalysed {a : Analysed} (ha : call.IsAnalysed rules a) :
    ∃ a', call'.IsAnalysed rules a' ∧ a'.engine = a.engine ∧ a'.found = a.found ∧
      a'.results = a.results := by
  obtain ⟨s', hs', hengine, hfound⟩ := h.exists_isScanned ht ha.scanned
  have hall := (a.engine.exists_analyze_eq_ok_iff a.found.artifacts a.found.units
    call.schedule).mp ⟨a.results, ha.results⟩
  have hresults := ha.results
  rw [a.engine.analyze_of_dispatch a.found.artifacts a.found.units call.schedule hall,
    ← a.engine.analyze_of_dispatch a.found.artifacts a.found.units call'.schedule hall] at hresults
  refine ⟨⟨s', a.results⟩, ⟨hs', ?_⟩, hengine, hfound, rfl⟩
  change s'.engine.analyze s'.found.artifacts s'.found.units call'.schedule = _
  rw [hengine, hfound]
  exact hresults

theorem exists_isOpened {o : Opened} (ho : call.IsOpened rules o) :
    ∃ o', call'.IsOpened rules o' ∧ o.place = o'.place ∧ o.report.masked = o'.report.masked := by
  obtain ⟨a, ha, hreport⟩ := ho.report
  obtain ⟨a', ha', hengine, hfound, hresults⟩ := h.exists_isAnalysed ht ha
  refine ⟨⟨call'.report a', o.place⟩, ⟨⟨a', ha', rfl⟩, h.hasTexts ho.texts, ?_⟩, rfl, ?_⟩
  · have hplace := ho.place
    rw [h.outputPath?, h.files] at hplace
    exact hplace
  · rw [hreport, Call.report, Call.report, hengine, hfound, hresults]
    rfl

end AsksLike

/-! ## What two runs come to -/

/-- What writing a report comes to. -/
def writing (call : Call) (o : Opened) : Except RunError Sarif.Report :=
  match call.breakOff? o with
  | none => .ok o.report
  | some b => .error (o.breakError b)

/-- What two runs come to is the same. Both fail with the same error before they write; or both fail
at the analysis, each with the error of one of the trees on which a rule fails; or both write the
same report to the same place, but for what is masked, and each of them gets as far as there is room
for its own report. -/
inductive ComeToSame (rules : List Rule) (call call' : Call) :
    Except RunError Sarif.Report → Except RunError Sarif.Report → Prop
  | stop (e : RunError) : ComeToSame rules call call' (.error e) (.error e)
  | analysis {cause cause' : DispatchError} {s : Scanned} (hs : call.IsScanned rules s)
      (h : ∃ u ∈ s.found.units, s.engine.FailsOn u cause)
      (h' : ∃ u ∈ s.found.units, s.engine.FailsOn u cause') :
    ComeToSame rules call call' (.error (.analysis cause)) (.error (.analysis cause'))
  | written {o o' : Opened} (ho : call.IsOpened rules o) (ho' : call'.IsOpened rules o')
      (hplace : o.place = o'.place) (hreport : o.report.masked = o'.report.masked) :
    ComeToSame rules call call' (call.writing o) (call'.writing o')

theorem completed_of_isOpened {o : Opened} (ho : call.IsOpened rules o) :
    call.completed rules = call.writing o := by
  rw [completed, opened_eq_ok_iff.mpr ho]
  rfl

/-- Calls that ask for the same come to the same.

**Proof sketch.** By the stage at which the first call stops, if it does. Each stage up to the scan
comes to the same for both calls. The analysis fails for both or for none, since whether it fails
does not depend on who works on what and when. -/
theorem AsksLike.comeToSame (h : call.AsksLike call') (ht : ∃ endpoint, call.IsTarget endpoint)
    (ht' : ∃ endpoint, call'.IsTarget endpoint) :
    ComeToSame rules call call' (call.completed rules) (call'.completed rules) := by
  have hopened : ∀ o, call.IsOpened rules o →
      ComeToSame rules call call' (call.completed rules) (call'.completed rules) := by
    intro o ho
    obtain ⟨o', ho', hplace, hreport⟩ := h.exists_isOpened ht' ho
    rw [completed_of_isOpened ho, completed_of_isOpened ho']
    exact ComeToSame.written ho ho' hplace hreport
  cases hcompleted : call.completed rules with
  | ok report =>
    obtain ⟨o, ho, -, -⟩ := completed_eq_ok_iff.mp hcompleted
    rw [← hcompleted]
    exact hopened o ho
  | error e =>
    have hstop : call'.Stops rules e →
        ComeToSame rules call call' (.error e) (call'.completed rules) := by
      intro hstops
      rw [completed_eq_error_iff.mpr hstops]
      exact ComeToSame.stop e
    cases completed_eq_error_iff.mp hcompleted with
    | input hmissing =>
      rw [h.files, h.input] at hmissing
      rw [h.input_eq] at hstop ⊢
      exact hstop (Stops.input hmissing)
    | properties hpath hinput hps =>
      rw [h.input] at hpath
      rw [h.files] at hinput
      rw [h.properties] at hps
      exact hstop (Stops.properties hpath hinput hps)
    | engine hpath hinput hps hengine =>
      rw [h.input] at hpath
      rw [h.files] at hinput
      rw [h.properties] at hps
      exact hstop (Stops.engine hpath hinput hps hengine)
    | endpoint hengine htext htarget =>
      obtain ⟨endpoint, ⟨hnone, -⟩ | ⟨text, url, htext', hurl, -⟩⟩ := ht
      · rw [hnone] at htext
        cases htext
      · rw [htext'] at htext
        cases htext
        rw [hurl] at htarget
        cases htarget
    | scan hready hscan =>
      obtain ⟨r', hr', -⟩ := h.exists_isReady ht' hready
      rw [h.files, h.input_eq] at hscan
      exact hstop (Stops.scan hr' hscan)
    | @analysis s cause hs hfails =>
      obtain ⟨s', hs', hengine, hfound⟩ := h.exists_isScanned ht' hs
      have hcause := s.engine.failsOn_of_analyze s.found.artifacts s.found.units hfails
      cases hfails' : s.engine.analyze s.found.artifacts s.found.units call'.schedule with
      | ok rs =>
        have hall := (s.engine.exists_analyze_eq_ok_iff s.found.artifacts s.found.units
          call'.schedule).mp ⟨rs, hfails'⟩
        rw [s.engine.analyze_of_dispatch s.found.artifacts s.found.units call.schedule hall]
          at hfails
        cases hfails
      | error cause' =>
        have hcause' := s.engine.failsOn_of_analyze s.found.artifacts s.found.units hfails'
        rw [← hengine, ← hfound] at hfails'
        rw [completed_eq_error_iff.mpr (Stops.analysis hs' hfails')]
        exact ComeToSame.analysis hs hcause hcause'
    | garbled ha hwords hword =>
      obtain ⟨a', ha', -⟩ := h.exists_isAnalysed ht' ha
      have hgarbled := garbled?_eq_some_iff.mpr ⟨_, _, hwords, hword⟩
      obtain ⟨_, _, hwords', -⟩ := garbled?_eq_some_iff.mp (h.garbled.symm.trans hgarbled)
      exact hstop (Stops.garbled ha' hwords' hword)
    | output ha htexts hpath hplace =>
      obtain ⟨a', ha', -⟩ := h.exists_isAnalysed ht' ha
      rw [h.outputPath?] at hpath
      rw [h.files] at hplace
      exact hstop (Stops.output ha' (h.hasTexts htexts) hpath hplace)
    | writing ho hbreak =>
      rw [← hcompleted]
      exact hopened _ ho

end Call

namespace Program

variable (rules : List Rule)

/-- **Watching a run does not change it.** Consider two calls whose words are the same but for those
that ask for the calls to be watched, and which see the same files. Where the name of the program is
no text, it is the same. If each of them names no endpoint, or one to which spans can be sent, the
runs come to the same: the same error, the errors of trees on which a rule fails, or the same report
at the same place but for what is masked. If there is room for both reports, one run succeeds if and
only if the other one does; and the reports that are delivered are the same but for what is masked,
and go to the same file.

**Proof sketch.** By the stage at which the first run stops, if it does. -/
theorem observation_changes_nothing {words words' : List String} {call call' : Call}
    (hwords : unwatchedWords words = unwatchedWords words')
    (hparse : parse words = .ok call.options) (hparse' : parse words' = .ok call'.options)
    (hgarbled : call.garbled? = call'.garbled?) (hfiles : call.files = call'.files)
    (hbreakOff : call.breakOff = call'.breakOff)
    (htarget : ∃ endpoint, call.IsTarget endpoint)
    (htarget' : ∃ endpoint, call'.IsTarget endpoint) :
    Call.ComeToSame rules call call' (run rules call).result (run rules call').result ∧
    ((∀ o, call.IsOpened rules o → call.breakOff? o = none) →
      (∀ o, call'.IsOpened rules o → call'.breakOff? o = none) →
      ((∃ report, (run rules call).result = .ok report) ↔
        ∃ report', (run rules call').result = .ok report')) ∧
    ∀ report report', (run rules call).result = .ok report →
      (run rules call').result = .ok report' →
      report.masked = report'.masked ∧ call.outputPath? = call'.outputPath? ∧
        Outcome.Delivers call (run rules call) report ∧
        Outcome.Delivers call' (run rules call') report' := by
  have h : call.AsksLike call' :=
    ⟨unwatched_eq_of_parse hwords hparse hparse', hgarbled, hfiles, hbreakOff⟩
  refine ⟨h.comeToSame htarget htarget', fun hroom hroom' => ?_, fun report report' hr hr' => ?_⟩
  · constructor
    · rintro ⟨report, hreport⟩
      obtain ⟨o, ho, -, -⟩ := Call.completed_eq_ok_iff.mp hreport
      obtain ⟨o', ho', -⟩ := h.exists_isOpened htarget' ho
      exact ⟨_, Call.completed_eq_ok_iff.mpr ⟨o', ho', hroom' o' ho', rfl⟩⟩
    · rintro ⟨report, hreport⟩
      obtain ⟨o, ho, -, -⟩ := Call.completed_eq_ok_iff.mp hreport
      obtain ⟨o', ho', -⟩ := h.symm.exists_isOpened htarget ho
      exact ⟨_, Call.completed_eq_ok_iff.mpr ⟨o', ho', hroom o' ho', rfl⟩⟩
  · obtain ⟨o, ho, hbreak, rfl⟩ := Call.completed_eq_ok_iff.mp hr
    obtain ⟨o', ho', -, hreport⟩ := h.exists_isOpened htarget' ho
    refine ⟨?_, h.outputPath?, delivers_run rules call hr, delivers_run rules call' hr'⟩
    obtain ⟨o'', ho'', -, rfl⟩ := Call.completed_eq_ok_iff.mp hr'
    obtain rfl : o' = o'' := Except.ok.inj
      ((Call.opened_eq_ok_iff.mpr ho').symm.trans (Call.opened_eq_ok_iff.mpr ho''))
    exact hreport

/-- The same call, watched in all ways. -/
def watchedHouseWords : List String :=
  ["--quiet", "--input", "house.json", "--otel", "http://localhost:4318/", "--timing"]

/-- The call for the file with the dump, watched in all ways. -/
def closelyWatchedCall : Call :=
  { houseCall with
    options := { watchedHouseCall.options with quiet := true, timing := true }
    arguments := ("annolint" :: watchedHouseWords).map .text
    durations := { total := 20, scan := 10, analysis := 10 } }

/-- Watched in all ways, the call for the file with the dump has the same report. -/
theorem observation_changes_nothing_house :
    unwatchedWords houseWords = unwatchedWords watchedHouseWords ∧
      parse houseWords = .ok houseCall.options ∧
      parse watchedHouseWords = .ok closelyWatchedCall.options ∧
      houseCall.garbled? = closelyWatchedCall.garbled? ∧
      houseCall.files = closelyWatchedCall.files ∧
      houseCall.breakOff = closelyWatchedCall.breakOff ∧
      (∃ endpoint, houseCall.IsTarget endpoint) ∧
      (∃ endpoint, closelyWatchedCall.IsTarget endpoint) ∧
      ∃ report report', (run registry houseCall).result = .ok report ∧
        (run registry closelyWatchedCall).result = .ok report' ∧
        report.masked = report'.masked := by
  have hwords : unwatchedWords houseWords = unwatchedWords watchedHouseWords := by decide
  have hparse : parse houseWords = .ok houseCall.options := by rfl
  have hparse' : parse watchedHouseWords = .ok closelyWatchedCall.options := by rfl
  have htarget : ∃ endpoint, houseCall.IsTarget endpoint := ⟨none, Or.inl ⟨rfl, rfl⟩⟩
  have htarget' : ∃ endpoint, closelyWatchedCall.IsTarget endpoint := by
    obtain ⟨url, hurl⟩ := exists_target_house
    exact ⟨some url, Or.inr ⟨_, url, rfl, hurl, rfl⟩⟩
  obtain ⟨-, hsuccess, hreports⟩ := observation_changes_nothing registry hwords hparse hparse' rfl
    rfl rfl htarget htarget'
  obtain ⟨report, hreport⟩ := exists_report_house
  obtain ⟨report', hreport'⟩ := (hsuccess (fun _ _ => rfl) fun _ _ => rfl).mp ⟨report, hreport⟩
  exact ⟨hwords, hparse, hparse', rfl, rfl, rfl, htarget, htarget', report, report', hreport,
    hreport', (hreports report report' hreport hreport').1⟩

/-- The call for the file with the dump, with an endpoint that is a URL but no target. -/
def misdirectedCall : Call :=
  { houseCall with options := { houseCall.options with otel := some "file:///x" } }

/-- Files that are only a directory without entries. -/
def bareFiles : FileSystem := ⟨.directory [], []⟩

theorem node_bareFiles : bareFiles.node "." = .ok (.directory []) := rfl

/-- A call for a directory without files, with room for some bytes of a report. -/
def bareCall (words : List String) (quiet : Bool) (room : Nat) : Call where
  options := { input := ".", quiet := quiet }
  arguments := ("annolint" :: words).map .text
  files := bareFiles
  breakOff := some ⟨room, .noSpace⟩

/-- The report about a directory without files. -/
def bareReport (words : List String) : Sarif.Report :=
  ⟨[NullAnnotations.info], ⟨"annolint" :: words, 0, 0, 0⟩, [], []⟩

section

variable (words : List String) (quiet : Bool) (room : Nat)

/-- The call gets as far as the writing of that report. -/
theorem isOpened_bareCall :
    (bareCall words quiet room).IsOpened registry ⟨bareReport words, none⟩ := by
  have hitems : Scan.items bareFiles "." = .ok [] := by
    rw [Scan.items, node_bareFiles]
    change Except.ok (Scan.itemsIn "." none (.directory [])) = _
    rw [Scan.itemsIn, Scan.itemsOf, Scan.inOrder, List.mergeSort_nil]
    rfl
  have hscan : Scan.scan bareFiles "." = .ok ⟨[], []⟩ := by
    rw [Scan.scan, Scan.loadAll_eq_of_items hitems]
    rfl
  have hinput : bareFiles.exists? "." = true := rfl
  have hready : (bareCall words quiet room).IsReady registry ⟨⟨[plainRule]⟩, none⟩ :=
    ⟨⟨⟨_, rfl, hinput⟩, {}, rfl, configure_registry_nil⟩, Or.inl ⟨rfl, rfl⟩⟩
  have hresults : Engine.analyze ⟨[plainRule]⟩ [] [] [] = .ok [] :=
    Engine.analyze_of_dispatch _ [] [] [] (List.forall_mem_nil _)
  have hanalysed : (bareCall words quiet room).IsAnalysed registry
      ⟨⟨⟨⟨[plainRule]⟩, none⟩, ⟨[], []⟩⟩, []⟩ := ⟨⟨hready, hscan⟩, hresults⟩
  have hwords : (bareCall words quiet room).arguments.map Argument.shown =
      "annolint" :: words := by
    simp [bareCall, Function.comp_def]
  refine ⟨⟨_, hanalysed, ?_⟩, ⟨"annolint" :: words, rfl⟩, Or.inl ⟨rfl, rfl⟩⟩
  rw [Call.report, hwords]
  rfl

/-- The call succeeds exactly if there is room for the report. -/
theorem exists_report_bareCall_iff :
    (∃ report, (run registry (bareCall words quiet room)).result = .ok report) ↔
      (bareReport words).document.utf8ByteSize < room := by
  have hopened := isOpened_bareCall words quiet room
  have hcompleted := Call.completed_of_isOpened hopened
  have hbreakOff : (bareCall words quiet room).breakOff? ⟨bareReport words, none⟩ =
      if room ≤ (bareReport words).document.utf8ByteSize then some ⟨room, .noSpace⟩ else none := by
    rw [Call.breakOff?, bareCall, Option.filter_some]
    simp
  rw [run, hcompleted, Call.writing, hbreakOff]
  by_cases h : room ≤ (bareReport words).document.utf8ByteSize
  · rw [if_pos h]
    constructor
    · rintro ⟨report, hreport⟩
      cases hreport
    · intro hlt
      exact absurd hlt (Nat.not_lt.mpr h)
  · rw [if_neg h]
    exact ⟨fun _ => Nat.lt_of_not_le h, fun _ => ⟨_, rfl⟩⟩

end

/-- A report whose invocation takes more bytes takes more bytes. -/
theorem document_bareReport_lt_of {words words' : List String}
    (h : String.utf8Len (Value.prettyChars 4 (bareReport words).invocation.value) <
      String.utf8Len (Value.prettyChars 4 (bareReport words').invocation.value)) :
    (bareReport words).document.utf8ByteSize < (bareReport words').document.utf8ByteSize := by
  have hdriver : (bareReport words).driver = (bareReport words').driver := rfl
  rw [Sarif.Report.document, Sarif.Report.document, Value.pretty, Value.pretty,
    String.utf8ByteSize_ofList, String.utf8ByteSize_ofList, Sarif.Report.value,
    Sarif.Report.value, Sarif.Report.runValue, Sarif.Report.runValue, hdriver]
  -- Both documents are put together from the same parts but for the invocation.
  simp only [bareReport, List.isEmpty_nil, if_true, Sarif.objectOf, Sarif.member, List.map_nil,
    List.filterMap_cons, List.filterMap_nil, id, Value.prettyChars, Value.prettyItems,
    Value.prettyMembers, String.utf8Len_append, String.utf8Len_cons, Nat.reduceAdd] at h ⊢
  omega

/-- One more word in a call makes its report longer. -/
theorem document_bareReport_lt : (bareReport ["--input", "."]).document.utf8ByteSize <
    (bareReport ["--input", ".", "--quiet"]).document.utf8ByteSize :=
  document_bareReport_lt_of (by decide +kernel)

/-- **A run can depend on how it is watched.** An endpoint that is a URL but no target ends a run
that succeeds without it. And where there is room for a report but not for a longer one, a run fails
that succeeds without the word that asks for it to be quiet. -/
theorem observation_changes_house :
    ((∃ url, Telemetry.endpoint "file:///x" = .ok url) ∧
      (∃ report, (run registry houseCall).result = .ok report) ∧
      ∃ cause, (run registry misdirectedCall).result = .error (.endpoint cause)) ∧
    ∃ room, (∃ report, (run registry (bareCall ["--input", "."] false room)).result =
        .ok report) ∧
      ¬∃ report, (run registry (bareCall ["--input", ".", "--quiet"] true room)).result =
        .ok report := by
  refine ⟨⟨?_, exists_report_house, ?_⟩, ?_⟩
  · obtain ⟨url, hurl⟩ := Option.isSome_iff_exists.mp
      (show (Telemetry.endpoint "file:///x").toOption.isSome = true from rfl)
    exact ⟨url, toOption_eq_some_iff.mp hurl⟩
  · have htarget : Telemetry.target "file:///x" = .error (.unusable "file:///x" .badFormat) := rfl
    exact ⟨_, Call.completed_eq_error_iff.mpr
      (Call.Stops.endpoint ⟨⟨_, rfl, rfl⟩, {}, rfl, configure_registry_nil⟩ rfl htarget)⟩
  · refine ⟨_, (exists_report_bareCall_iff _ _ _).mpr document_bareReport_lt, fun h => ?_⟩
    exact Nat.lt_irrefl _ ((exists_report_bareCall_iff _ _ _).mp h)

end Program

end NullLint
