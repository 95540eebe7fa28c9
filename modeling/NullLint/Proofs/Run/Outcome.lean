import NullLint.Proofs.Run.Report
import NullLint.Proofs.Text.Cut

set_option autoImplicit false
set_option relaxedAutoImplicit false

/-!
# What comes of a run

The stages of a run decide what it leaves behind. A run that fails before its output is opened
leaves nothing; a run that succeeds leaves its report in one place.

## Main definitions

* `Path.IsHyphen` — a path that asks for a report to be printed.

## Main results

* `Program.run_in_stages` — **what comes of a run**, by the first stage that fails.
* `Program.hyphen_not_written` — a report is printed also for a hyphen with a slash behind it, and a
  word that is no text ends a run for which all is well up to the analysis.
-/

namespace NullLint

namespace Path

/-- A path stands for a hyphen: nothing but slashes, and points for the directory itself, follow the
hyphen. -/
def IsHyphen (path : String) : Prop :=
  ∃ rest : List String, Text.ArePieces '/' path ("-" :: rest) ∧ ∀ c ∈ rest, c = "" ∨ c = "."

theorem isJust_hyphen_iff {path : String} : isJust "-" path = true ↔ IsHyphen path := by
  have hrest : ∀ rest : List String,
      Text.ArePieces '/' path ("-" :: rest) ↔ components path = "-" :: rest := fun rest =>
    Text.pieces_eq_iff.symm
  simp only [IsHyphen, hrest, isJust]
  cases hcs : components path with
  | nil => simp
  | cons c cs => simp [and_comm]

end Path

namespace Program

variable (rules : List Rule) (call : Call)

/-- The file that gets a report is the one that is asked for, unless its path stands for a
hyphen. -/
theorem outputPath?_eq_some_iff {path : String} :
    call.outputPath? = some path ↔
      ∃ word, call.options.output = some word ∧ word.shown = path ∧ ¬Path.IsHyphen path := by
  rw [Call.outputPath?, Option.filter_eq_some_iff, Option.map_eq_some_iff,
    ← Path.isJust_hyphen_iff, ← exists_and_right]
  simp only [and_assoc, Bool.not_eq_true', Bool.not_eq_true]

/-- **What comes of a run.** The error of a run is that of the first stage that fails. If that is
before the output is opened, no file changes and nothing is printed; if it is before the scan, no
span is recorded. A run that succeeds has the report of its analysis and delivers it: it is printed,
or the file that is asked for changes and no other. A path that stands for a hyphen asks for no
file.

**Proof sketch.** Each stage is an attempt after the one before it, so it is reached only if that
one succeeds. Files and printed text come from the last stage alone, and spans are recorded from the
scan on. -/
theorem run_in_stages :
    (∀ e, (run rules call).result = .error e ↔ call.Stops rules e) ∧
    (∀ e, (run rules call).result = .error e → e.PrecedesOutput →
      (run rules call).files = call.files ∧ (run rules call).printed = "") ∧
    (∀ e, (run rules call).result = .error e → e.PrecedesScan →
      (run rules call).recorder = none) ∧
    (∀ report, (run rules call).result = .ok report →
      (∃ a, call.IsAnalysed rules a ∧ report = call.report a) ∧
      Outcome.Delivers call (run rules call) report) ∧
    ∀ path, call.outputPath? = some path ↔
      ∃ word, call.options.output = some word ∧ word.shown = path ∧ ¬Path.IsHyphen path := by
  refine ⟨fun e => Call.completed_eq_error_iff, ?_, ?_, ?_, fun path => ?_⟩
  · intro e he hprecedes
    have hstops := Call.completed_eq_error_iff.mp he
    have hopened : call.opened rules = .error e :=
      Call.opened_eq_error_iff.mpr (Or.inl ⟨hstops, hprecedes⟩)
    have hleft := left_of_opened_eq_error rules call hopened
    exact ⟨congrArg Prod.fst hleft, congrArg Prod.snd hleft⟩
  · intro e he hprecedes
    have hstops := Call.completed_eq_error_iff.mp he
    have hready := Call.ready_eq_error_iff.mpr ⟨hstops, hprecedes⟩
    simp [run, Call.recorder?, Call.target?, hready]
  · intro report hreport
    obtain ⟨o, ho, -, rfl⟩ := Call.completed_eq_ok_iff.mp hreport
    exact ⟨ho.report, delivers_run rules call hreport⟩
  · exact outputPath?_eq_some_iff call

/-! ## Runs for the file with the dump -/

/-- A call for the file with the dump that asks for the report in some place. -/
def houseCallTo (output : Argument) : Call :=
  { houseCall with
    options := { houseCall.options with output := some output }
    arguments := ("annolint" :: houseWords ++ ["--output"]).map .text ++ [output] }

/-- Such a call gets through the analysis. -/
theorem exists_isAnalysed_houseCallTo (output : Argument) :
    ∃ a, (houseCallTo output).IsAnalysed registry a := by
  obtain ⟨found, results, hscan, hresults⟩ := exists_results_house
  have hready : (houseCallTo output).IsReady registry ⟨⟨[plainRule]⟩, none⟩ :=
    ⟨⟨⟨_, rfl, rfl⟩, {}, rfl, configure_registry_nil⟩, Or.inl ⟨rfl, rfl⟩⟩
  exact ⟨⟨⟨⟨⟨[plainRule]⟩, none⟩, found⟩, results⟩, ⟨hready, hscan⟩, hresults⟩

/-- Such a call succeeds if its output is a text and can be opened. -/
theorem exists_report_houseCallTo {output : String} {place : Option (List String)}
    (hplace : ((houseCallTo output).outputPath? = none ∧ place = none) ∨
      ∃ path names, (houseCallTo output).outputPath? = some path ∧
        houseCall.files.place path = .ok names ∧ place = some names) :
    ∃ report, (run registry (houseCallTo output)).result = .ok report := by
  obtain ⟨a, ha⟩ := exists_isAnalysed_houseCallTo output
  have hopened : (houseCallTo output).IsOpened registry ⟨(houseCallTo output).report a, place⟩ :=
    ⟨⟨a, ha, rfl⟩, ⟨"annolint" :: houseWords ++ ["--output", output], rfl⟩, hplace⟩
  exact ⟨_, Call.completed_eq_ok_iff.mpr ⟨_, hopened, rfl, rfl⟩⟩

/-- The report of a call that asks for it in a file is in that file, and the file with the dump is
as it was. -/
theorem run_in_stages_house : ∃ report,
    (run registry (houseCallTo "out.sarif")).result = .ok report ∧
    (run registry (houseCallTo "out.sarif")).printed = "" ∧
    (run registry (houseCallTo "out.sarif")).files.read "out.sarif" = .ok report.text.toUTF8 ∧
    (run registry (houseCallTo "out.sarif")).files.root.fileAt ["house.json"] =
      some (houseText.toUTF8, {}) ∧
    report.value.at? ["version"] = some (.string "2.1.0") := by
  have hpath : (houseCallTo "out.sarif").outputPath? = some "out.sarif" := rfl
  have hplace : houseCall.files.place "out.sarif" = .ok ["out.sarif"] := rfl
  obtain ⟨report, hreport⟩ := exists_report_houseCallTo (Or.inr ⟨_, _, hpath, hplace, rfl⟩)
  obtain ⟨-, -, -, hsuccess, -⟩ := run_in_stages registry (houseCallTo "out.sarif")
  obtain ⟨-, hdelivers⟩ := hsuccess report hreport
  obtain ⟨hprinted, hdiffers⟩ := hdelivers.written "out.sarif" hpath
  obtain ⟨names, hnames, -, hread, -, hothers⟩ := hdiffers.file
  obtain rfl : ["out.sarif"] = names := Except.ok.inj (hplace.symm.trans hnames)
  obtain ⟨words, -, hform⟩ := hdelivers.form
  refine ⟨report, hreport, hprinted, hread rfl, ?_, hform.version⟩
  rw [hothers ["house.json"] (by decide)]
  rfl

/-- A word that is no text. -/
def garbledWord : Argument := .garbled ⟨#[0xFF]⟩ rfl

/-- **A run need not write to the path that is asked for, and it need not come to an error.** A
hyphen with a slash behind it is a path to which nothing can be written, but a run for which it is
asked succeeds and prints the report. And where the path is no text, all is well up to the analysis,
but the run ends by a panic. -/
theorem hyphen_not_written :
    (∃ report, (run registry (houseCallTo "-/")).result = .ok report ∧
      (run registry (houseCallTo "-/")).printed = report.text ∧
      (run registry (houseCallTo "-/")).files = houseCall.files ∧
      ∀ content, houseCall.files.read "-/" ≠ .ok content) ∧
    (∃ a, (houseCallTo garbledWord).IsAnalysed registry a) ∧
      (run registry (houseCallTo garbledWord)).result = .error (.garbled garbledWord) := by
  have hpath : (houseCallTo "-/").outputPath? = none := rfl
  obtain ⟨report, hreport⟩ := exists_report_houseCallTo (Or.inl ⟨hpath, rfl⟩)
  obtain ⟨hprinted, hfiles⟩ := (delivers_run registry _ hreport).printed hpath
  obtain ⟨a, ha⟩ := exists_isAnalysed_houseCallTo garbledWord
  refine ⟨⟨report, hreport, hprinted, hfiles, fun content hread => ?_⟩, ⟨a, ha⟩, ?_⟩
  · have hnone : houseCall.files.read "-/" = .error .noEntry := rfl
    rw [hnone] at hread
    cases hread
  · refine Call.completed_eq_error_iff.mpr (Call.Stops.garbled ha rfl fun s h => ?_)
    cases h

end Program

end NullLint
