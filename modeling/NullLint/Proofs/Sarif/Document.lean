import Mathlib.Data.List.Forall2
import NullLint.Json.Fault
import NullLint.Sarif

set_option autoImplicit false
set_option relaxedAutoImplicit false

/-!
# What stands where in a report

A place in a JSON document is given by the path that leads to it from the outermost value. A report
has its only run at a fixed place, and in it the files, the counts, the results and the rules at
fixed places again.

## Main definitions

* `Json.Value.at?` — the value to which a path leads.
* `Sarif.IsDocument` — a JSON value has the form of a report.

## Main results

* `Sarif.Report.isDocument_value` — every report has this form.
* `Sarif.Report.at?_artifacts`, `Sarif.Report.at?_invocation`, `Sarif.Report.at?_results`,
  `Sarif.Report.at?_rule` — the parts of a report.
* `Sarif.Artifact.at?_uri`, `Sarif.Artifact.at?_length` — what a report says about a file.
-/

namespace NullLint

namespace Json

instance : Coe String Step := ⟨.key⟩

instance : Coe Nat Step := ⟨.index⟩

instance (i : Nat) : OfNat Step i := ⟨.index i⟩

namespace Value

/-- The value to which one step leads. -/
def child? : Value → Step → Option Value
  | .object members, .key k => (members.find? fun m => m.1 == k).map (·.2)
  | .array items, .index i => items[i]?
  | _, _ => none

/-- The value to which a path leads. -/
def at? (v : Value) : Path → Option Value
  | [] => some v
  | s :: ss => (v.child? s).bind fun w => w.at? ss

theorem at?_array_item (items : List Value) (i : Nat) (ss : Path) :
    (array items).at? (.index i :: ss) = items[i]?.bind fun v => v.at? ss := rfl

end Value

end Json

namespace Sarif

open Json

namespace Artifact

/-- The location of a file that was analysed. -/
theorem at?_uri (uri : String) (length : Nat) :
    (analysed uri length).value.at? ["location", "uri"] = some (.string uri) := rfl

/-- The length of a file that was analysed. -/
theorem at?_length (uri : String) (length : Nat) :
    (analysed uri length).value.at? ["length"] = some (.nat length) := rfl

end Artifact

namespace Report

variable (r : Report)

/-- The only run of a report. -/
theorem at?_run (ss : Path) : r.value.at? ("runs" :: 0 :: ss) = r.runValue.at? ss := rfl

/-- The files of a report. They are left out if there are none. -/
theorem at?_artifacts (ss : Path) :
    r.value.at? ("runs" :: 0 :: "artifacts" :: ss) =
      if r.artifacts.isEmpty then none
      else (Value.array (r.artifacts.map Artifact.value)).at? ss := by
  rw [at?_run, runValue]
  cases r.artifacts.isEmpty <;> rfl

/-- The invocation of a report. -/
theorem at?_invocation (ss : Path) :
    r.value.at? ("runs" :: 0 :: "invocations" :: 0 :: ss) = r.invocation.value.at? ss := by
  rw [at?_run, runValue]
  cases r.artifacts.isEmpty <;> rfl

/-- The results of a report. -/
theorem at?_results (ss : Path) :
    r.value.at? ("runs" :: 0 :: "results" :: ss) =
      (Value.array (r.results.map Result.value)).at? ss := by
  rw [at?_run, runValue]
  cases r.artifacts.isEmpty <;> rfl

/-- The identifier of a rule of a report. -/
theorem at?_rule (j : Nat) :
    r.value.at? ["runs", 0, "tool", "driver", "rules", j, "id"] =
      r.rules[j]?.map fun info => .string info.id := by
  have hdriver : r.value.at? ["runs", 0, "tool", "driver", "rules", j, "id"] =
      r.driver.at? ["rules", j, "id"] := by
    rw [at?_run, runValue]
    cases r.artifacts.isEmpty <;> rfl
  have hrules : r.driver.at? ["rules", j, "id"] =
      (Value.array (r.rules.map descriptor)).at? [.index j, "id"] := by
    rw [driver]
    cases r.rules <;> rfl
  rw [hdriver, hrules, Value.at?_array_item, List.getElem?_map]
  cases r.rules[j]? <;> rfl

end Report

/-- A JSON value has the form of a report in the format. It names the schema and the version of the
format and has one run. The run names the program, tells that it was called by some words and
succeeded, and has results, each with the identifier of its rule and its message. -/
structure IsDocument (v : Value) (words : List String) (results : List Result) : Prop where
  schema : v.at? ["$schema"] =
    some (.string "https://schemastore.azurewebsites.net/schemas/json/sarif-2.1.0.json")
  version : v.at? ["version"] = some (.string "2.1.0")
  run : ∃ run, v.at? ["runs"] = some (.array [run])
  driver : v.at? ["runs", 0, "tool", "driver", "name"] = some (.string "annolint") ∧
    v.at? ["runs", 0, "tool", "driver", "version"] = some (.string "0.1.0")
  invocation : ∃ invocation, v.at? ["runs", 0, "invocations"] = some (.array [invocation]) ∧
    invocation.at? ["executionSuccessful"] = some (.bool true) ∧
    invocation.at? ["arguments"] = some (.array (words.map .string)) ∧
    invocation.at? ["commandLine"] = some (.string (" ".intercalate words))
  results : ∃ vs, v.at? ["runs", 0, "results"] = some (.array vs) ∧
    List.Forall₂ (fun (r : Result) w => w.at? ["ruleId"] = some (.string r.ruleId) ∧
      w.at? ["message", "text"] = some (.string r.message)) results vs

/-- Every report has the form of the format. -/
theorem Report.isDocument_value (r : Report) :
    IsDocument r.value r.invocation.arguments r.results where
  schema := rfl
  version := rfl
  run := ⟨_, rfl⟩
  driver := by
    have hdriver : ∀ key : String, r.value.at? ["runs", 0, "tool", "driver", key] =
        r.driver.at? [.key key] := by
      intro key
      rw [at?_run, runValue]
      cases r.artifacts.isEmpty <;> rfl
    rw [hdriver, hdriver, driver]
    cases r.rules.isEmpty <;> exact ⟨rfl, rfl⟩
  invocation := by
    refine ⟨r.invocation.value, ?_, rfl, rfl, rfl⟩
    rw [at?_run, runValue]
    cases r.artifacts.isEmpty <;> rfl
  results := by
    refine ⟨r.results.map Result.value, at?_results r [], ?_⟩
    rw [List.forall₂_map_right_iff, List.forall₂_same]
    exact fun _ _ => ⟨rfl, rfl⟩

end Sarif

end NullLint
