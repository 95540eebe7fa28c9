import Mathlib.Tactic.SplitIfs
import NullLint.Proofs.Json.Printing
import NullLint.Sarif

set_option autoImplicit false
set_option relaxedAutoImplicit false

/-!
# What reports and their results tell

A result names the rule and repeats the diagnostic. It has a place exactly if the index of the tree
designates a file whose location is known. A report is written as one JSON document.

## Main definitions

* `Sarif.Designates` — an index designates a file with a location.
* `Sarif.Result.Tells` — a result tells of a diagnostic of a rule.

## Main results

* `Sarif.artifactUri_eq_some_iff` — looking up an index finds the location of the file it
  designates.
* `Sarif.Result.tells_ofDiagnostic` — the result of a diagnostic tells of it.
* `Sarif.Report.exists_isTextOf_document` — the document of a report is JSON text that stands for
  the report.
-/

namespace NullLint.Sarif

/-- An index designates the file at that position of the list, and the location of the file is
known. -/
inductive Designates (artifacts : List Artifact) : Int → String → Prop
  | intro (i : Nat) (a : Artifact) (l : ArtifactLocation) (uri : String)
      (hfile : artifacts[i]? = some a) (hlocation : a.location = some l) (huri : l.uri = some uri) :
      Designates artifacts (Int.ofNat i) uri

/-- Looking up an index finds the location of the file that it designates. -/
theorem artifactUri_eq_some_iff {artifacts : List Artifact} {index : Int} {uri : String} :
    artifactUri artifacts index = some uri ↔ Designates artifacts index uri := by
  constructor
  · intro h
    cases index with
    | negSucc i => cases h
    | ofNat i =>
      obtain ⟨a, hfile, ha⟩ := Option.bind_eq_some_iff.mp h
      obtain ⟨l, hlocation, huri⟩ := Option.bind_eq_some_iff.mp ha
      exact Designates.intro i a l uri hfile hlocation huri
  · intro h
    cases h with
    | intro i a l uri hfile hlocation huri =>
      show artifacts[i]?.bind Artifact.uri? = some uri
      rw [hfile, Option.bind_some, Artifact.uri?, hlocation, Option.bind_some, huri]

namespace Result

/-- A result tells of a diagnostic of a rule about a tree with an index: it has the identifier of
the rule and the message, the key and the subject of the diagnostic, and its place is that of the
diagnostic in the file that the index designates, if it designates one. -/
structure Tells (artifacts : List Artifact) (index : Int) (ruleId : String) (d : Diagnostic)
    (r : Result) : Prop where
  rule : r.ruleId = ruleId
  message : r.message = d.message
  key : r.messageKey = d.key
  subject : r.location.subject = d.subject
  place : ∀ p, r.location.physical = some p ↔
    p.position = d.position ∧ Designates artifacts index p.uri

/-- The result of a diagnostic tells of it. -/
theorem tells_ofDiagnostic (artifacts : List Artifact) (index : Int) (ruleId : String)
    (d : Diagnostic) :
    Tells artifacts index ruleId d (ofDiagnostic ruleId (artifactUri artifacts index) d) where
  rule := rfl
  message := rfl
  key := rfl
  subject := rfl
  place := by
    rintro ⟨uri, position⟩
    rw [← artifactUri_eq_some_iff, ofDiagnostic, Location.of]
    cases artifactUri artifacts index with
    | none => simp
    | some found => simp [and_comm, eq_comm]

end Result

/-! ## Documents -/

section

open Json

variable {p : Int → Prop}

@[simp]
theorem allIntegers_objectOf {ms : List (Option (String × Value))} :
    (objectOf ms).AllIntegers p ↔ ∀ m, some m ∈ ms → m.2.AllIntegers p := by
  rw [objectOf, Value.allIntegers_object]
  simp [List.mem_filterMap]

theorem Artifact.allIntegers_value (a : Artifact) : a.value.AllIntegers fun _ => True := by
  rcases a with ⟨_ | ⟨_ | l⟩, _ | n, roles⟩ <;>
    simp [value, ArtifactLocation.value, member]

theorem Location.allIntegers_value (l : Location) : l.value.AllIntegers fun _ => True := by
  rcases l with ⟨subject, _ | physical⟩ <;> simp [value, PhysicalLocation.value, member]

theorem Result.allIntegers_value (r : Result) : r.value.AllIntegers fun _ => True := by
  simp [value, Sarif.message, r.location.allIntegers_value]

theorem allIntegers_descriptor (info : RuleInfo) :
    (descriptor info).AllIntegers fun _ => True := by
  simp [descriptor, message]

theorem Invocation.allIntegers_value (i : Invocation) : i.value.AllIntegers fun _ => True := by
  simp [value]

theorem Report.allIntegers_driver (r : Report) : r.driver.AllIntegers fun _ => True := by
  have hrules : (Value.array (r.rules.map descriptor)).AllIntegers fun _ => True := by
    simp [allIntegers_descriptor]
  rw [driver]
  split_ifs <;> simp [member, hrules, -Value.allIntegers_array]

theorem Report.allIntegers_runValue (r : Report) : r.runValue.AllIntegers fun _ => True := by
  have hartifacts : (Value.array (r.artifacts.map Artifact.value)).AllIntegers fun _ => True := by
    simp [Artifact.allIntegers_value]
  have hresults : (Value.array (r.results.map Result.value)).AllIntegers fun _ => True := by
    simp [Result.allIntegers_value]
  have hinvocations : (Value.array [r.invocation.value]).AllIntegers fun _ => True := by
    simp [Invocation.allIntegers_value]
  rw [runValue]
  split_ifs <;>
    simp [member, hartifacts, hresults, hinvocations, r.allIntegers_driver,
      -Value.allIntegers_array]

/-- The numbers of a report are integers. -/
theorem Report.allIntegers_value (r : Report) : r.value.AllIntegers fun _ => True := by
  simp [value, r.allIntegers_runValue]

/-- The document of a report is JSON text. If all numbers of the report have 64 bits, it stands for
the report. -/
theorem Report.exists_isTextOf_document (r : Report) :
    ∃ d : Draft, d.IsTextOf r.document ∧ (r.value.AllIntegers IsExact → d.Denotes r.value) := by
  by_cases hexact : r.value.AllIntegers IsExact
  · obtain ⟨d, htext, hden⟩ := Value.exists_isTextOf_pretty hexact
    exact ⟨d, htext, fun _ => hden fun _ => id⟩
  · obtain ⟨d, htext, -⟩ := Value.exists_isTextOf_pretty r.allIntegers_value
    exact ⟨d, htext, fun h => absurd h hexact⟩

end

end NullLint.Sarif
