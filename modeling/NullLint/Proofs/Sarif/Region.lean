import Mathlib.Logic.Basic
import Mathlib.Tactic.SplitIfs
import NullLint.Proofs.Sarif.Document

set_option autoImplicit false
set_option relaxedAutoImplicit false

/-!
# The regions of a report

A region says where in a file something starts, by a line and a column that both count from one. A
report has regions only in the places of its results, one for each result that has a place.

## Main definitions

* `Json.Value.HasMember` — a value has a member of some name, at any depth.
* `Sarif.IsOneBased` — line and column of a region count from one.
* `Sarif.regionAt` — the region of a position.

## Main results

* `Sarif.isOneBased_regionAt_iff` — the region of a position counts from one if the position does.
* `Sarif.Report.hasRegion_iff` — the regions of a report are those of the places of its results.
-/

namespace NullLint

namespace Json.Value

/-- Somewhere in a value there is an object with a member of that name and that value. -/
inductive HasMember (name : String) : Value → Value → Prop
  | here {members : List (String × Value)} {w : Value} (h : (name, w) ∈ members) :
    HasMember name (.object members) w
  | inside {members : List (String × Value)} {m : String × Value} {w : Value} (hm : m ∈ members)
    (h : HasMember name m.2 w) : HasMember name (.object members) w
  | item {items : List Value} {v w : Value} (hv : v ∈ items) (h : HasMember name v w) :
    HasMember name (.array items) w

section

variable {name : String} {w : Value}

@[simp]
theorem hasMember_object {members : List (String × Value)} :
    (object members).HasMember name w ↔ ∃ m ∈ members, m = (name, w) ∨ m.2.HasMember name w := by
  constructor
  · intro h
    cases h with
    | here h => exact ⟨_, h, Or.inl rfl⟩
    | inside hm h => exact ⟨_, hm, Or.inr h⟩
  · rintro ⟨m, hm, rfl | h⟩
    · exact .here hm
    · exact .inside hm h

@[simp]
theorem hasMember_array {items : List Value} :
    (array items).HasMember name w ↔ ∃ v ∈ items, v.HasMember name w := by
  constructor
  · intro h
    cases h with
    | item hv h => exact ⟨_, hv, h⟩
  · rintro ⟨v, hv, h⟩
    exact .item hv h

@[simp]
theorem not_hasMember_string (s : String) : ¬(string s).HasMember name w := by
  rintro ⟨⟩

@[simp]
theorem not_hasMember_bool (b : Bool) : ¬(bool b).HasMember name w := by
  rintro ⟨⟩

@[simp]
theorem not_hasMember_nat (n : Nat) : ¬(nat n).HasMember name w := by
  rintro ⟨⟩

end

end Json.Value

namespace Sarif

open Json

/-- A region counts lines and columns from one. -/
def IsOneBased (region : Value) : Prop :=
  ∃ line column, region.at? ["startLine"] = some (.nat line) ∧
    region.at? ["startColumn"] = some (.nat column) ∧ 1 ≤ line ∧ 1 ≤ column

/-- The region of a position, as it stands in a report. -/
def regionAt (p : Syntax.Position) : Value :=
  .object [("startColumn", .nat p.column.toNat), ("startLine", .nat p.line.toNat)]

/-- The region of a position counts from one if the position does. -/
theorem isOneBased_regionAt_iff {p : Syntax.Position} :
    IsOneBased (regionAt p) ↔ 1 ≤ p.line ∧ 1 ≤ p.column := by
  have hline : (regionAt p).at? ["startLine"] = some (.nat p.line.toNat) := rfl
  have hcolumn : (regionAt p).at? ["startColumn"] = some (.nat p.column.toNat) := rfl
  rw [IsOneBased, hline, hcolumn, UInt32.le_iff_toNat_le, UInt32.le_iff_toNat_le]
  constructor
  · rintro ⟨line, column, hl, hc, h⟩
    simp only [Value.nat, Option.some.injEq, Value.number.injEq, Number.integer.injEq,
      Int.natCast_inj] at hl hc
    rw [hl, hc]
    exact h
  · exact fun h => ⟨_, _, rfl, rfl, h⟩

/-! ## Where there are regions -/

section

variable {region : Value}

@[simp]
theorem hasMember_objectOf {name : String} {w : Value} {ms : List (Option (String × Value))} :
    (objectOf ms).HasMember name w ↔ ∃ m, some m ∈ ms ∧ (m = (name, w) ∨ m.2.HasMember name w) := by
  rw [objectOf, Value.hasMember_object]
  simp [List.mem_filterMap]

theorem Artifact.not_hasRegion (a : Artifact) : ¬a.value.HasMember "region" region := by
  rcases a with ⟨_ | ⟨_ | l⟩, _ | n, _ | ⟨role, roles⟩⟩ <;>
    simp [value, ArtifactLocation.value, member]

theorem not_hasRegion_descriptor (info : RuleInfo) :
    ¬(descriptor info).HasMember "region" region := by
  simp [descriptor, message]

theorem Invocation.not_hasRegion (i : Invocation) : ¬i.value.HasMember "region" region := by
  simp [value]

theorem Result.hasRegion_iff {r : Result} : r.value.HasMember "region" region ↔
    ∃ p, r.location.physical = some p ∧ region = regionAt p.position := by
  rcases r with ⟨ruleId, text, ⟨subject, _ | p⟩, key⟩ <;>
    simp [value, Sarif.message, Location.value, PhysicalLocation.value, member, regionAt, eq_comm]

theorem Report.not_hasRegion_driver (r : Report) : ¬r.driver.HasMember "region" region := by
  rw [driver]
  split_ifs <;> simp [member, not_hasRegion_descriptor]

/-- The regions of a report are those of the places of its results. -/
theorem Report.hasRegion_iff {r : Report} : r.value.HasMember "region" region ↔
    ∃ x ∈ r.results, ∃ p, x.location.physical = some p ∧ region = regionAt p.position := by
  rw [value, runValue]
  split_ifs <;>
    simp [member, Artifact.not_hasRegion, Invocation.not_hasRegion, Result.hasRegion_iff,
      r.not_hasRegion_driver]

end

end Sarif

end NullLint
