import Mathlib.Data.List.Nodup
import NullLint.Proofs.Json.Value

set_option autoImplicit false
set_option relaxedAutoImplicit false

/-!
# Records that consist of fields

A record has some fields and treats all other members alike: it keeps them as values, or skips them.
A field is described by its name, its place in the record and the decoder of its data; that each
field has a place of its own, and the other members have one too, is all that has to be known to say
what the record holds.

## Main definitions

* `Json.Slot`, `Json.Record` — fields, and records that consist of them.
* `Json.Record.Holds` — what a record holds of some members.
* `Json.Record.Independent`, `Json.Record.Lawful` — a record takes members as its fields say.

## Main results

* `Json.Record.Lawful.takes` — **a record that takes members as its fields say holds what it
  takes.**
-/

namespace NullLint.Json

variable {σ ρ : Type}

/-- A field of a record: its name, its place in the record, and how its data are decoded. -/
structure Slot (σ : Type) where
  name : String
  Data : Type
  get : σ → Option Data
  set : Option Data → σ → σ
  decode : Draft → Except Located Data
  Holds : Draft → Data → Prop

/-- A record that has some fields, and a place for what it holds of all other members. -/
structure Record (σ ρ : Type) where
  slots : List (Slot σ)
  others : σ → ρ
  setOthers : ρ → σ → σ

namespace Record

/-- The names of the fields of a record. -/
def known (R : Record σ ρ) : List String := R.slots.map Slot.name

/-- What a record holds of some members: its fields hold the data of their names, and there is
something that it holds of the other members. -/
structure Holds (R : Record σ ρ) (HoldsOthers : List (String × Draft) → ρ → Prop)
    (ms : List (String × Draft)) (r : σ) : Prop where
  fields : ∀ s ∈ R.slots, Field s.name s.Holds ms (s.get r)
  others : HoldsOthers (ms.filter fun m => m.1 ∉ R.known) (R.others r)

/-- Each field of a record has a place of its own, and so have the other members. -/
structure Independent (R : Record σ ρ) : Prop where
  nodup : R.known.Nodup
  get_set : ∀ s ∈ R.slots, ∀ o r, s.get (s.set o r) = o
  set_get : ∀ s ∈ R.slots, ∀ r, s.set (s.get r) r = r
  set_set : ∀ s ∈ R.slots, ∀ o o' r, s.set o (s.set o' r) = s.set o r
  get_set_of_ne : ∀ s ∈ R.slots, ∀ t ∈ R.slots, t.name ≠ s.name → ∀ o r,
    t.get (s.set o r) = t.get r
  others_set : ∀ s ∈ R.slots, ∀ o r, R.others (s.set o r) = R.others r
  get_setOthers : ∀ s ∈ R.slots, ∀ w r, s.get (R.setOthers w r) = s.get r
  others_setOthers : ∀ w r, R.others (R.setOthers w r) = w
  setOthers_others : ∀ r, R.setOthers (R.others r) r = r
  setOthers_setOthers : ∀ w w' r, R.setOthers w (R.setOthers w' r) = R.setOthers w r

/-- A record takes members as its fields say: a field is claimed if it is empty, and it is filled
with the data of the member; any other member is taken as all of them are. -/
structure Lawful (R : Record σ ρ) (l : Nat) (takeOther : ρ → String → Draft → Except Located ρ)
    (none : ρ) (claim : σ → String → Except Fault Unit)
    (take : σ → String → Draft → Except Located σ) (start : σ) : Prop extends R.Independent where
  decodes : ∀ s ∈ R.slots, Decodes l s.decode s.Holds
  start : ∀ r, r = start ↔ (∀ s ∈ R.slots, s.get r = .none) ∧ R.others r = none
  claim_slot : ∀ s ∈ R.slots, ∀ r, claim r s.name = .ok () ↔ s.get r = .none
  take_slot : ∀ s ∈ R.slots, ∀ r v, take r s.name v = do
    let a ← within (.key s.name) (s.decode v)
    return s.set (some a) r
  claim_other : ∀ name, name ∉ R.known → ∀ r, claim r name = .ok ()
  take_other : ∀ name, name ∉ R.known → ∀ r v, take r name v = do
    let w ← takeOther (R.others r) name v
    return R.setOthers w r

variable {R : Record σ ρ} {l : Nat} {takeOther : ρ → String → Draft → Except Located ρ} {none : ρ}
  {claim : σ → String → Except Fault Unit} {take : σ → String → Draft → Except Located σ}
  {start : σ} {Fits : String → Draft → Prop} {HoldsOthers : List (String × Draft) → ρ → Prop}

theorem filter_append_of_mem {name : String} (h : name ∈ R.known) (ms : List (String × Draft))
    (v : Draft) : (ms ++ [(name, v)]).filter (fun m => m.1 ∉ R.known) =
      ms.filter fun m => m.1 ∉ R.known := by
  simp [h]

theorem filter_append_of_not_mem {name : String} (h : name ∉ R.known) (ms : List (String × Draft))
    (v : Draft) : (ms ++ [(name, v)]).filter (fun m => m.1 ∉ R.known) =
      ms.filter (fun m => m.1 ∉ R.known) ++ [(name, v)] := by
  simp [h]

/-- A record that takes members as its fields say holds what it takes.

**Proof sketch.** A member of the name of a field changes that field alone, and any other member
changes what the record holds of the other members alone. -/
theorem Lawful.takes (h : R.Lawful l takeOther none claim take start)
    (hothers : Takes Fits (fun _ _ => .ok ()) takeOther none HoldsOthers) :
    Takes (fun name v => if name ∈ R.known then v.depth ≤ l else Fits name v) claim take start
      (R.Holds HoldsOthers) where
  start := by
    intro r
    rw [h.start]
    constructor
    · rintro ⟨hfields, hr⟩
      exact ⟨fun s hs => field_nil_iff.mp (hfields s hs), hothers.start.mp hr⟩
    · rintro ⟨hfields, hr⟩
      exact ⟨fun s hs => field_nil_iff.mpr (hfields s hs), hothers.start.mpr hr⟩
  sound := by
    intro ms r name v r' hr hclaim htake
    by_cases hname : name ∈ R.known
    · obtain ⟨s, hs, rfl⟩ := List.mem_map.mp hname
      rw [h.take_slot s hs, bind_pure_eq_map, map_eq_ok_iff] at htake
      obtain ⟨a, ha, rfl⟩ := htake
      refine ⟨fun t ht => ?_, ?_⟩
      · by_cases hts : t.name = s.name
        · obtain rfl := List.inj_on_of_nodup_map h.nodup ht hs hts
          rw [h.get_set t ht]
          refine field_append_self.mpr ⟨?_, a, (h.decodes t ht).sound (within_eq_ok_iff.mp ha), rfl⟩
          exact (h.claim_slot t ht r).mp hclaim ▸ hr.fields t ht
        · rw [h.get_set_of_ne s hs t ht hts]
          exact (field_append_of_ne (Ne.symm hts)).mpr (hr.fields t ht)
      · rw [h.others_set s hs, filter_append_of_mem hname]
        exact hr.others
    · rw [h.take_other name hname, bind_pure_eq_map, map_eq_ok_iff] at htake
      obtain ⟨w, hw, rfl⟩ := htake
      refine ⟨fun t ht => ?_, ?_⟩
      · rw [h.get_setOthers t ht]
        have hne : name ≠ t.name := fun heq => hname (heq ▸ List.mem_map_of_mem ht)
        exact (field_append_of_ne hne).mpr (hr.fields t ht)
      · rw [h.others_setOthers, filter_append_of_not_mem hname]
        exact hothers.sound hr.others rfl hw
  complete := by
    intro ms name v r' hr'
    by_cases hname : name ∈ R.known
    · obtain ⟨s, hs, rfl⟩ := List.mem_map.mp hname
      obtain ⟨hnone, a, ha, hget⟩ := field_append_self.mp (hr'.fields s hs)
      -- before the last member its field was empty, and the rest was as it is now
      have hset : s.set (some a) (s.set .none r') = r' := by
        rw [h.set_set s hs, ← hget, h.set_get s hs]
      refine ⟨s.set .none r', ⟨fun t ht => ?_, ?_⟩, (h.claim_slot s hs _).mpr (h.get_set s hs _ _),
        ?_⟩
      · by_cases hts : t.name = s.name
        · obtain rfl := List.inj_on_of_nodup_map h.nodup ht hs hts
          rw [h.get_set t ht]
          exact hnone
        · rw [h.get_set_of_ne s hs t ht hts]
          exact (field_append_of_ne (Ne.symm hts)).mp (hr'.fields t ht)
      · rw [h.others_set s hs, ← filter_append_of_mem hname ms v]
        exact hr'.others
      · rw [h.take_slot s hs, bind_pure_eq_map, if_pos hname]
        have hyields := (((h.decodes s hs).yields ha).within (.key s.name)).map fun a =>
          s.set (some a) (s.set .none r')
        rwa [hset] at hyields
    · have hrest := hr'.others
      rw [filter_append_of_not_mem hname] at hrest
      obtain ⟨w, hw, -, hyields⟩ := hothers.complete hrest
      refine ⟨R.setOthers w r', ⟨fun t ht => ?_, ?_⟩, h.claim_other name hname _, ?_⟩
      · rw [h.get_setOthers t ht]
        have hne : name ≠ t.name := fun heq => hname (heq ▸ List.mem_map_of_mem ht)
        exact (field_append_of_ne hne).mp (hr'.fields t ht)
      · rw [h.others_setOthers]
        exact hw
      · rw [h.take_other name hname, h.others_setOthers, bind_pure_eq_map, if_neg hname]
        have hmap := hyields.map fun w' => R.setOthers w' (R.setOthers w r')
        rwa [h.setOthers_setOthers, h.setOthers_others] at hmap

/-- A record all of whose members may go as deep as its fields. -/
theorem Lawful.takes_of_depth (h : R.Lawful l takeOther none claim take start)
    (hothers : Takes (fun _ v => v.depth ≤ l) (fun _ _ => .ok ()) takeOther none HoldsOthers) :
    Takes (fun _ v => v.depth ≤ l) claim take start (R.Holds HoldsOthers) := by
  simpa only [ite_self] using h.takes hothers

end Record

end NullLint.Json
