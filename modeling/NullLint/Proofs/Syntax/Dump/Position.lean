import NullLint.Proofs.Syntax.Dump.Schema

set_option autoImplicit false
set_option relaxedAutoImplicit false

/-!
# The position among the members of a record

Line and column are not fields of a record but among the members that it keeps as values. They are
looked at when all members are known; what is found then is what the schema asks for.

## Main results

* `Syntax.isWord_iff_denotes` — the numerals of lines and columns.
* `Syntax.Position.exists_others_iff` — a record that kept its other members finds its position
  among them.
-/

namespace NullLint.Syntax

open Json

/-- A numeral of 32 bits is the one of its number. -/
theorem isWord_iff_denotes {d : Draft} {n : UInt32} :
    IsWord d n ↔ d.Denotes (.number (.integer n.toNat)) := by
  constructor
  · rintro ⟨x, rfl, hnegative, hfraction, hexponent, hvalue⟩
    refine Draft.Denotes.number (Numeral.value?_eq_integer_iff.mpr ⟨hfraction, hexponent, ?_, ?_⟩)
    · have hlt := n.toNat_lt
      rw [hvalue]
      exact Nat.le_trans (Nat.le_of_lt hlt) (by decide)
    · exact Or.inl ⟨hnegative, by rw [hvalue]⟩
  · intro h
    cases h with
    | @number x _ h =>
      obtain ⟨hfraction, hexponent, -, ⟨hnegative, hvalue⟩ | ⟨-, hpos, -, hvalue⟩⟩ :=
        Numeral.value?_eq_integer_iff.mp h
      · exact ⟨x, rfl, hnegative, hfraction, hexponent, (Int.ofNat.inj hvalue).symm⟩
      · omega

/-- A value is the number of a word. -/
def IsWordValue (v : Value) (n : UInt32) : Prop := v = .number (.integer n.toNat)

theorem wordOf_eq_ok_iff {v : Value} {n : UInt32} : wordOf v = .ok n ↔ IsWordValue v n := by
  rw [IsWordValue]
  constructor
  · intro h
    unfold wordOf at h
    split at h
    · next i =>
      split at h
      · next hrange =>
        cases h
        have hvalue : ((UInt32.ofNat i.toNat).toNat : Int) = i := by
          have hlt : i.toNat < UInt32.size := by omega
          rw [UInt32.toNat_ofNat_of_lt' hlt, Int.toNat_of_nonneg hrange.1]
        rw [hvalue]
      · cases h
    · cases h
  · rintro rfl
    have hlt := n.toNat_lt
    have hrange : (0 : Int) ≤ n.toNat ∧ (n.toNat : Int) < UInt32.size :=
      ⟨Int.natCast_nonneg _, Int.ofNat_lt.mpr hlt⟩
    rw [wordOf, if_pos hrange, Int.toNat_natCast, UInt32.ofNat_toNat]

theorem required_eq_ok_iff {α : Type} {name : String} {o : Option α} {a : α} :
    required name o = .ok a ↔ o = some a := by
  cases o <;> simp [required]

namespace Position

/-- What line and column are after some members. -/
structure Fields.Hold (ms : List (String × Value)) (p : Fields) : Prop where
  line : Field "line" IsWordValue ms p.line
  column : Field "column" IsWordValue ms p.column

/-- A line or a column is taken if it is a word and not known yet. -/
theorem Fields.takeWord_eq_ok_iff {name : String} {o : Option UInt32} {v : Value}
    {set : UInt32 → Fields} {p' : Fields} :
    (if o.isSome then .error (.repeatedField name) else (wordOf v).map set) = Except.ok p' ↔
      o = none ∧ ∃ n, IsWordValue v n ∧ set n = p' := by
  cases o with
  | none => simp [map_eq_ok_iff, wordOf_eq_ok_iff]
  | some _ => simp

/-- One more member: the line or the column, if it is not known yet, or a member that does not
count. -/
theorem Fields.hold_append_iff {ms : List (String × Value)} {m : String × Value} {p' : Fields} :
    Fields.Hold (ms ++ [m]) p' ↔ ∃ p, Fields.Hold ms p ∧ p.take m.1 m.2 = .ok p' := by
  obtain ⟨name, v⟩ := m
  by_cases hline : name = "line"
  · subst hline
    simp only [take, if_true, takeWord_eq_ok_iff]
    constructor
    · rintro ⟨hline, hcolumn⟩
      obtain ⟨hnone, n, hn, hp'⟩ := field_append_self.mp hline
      rw [field_append_of_ne (by decide)] at hcolumn
      exact ⟨⟨none, p'.column⟩, ⟨hnone, hcolumn⟩, rfl, n, hn, by rw [← hp']⟩
    · rintro ⟨p, ⟨hline, hcolumn⟩, hnone, n, hn, rfl⟩
      rw [hnone] at hline
      exact ⟨field_append_self.mpr ⟨hline, n, hn, rfl⟩,
        (field_append_of_ne (by decide)).mpr hcolumn⟩
  · by_cases hcolumn : name = "column"
    · subst hcolumn
      simp only [take, if_neg hline, if_true, takeWord_eq_ok_iff]
      constructor
      · rintro ⟨hline, hcolumn⟩
        obtain ⟨hnone, n, hn, hp'⟩ := field_append_self.mp hcolumn
        rw [field_append_of_ne (by decide)] at hline
        exact ⟨⟨p'.line, none⟩, ⟨hline, hnone⟩, rfl, n, hn, by rw [← hp']⟩
      · rintro ⟨p, ⟨hline, hcolumn⟩, hnone, n, hn, rfl⟩
        rw [hnone] at hcolumn
        exact ⟨(field_append_of_ne (by decide)).mpr hline,
          field_append_self.mpr ⟨hcolumn, n, hn, rfl⟩⟩
    · simp only [take, if_neg hline, if_neg hcolumn, Except.ok.injEq, exists_eq_right]
      constructor
      · rintro ⟨h, h'⟩
        exact ⟨(field_append_of_ne hline).mp h, (field_append_of_ne hcolumn).mp h'⟩
      · rintro ⟨h, h'⟩
        exact ⟨(field_append_of_ne hline).mpr h, (field_append_of_ne hcolumn).mpr h'⟩

theorem Fields.finish_eq_ok_iff {p : Fields} {q : Position} :
    p.finish = .ok q ↔ p = ⟨some q.line, some q.column⟩ := by
  obtain ⟨line, column⟩ := p
  simp only [finish, monadBind_eq_ok_iff, required_eq_ok_iff]
  constructor
  · rintro ⟨l, rfl, c, rfl, ⟨⟩⟩
    rfl
  · rintro ⟨⟩
    exact ⟨_, rfl, _, rfl, rfl⟩

/-- The position among the members of an object is what its line and its column say. -/
theorem ofMembers_eq_ok_iff {ms : List (String × Value)} {p : Position} :
    ofMembers ms = .ok p ↔
      Field "line" IsWordValue ms (some p.line) ∧
        Field "column" IsWordValue ms (some p.column) := by
  have hfold : ∀ {q : Fields}, (ms.foldlM (fun p m => Fields.take p m.1 m.2) {}) = .ok q ↔
      Fields.Hold ms q := by
    refine foldlM_eq_ok_iff (fun q => ?_) fun _ _ _ => Fields.hold_append_iff
    obtain ⟨line, column⟩ := q
    constructor
    · rintro ⟨hline, hcolumn⟩
      cases field_nil_iff.mp hline
      cases field_nil_iff.mp hcolumn
      rfl
    · rintro ⟨⟩
      exact ⟨field_nil_iff.mpr rfl, field_nil_iff.mpr rfl⟩
  rw [ofMembers, monadBind_eq_ok_iff]
  simp only [hfold, Fields.finish_eq_ok_iff]
  constructor
  · rintro ⟨q, ⟨hline, hcolumn⟩, rfl⟩
    exact ⟨hline, hcolumn⟩
  · rintro ⟨hline, hcolumn⟩
    exact ⟨_, ⟨hline, hcolumn⟩, rfl⟩

/-- A line or a column is the same among the members and among their values. -/
theorem field_others_iff {known : List String} {ms : List (String × Draft)}
    {vs : List (String × Value)} {name : String} {n : UInt32} (h : Others known ms vs)
    (hname : name ∉ known) :
    Field name IsWordValue vs (some n) ↔ Field name IsWord ms (some n) := by
  have hvalues := h.forall₂_valuesOf hname
  simp only [field_some_iff]
  constructor
  · rintro ⟨w, hw, rfl⟩
    rw [hw] at hvalues
    obtain ⟨v, _, hv, hnil, hms⟩ := List.forall₂_cons_right_iff.mp hvalues
    cases hnil
    exact ⟨v, hms, isWord_iff_denotes.mpr hv⟩
  · rintro ⟨v, hv, hword⟩
    rw [hv] at hvalues
    obtain ⟨w, _, hw, hnil, hvs⟩ := List.forall₂_cons_left_iff.mp hvalues
    cases hnil
    exact ⟨w, hvs, hw.unique (isWord_iff_denotes.mp hword)⟩

/-- The line and the column are values. -/
theorem isValue_of_mem {ms : List (String × Draft)} {p : Position} {m : String × Draft}
    (hp : IsPosition ms p) (hm : m ∈ ms) (hname : m.1 = "line" ∨ m.1 = "column") : m.2.IsValue := by
  obtain hline | hcolumn := hname
  · obtain ⟨_, -, hword⟩ := hp.line.exists_of_mem hm hline
    exact ⟨_, isWord_iff_denotes.mp hword⟩
  · obtain ⟨_, -, hword⟩ := hp.column.exists_of_mem hm hcolumn
    exact ⟨_, isWord_iff_denotes.mp hword⟩

/-- A record that keeps its other members as values finds its position among them exactly if the
members hold the position, and then all of them have values. -/
theorem exists_others_iff {known : List String} {ms : List (String × Draft)} {p : Position}
    (hline : "line" ∉ known) (hcolumn : "column" ∉ known) :
    (∃ vs, Others known ms vs ∧ ofMembers vs = .ok p) ↔
      IsPosition ms p ∧ OthersAre Draft.IsValue ("line" :: "column" :: known) ms := by
  constructor
  · rintro ⟨vs, hothers, hp⟩
    obtain ⟨hlineField, hcolumnField⟩ := ofMembers_eq_ok_iff.mp hp
    refine ⟨⟨(field_others_iff hothers hline).mp hlineField,
      (field_others_iff hothers hcolumn).mp hcolumnField⟩, fun m hm hname => ?_⟩
    refine exists_membersDenote_iff.mp ⟨vs, hothers⟩ m (List.mem_filter.mpr ⟨hm, ?_⟩)
    simp only [List.mem_cons, not_or] at hname
    simpa using hname.2.2
  · rintro ⟨hp, hothers⟩
    obtain ⟨vs, hvs⟩ : ∃ vs, Others known ms vs := by
      refine exists_membersDenote_iff.mpr fun m hm => ?_
      obtain ⟨hm, hknown⟩ := List.mem_filter.mp hm
      by_cases hname : m.1 = "line" ∨ m.1 = "column"
      · exact isValue_of_mem hp hm hname
      · obtain ⟨hline, hcolumn⟩ := not_or.mp hname
        refine hothers m hm ?_
        simp only [List.mem_cons, not_or]
        exact ⟨hline, hcolumn, by simpa using hknown⟩
    exact ⟨vs, hvs, ofMembers_eq_ok_iff.mpr ⟨(field_others_iff hvs hline).mpr hp.line,
      (field_others_iff hvs hcolumn).mpr hp.column⟩⟩

end Position

end NullLint.Syntax
