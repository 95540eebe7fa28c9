import NullLint.Proofs.Progress
import NullLint.Proofs.Property.Content
import NullLint.Proofs.Text.Blank
import NullLint.Proofs.Text.Cut

set_option autoImplicit false
set_option relaxedAutoImplicit false

/-!
# What entries denote

An entry denotes at most one property, and the properties of a list of entries are those that the
entries denote, whatever their order is. A list of entries is refused for the first one that denotes
nothing, or that is about the same key of the same rule as an earlier one.

## Main definitions

* `Property.Splits` — the name and the value of an entry.
* `Property.Denotes`, `Property.IsMalformed` — the property that an entry denotes, and why it
  denotes none.
* `Property.IsPlain`, `Property.text` — the properties that can be denoted, and their plainest
  entries.
* `RuleProperties.Acceptable`, `RuleProperties.Refused` — the lists of entries that have properties,
  and why an entry is refused after some others.
* `RuleProperties.Reads`, `RuleProperties.Collects` — the properties that a list of entries denotes,
  entry by entry and as they can be looked up.
* `RuleProperties.Agree` — two outcomes that cannot be told apart.

## Main results

* `Property.parse_eq_ok_iff`, `Property.parse_eq_error_iff` — reading one entry.
* `Property.denotes_text_iff` — which properties their plainest entries denote.
* `RuleProperties.parse_eq_ok_iff`, `RuleProperties.parse_eq_error_iff` — reading a list of entries.
* `RuleProperties.parse_collects_entries` — what a list of entries comes to.
-/

namespace NullLint

namespace Property

variable {entry name value : String} {p q : Property} {cause : EntryFault}

/-! ## One entry -/

/-- The first equals sign of an entry stands between its name and its value, which may have blanks
around them. -/
def Splits (entry name value : String) : Prop :=
  ∃ before after, Text.CutsFirst '=' entry before after ∧ Text.IsTrimOf before name ∧
    Text.IsTrimOf after value

/-- An entry denotes a property: its name is a rule and a key with the first point between them,
neither of them empty, and its value is that of the property. -/
def Denotes (entry : String) (p : Property) : Prop :=
  ∃ name, Splits entry name p.value ∧ Text.CutsFirst '.' name p.rule p.key ∧ p.rule ≠ "" ∧
    p.key ≠ ""

/-- Why an entry denotes no property: it has no equals sign, its name has no point, or there is
nothing before or after the first point of its name. -/
inductive IsMalformed (entry : String) : EntryFault → Prop
  | noEquals (h : '=' ∉ entry.toList) : IsMalformed entry .notAnEntry
  | noPoint {name value : String} (h : Splits entry name value) (hp : '.' ∉ name.toList) :
    IsMalformed entry .notAnEntry
  | emptyName {name value rule key : String} (h : Splits entry name value)
    (hp : Text.CutsFirst '.' name rule key) (he : rule = "" ∨ key = "") :
    IsMalformed entry .emptyName

/-- An entry with an equals sign has a name and a value. -/
theorem splits_iff : Splits entry name value ↔ ∃ before after,
    Text.cutFirst '=' entry = some (before, after) ∧ Text.trim before = name ∧
      Text.trim after = value := by
  simp only [Splits, Text.cutFirst_eq_some_iff, Text.trim_eq_iff]

/-- What is read of an entry with a name and a value. -/
theorem parse_of_splits (h : Splits entry name value) :
    parse entry =
      match Text.cutFirst '.' name with
      | none => .error .notAnEntry
      | some (rule, key) =>
        if rule.isEmpty || key.isEmpty then .error .emptyName else .ok ⟨rule, key, value⟩ := by
  obtain ⟨before, after, hcut, rfl, rfl⟩ := splits_iff.mp h
  unfold parse
  cases hname : Text.cutFirst '.' (Text.trim before) <;> simp only [hcut, hname]

/-- An entry has a name and a value, or it has no equals sign. -/
theorem exists_splits_or (entry : String) :
    (∃ name value, Splits entry name value) ∨ '=' ∉ entry.toList := by
  cases hcut : Text.cutFirst '=' entry with
  | none => exact Or.inr (Text.cutFirst_eq_none_iff.mp hcut)
  | some cut => exact Or.inl ⟨_, _, splits_iff.mpr ⟨cut.1, cut.2, hcut, rfl, rfl⟩⟩

/-- What is read of an entry is the property that it denotes, or the reason why it denotes none. -/
theorem parse_spec (entry : String) :
    (∃ p, parse entry = .ok p ∧ Denotes entry p) ∨
      ∃ cause, parse entry = .error cause ∧ IsMalformed entry cause := by
  rcases exists_splits_or entry with ⟨name, value, h⟩ | hnone
  · rw [parse_of_splits h]
    cases hcut : Text.cutFirst '.' name with
    | none => exact Or.inr ⟨_, rfl, .noPoint h (Text.cutFirst_eq_none_iff.mp hcut)⟩
    | some cut =>
      obtain ⟨rule, key⟩ := cut
      rw [Text.cutFirst_eq_some_iff] at hcut
      by_cases hempty : (rule.isEmpty || key.isEmpty) = true
      · have he : rule = "" ∨ key = "" := by simpa using hempty
        exact Or.inr ⟨_, if_pos hempty, .emptyName h hcut he⟩
      · have hne : rule ≠ "" ∧ key ≠ "" := by simpa using hempty
        exact Or.inl ⟨⟨rule, key, value⟩, if_neg hempty, name, h, hcut, hne.1, hne.2⟩
  · have hcut := Text.cutFirst_eq_none_iff.mpr hnone
    refine Or.inr ⟨.notAnEntry, ?_, .noEquals hnone⟩
    unfold parse
    rw [hcut]

/-- A property that an entry denotes is read of it. -/
theorem parse_of_denotes (h : Denotes entry p) : parse entry = .ok p := by
  obtain ⟨name, hsplits, hcut, hrule, hkey⟩ := h
  have hempty : ¬(p.rule.isEmpty || p.key.isEmpty) = true := by simp [hrule, hkey]
  rw [parse_of_splits hsplits, Text.cutFirst_eq_some_iff.mpr hcut]
  exact if_neg hempty

/-- A malformed entry is refused. -/
theorem parse_of_isMalformed (h : IsMalformed entry cause) : parse entry = .error cause := by
  cases h with
  | noEquals h =>
    unfold parse
    rw [Text.cutFirst_eq_none_iff.mpr h]
  | noPoint h hp => rw [parse_of_splits h, Text.cutFirst_eq_none_iff.mpr hp]
  | emptyName h hp he =>
    rw [parse_of_splits h, Text.cutFirst_eq_some_iff.mpr hp]
    exact if_pos (by simpa using he)

/-- What is read of an entry is the property that it denotes. -/
theorem parse_eq_ok_iff : parse entry = .ok p ↔ Denotes entry p := by
  refine ⟨fun h => ?_, parse_of_denotes⟩
  rcases parse_spec entry with ⟨q, hq, hdenotes⟩ | ⟨cause, hcause, -⟩
  · rw [hq] at h
    cases h
    exact hdenotes
  · rw [hcause] at h
    cases h

/-- An entry that is refused denotes no property. -/
theorem parse_eq_error_iff : parse entry = .error cause ↔ IsMalformed entry cause := by
  refine ⟨fun h => ?_, parse_of_isMalformed⟩
  rcases parse_spec entry with ⟨q, hq, -⟩ | ⟨cause', hcause, hmalformed⟩
  · rw [hq] at h
    cases h
  · rw [hcause] at h
    cases h
    exact hmalformed

/-- An entry denotes at most one property. -/
theorem Denotes.unique (hp : Denotes entry p) (hq : Denotes entry q) : p = q := by
  have h := (parse_of_denotes hp).symm.trans (parse_of_denotes hq)
  cases h
  rfl

/-! ## Plain entries -/

/-- The plainest entry for a property: nothing but its parts, a point and an equals sign. -/
def text (p : Property) : String :=
  p.rule ++ "." ++ p.key ++ "=" ++ p.value

/-- A property that can be denoted. A blank at the start of the rule, at the end of the key or at an
end of the value would not be read, and neither would a point in the rule or an equals sign in the
rule or the key. -/
structure IsPlain (p : Property) : Prop where
  rule_ne : p.rule ≠ ""
  rule_free : '.' ∉ p.rule.toList ∧ '=' ∉ p.rule.toList
  rule_start : ∀ c, p.rule.toList.head? = some c → Text.isBlank c = false
  key_ne : p.key ≠ ""
  key_free : '=' ∉ p.key.toList
  key_end : ∀ c, p.key.toList.getLast? = some c → Text.isBlank c = false
  value : Text.IsTrimmed p.value.toList

/-- The ends of a rule and a key with a point between them. -/
theorem isTrimmed_iff {rule key : String} (hrule : rule ≠ "") (hkey : key ≠ "") :
    Text.IsTrimmed (rule ++ String.singleton '.' ++ key).toList ↔
      (∀ c, rule.toList.head? = some c → Text.isBlank c = false) ∧
        ∀ c, key.toList.getLast? = some c → Text.isBlank c = false := by
  have hrule' : rule.toList ≠ [] := by simpa using hrule
  have hkey' : key.toList ≠ [] := by simpa using hkey
  have hhead : (rule ++ String.singleton '.' ++ key).toList.head? = rule.toList.head? := by
    obtain ⟨c, cs, hcs⟩ := List.exists_cons_of_ne_nil hrule'
    simp [hcs]
  have hlast : (rule ++ String.singleton '.' ++ key).toList.getLast? = key.toList.getLast? := by
    rw [String.toList_append, List.getLast?_append_of_ne_nil _ hkey']
  rw [Text.IsTrimmed, hhead, hlast]

/-- A plain property is denoted by its plainest entry. -/
theorem denotes_text (h : p.IsPlain) : Denotes p.text p := by
  have hname : Text.IsTrimmed (p.rule ++ String.singleton '.' ++ p.key).toList :=
    (isTrimmed_iff h.rule_ne h.key_ne).mpr ⟨h.rule_start, h.key_end⟩
  have hcut : Text.CutsFirst '=' p.text (p.rule ++ String.singleton '.' ++ p.key) p.value := by
    constructor
    · rw [← String.toList_inj]
      simp [text]
    · simp [h.rule_free.2, h.key_free]
  refine ⟨p.rule ++ String.singleton '.' ++ p.key, ⟨_, _, hcut, ?_, ?_⟩, ⟨rfl, h.rule_free.1⟩,
    h.rule_ne, h.key_ne⟩
  · exact Text.trim_eq_iff.mp (Text.trim_of_isTrimmed hname)
  · exact Text.trim_eq_iff.mp (Text.trim_of_isTrimmed h.value)

/-- A property that is denoted at all is plain. -/
theorem Denotes.isPlain (h : Denotes entry p) : p.IsPlain := by
  obtain ⟨name, ⟨before, after, hentry, hname, hvalue⟩, ⟨hcut, hpoint⟩, hrule, hkey⟩ := h
  obtain ⟨htrimmed, front, back, hbefore, -, -⟩ := hname
  have hfree : '=' ∉ name.toList := by
    intro hmem
    apply hentry.2
    simp [hbefore, hmem]
  rw [hcut] at htrimmed hfree
  have hends := (isTrimmed_iff hrule hkey).mp htrimmed
  have hfree' : '=' ∉ p.rule.toList ∧ '=' ∉ p.key.toList := by simpa using hfree
  exact ⟨hrule, ⟨hpoint, hfree'.1⟩, hends.1, hkey, hfree'.2, hends.2, hvalue.1⟩

/-- The properties that their plainest entries denote are the plain ones. -/
theorem denotes_text_iff : Denotes p.text p ↔ p.IsPlain :=
  ⟨Denotes.isPlain, denotes_text⟩

end Property

namespace RuleProperties

open Property

variable {entries before : List String} {entry : String} {p : Property} {ps qs : RuleProperties}
  {e : PropertyError}

/-! ## A list of entries -/

/-- A list of entries that has properties: each entry denotes one, and no two entries denote
properties of the same name. -/
def Acceptable (entries : List String) : Prop :=
  (∀ entry ∈ entries, ∃ p, Denotes entry p) ∧
    entries.Pairwise fun a b => ∀ p q, Denotes a p → Denotes b q → p.name ≠ q.name

/-- Why an entry is refused after some others: it is malformed, or an earlier entry denotes a
property of the same name. -/
inductive Refused (before : List String) (entry : String) : PropertyError → Prop
  | malformed {cause : EntryFault} (h : IsMalformed entry cause) :
    Refused before entry (.malformed entry cause)
  | repeated {earlier : String} {p q : Property} (hp : Denotes entry p) (he : earlier ∈ before)
    (hq : Denotes earlier q) (hname : q.name = p.name) :
    Refused before entry (.repeated p.rule p.key)

theorem insert_eq_ok_iff : ps.insert p = .ok qs ↔ qs.entries = ps.entries ++ [p] := by
  unfold insert
  constructor
  · intro h
    split at h
    · cases h
    · cases h
      rfl
  · intro h
    have hnot : p.name ∉ ps.entries.map Property.name := by
      have hdistinct := qs.distinct
      rw [h, List.map_append, List.nodup_append] at hdistinct
      exact fun hmem => hdistinct.2.2 _ hmem _ (by simp) rfl
    rw [dif_neg hnot]
    obtain ⟨qs, hqs⟩ := qs
    subst h
    rfl

theorem insertEntry_eq_ok_iff : ps.insertEntry entry = .ok qs ↔
    ∃ p, Denotes entry p ∧ qs.entries = ps.entries ++ [p] := by
  unfold insertEntry
  rcases parse_spec entry with ⟨q, hq, hdenotes⟩ | ⟨cause, hcause, hmalformed⟩
  · rw [hq]
    constructor
    · intro h
      exact ⟨q, hdenotes, insert_eq_ok_iff.mp h⟩
    · rintro ⟨p, hp, hps⟩
      obtain rfl := hdenotes.unique hp
      exact insert_eq_ok_iff.mpr hps
  · rw [hcause]
    constructor
    · intro h
      cases h
    · rintro ⟨p, hp, -⟩
      rw [parse_of_denotes hp] at hcause
      cases hcause

/-- Each entry denotes the property in its place. -/
def Reads (entries : List String) (ps : RuleProperties) : Prop :=
  List.Forall₂ Denotes entries ps.entries

/-- Some entries have the properties that they denote one by one.

**Proof sketch.** The loop over the entries: one entry more adds the property that it denotes at the
end. No name is given twice, since there is no such collection of properties. -/
theorem parse_eq_ok_iff : parse entries = .ok ps ↔ Reads entries ps := by
  have hstart : ∀ ps : RuleProperties, Reads [] ps ↔ ps = {} := by
    rintro ⟨properties, hdistinct⟩
    simp [Reads]
  have hstep : ∀ (entries : List String) (entry : String) (qs : RuleProperties),
      Reads (entries ++ [entry]) qs ↔
        ∃ ps : RuleProperties, Reads entries ps ∧ ps.insertEntry entry = .ok qs := by
    intro entries entry qs
    simp only [insertEntry_eq_ok_iff, Reads, forall₂_concat_left_iff]
    constructor
    · rintro ⟨properties, p, hproperties, hp, hqs⟩
      have hdistinct : (properties.map Property.name).Nodup := by
        have hall := qs.distinct
        rw [hqs, List.map_append] at hall
        exact hall.of_append_left
      exact ⟨⟨properties, hdistinct⟩, hproperties, p, hp, hqs⟩
    · rintro ⟨ps, hps, p, hp, hqs⟩
      exact ⟨ps.entries, p, hps, hp, hqs⟩
  exact foldlM_eq_ok_iff hstart hstep

/-- The properties of some entries are those that one of them denotes. -/
theorem Reads.mem_iff (h : Reads entries ps) :
    p ∈ ps.entries ↔ ∃ entry ∈ entries, Denotes entry p := by
  constructor
  · intro hp
    exact exists_of_forall₂_of_mem h hp
  · rintro ⟨entry, hentry, hp⟩
    obtain ⟨q, hq, hdenotes⟩ := exists_of_forall₂_of_mem h.flip hentry
    exact hp.unique hdenotes ▸ hq

/-- Entries that denote properties denote distinct names if the properties have distinct names. -/
theorem nodup_map_name_iff {properties : List Property}
    (h : List.Forall₂ Denotes entries properties) :
    (properties.map Property.name).Nodup ↔
      entries.Pairwise fun a b => ∀ p q, Denotes a p → Denotes b q → p.name ≠ q.name := by
  induction h with
  | nil => simp
  | @cons entry p entries properties hp hrest ih =>
    rw [List.map_cons, List.nodup_cons, List.pairwise_cons, ih]
    refine and_congr_left fun _ => ?_
    constructor
    · intro hnot b hb p' q hp' hq hname
      obtain ⟨q', hq', hdenotes⟩ := exists_of_forall₂_of_mem hrest.flip hb
      apply hnot
      rw [hp.unique hp', hname, hq.unique hdenotes]
      exact List.mem_map_of_mem hq'
    · intro hdistinct hmem
      obtain ⟨q, hq, hname⟩ := List.mem_map.mp hmem
      obtain ⟨b, hb, hdenotes⟩ := exists_of_forall₂_of_mem hrest hq
      exact hdistinct b hb p q hp hdenotes hname.symm

/-- Some entries have properties if they are acceptable. -/
theorem exists_parse_eq_ok_iff : (∃ ps, parse entries = .ok ps) ↔ Acceptable entries := by
  constructor
  · rintro ⟨ps, hps⟩
    have hreads := parse_eq_ok_iff.mp hps
    exact ⟨exists_forall₂_iff.mp ⟨ps.entries, hreads⟩, (nodup_map_name_iff hreads).mp ps.distinct⟩
  · rintro ⟨hall, hdistinct⟩
    obtain ⟨properties, hproperties⟩ := exists_forall₂_iff.mpr hall
    exact ⟨⟨properties, (nodup_map_name_iff hproperties).mpr hdistinct⟩,
      parse_eq_ok_iff.mpr hproperties⟩

/-- An entry after those that were read is refused if it is malformed or repeats a name. -/
theorem insertEntry_eq_error_iff (h : Reads before ps) :
    ps.insertEntry entry = .error e ↔ Refused before entry e := by
  unfold insertEntry
  rcases parse_spec entry with ⟨p, hp, hdenotes⟩ | ⟨cause, hcause, hmalformed⟩
  · have hrepeated : p.name ∈ ps.entries.map Property.name ↔
        ∃ earlier ∈ before, ∃ q, Denotes earlier q ∧ q.name = p.name := by
      simp only [List.mem_map, h.mem_iff]
      constructor
      · rintro ⟨q, ⟨earlier, hmem, hq⟩, hname⟩
        exact ⟨earlier, hmem, q, hq, hname⟩
      · rintro ⟨earlier, hmem, q, hq, hname⟩
        exact ⟨q, ⟨earlier, hmem, hq⟩, hname⟩
    rw [hp]
    change ps.insert p = .error e ↔ _
    unfold insert
    constructor
    · intro he
      split at he
      · next hname =>
        cases he
        obtain ⟨earlier, hmem, q, hq, hname⟩ := hrepeated.mp hname
        exact .repeated hdenotes hmem hq hname
      · cases he
    · intro he
      cases he with
      | malformed hm =>
        rw [parse_of_isMalformed hm] at hp
        cases hp
      | repeated hp' hmem hq hname =>
        obtain rfl := hdenotes.unique hp'
        exact dif_pos (hrepeated.mpr ⟨_, hmem, _, hq, hname⟩)
  · rw [hcause]
    constructor
    · intro he
      cases he
      exact .malformed hmalformed
    · intro he
      cases he with
      | malformed hm =>
        rw [parse_of_isMalformed hm] at hcause
        cases hcause
        rfl
      | repeated hp =>
        rw [parse_of_denotes hp] at hcause
        cases hcause

/-- Some entries are refused for the first one that is refused after those before it. -/
theorem parse_eq_error_iff : parse entries = .error e ↔ ∃ before entry after,
    entries = before ++ entry :: after ∧ Acceptable before ∧ Refused before entry e := by
  unfold parse
  rw [foldlM_eq_error_iff]
  constructor
  · rintro ⟨before, entry, after, ps, rfl, hps, he⟩
    exact ⟨before, entry, after, rfl, exists_parse_eq_ok_iff.mp ⟨ps, hps⟩,
      (insertEntry_eq_error_iff (parse_eq_ok_iff.mp hps)).mp he⟩
  · rintro ⟨before, entry, after, rfl, hbefore, he⟩
    obtain ⟨ps, hps⟩ := exists_parse_eq_ok_iff.mpr hbefore
    exact ⟨before, entry, after, ps, rfl, hps,
      (insertEntry_eq_error_iff (parse_eq_ok_iff.mp hps)).mpr he⟩

/-- Acceptable entries are acceptable in any order. -/
theorem Acceptable.perm {entries' : List String} (h : Acceptable entries)
    (hperm : entries.Perm entries') : Acceptable entries' := by
  refine ⟨fun entry hentry => h.1 entry (hperm.mem_iff.mpr hentry), ?_⟩
  refine (hperm.pairwise_iff ?_).mp h.2
  intro a b hab p q hp hq hname
  exact hab q p hq hp hname.symm

/-! ## What entries come to -/

/-- The properties that a list of entries denotes, as they can be looked up.

* `pairwise_forRule`, `mem_forRule_iff`: the properties of a rule are listed in the strict order of
  their keys, and they are those that an entry denotes for this rule.
* `get?_forRule_eq_some_iff`: the value of a key is the one that an entry denotes.
* `forRule_eq_nil_iff`: a rule has no properties if no entry denotes one for it.
* `pairwise_ruleIds`, `mem_ruleIds_iff`: the rules for which entries denote properties are listed in
  the strict order of their names. -/
structure Collects (entries : List String) (ps : RuleProperties) : Prop where
  pairwise_forRule : ∀ rule, (ps.forRule rule).Pairwise fun a b => a.1 < b.1
  mem_forRule_iff : ∀ rule key value, (key, value) ∈ ps.forRule rule ↔
    ∃ entry ∈ entries, Denotes entry ⟨rule, key, value⟩
  get?_forRule_eq_some_iff : ∀ rule key value, (ps.forRule rule).get? key = some value ↔
    ∃ entry ∈ entries, Denotes entry ⟨rule, key, value⟩
  forRule_eq_nil_iff : ∀ rule, ps.forRule rule = [] ↔
    ¬∃ entry ∈ entries, ∃ key value, Denotes entry ⟨rule, key, value⟩
  pairwise_ruleIds : ps.ruleIds.Pairwise (· < ·)
  mem_ruleIds_iff : ∀ rule, rule ∈ ps.ruleIds ↔
    ∃ entry ∈ entries, ∃ key value, Denotes entry ⟨rule, key, value⟩

/-- Two outcomes that cannot be told apart by looking properties up, or two failures. -/
inductive Agree : Except PropertyError RuleProperties → Except PropertyError RuleProperties → Prop
  | failures (e f : PropertyError) : Agree (.error e) (.error f)
  | successes {ps qs : RuleProperties} (hids : ps.ruleIds = qs.ruleIds)
    (hrules : ∀ rule, ps.forRule rule = qs.forRule rule) : Agree (.ok ps) (.ok qs)

theorem Reads.collects (h : Reads entries ps) : Collects entries ps := by
  constructor
  case pairwise_forRule => exact ps.pairwise_forRule
  case mem_forRule_iff =>
    intro rule key value
    rw [RuleProperties.mem_forRule_iff, h.mem_iff]
  case get?_forRule_eq_some_iff =>
    intro rule key value
    rw [RuleProperties.get?_forRule_eq_some_iff, h.mem_iff]
  case forRule_eq_nil_iff =>
    intro rule
    rw [List.eq_nil_iff_forall_not_mem]
    constructor
    · rintro hnil ⟨entry, hentry, key, value, hdenotes⟩
      have hmem := h.mem_iff.mpr ⟨entry, hentry, hdenotes⟩
      exact hnil (key, value) (RuleProperties.mem_forRule_iff.mpr hmem)
    · rintro hnone ⟨key, value⟩ hmem
      obtain ⟨entry, hentry, hdenotes⟩ := h.mem_iff.mp (RuleProperties.mem_forRule_iff.mp hmem)
      exact hnone ⟨entry, hentry, key, value, hdenotes⟩
  case pairwise_ruleIds => exact ps.pairwise_ruleIds
  case mem_ruleIds_iff =>
    intro rule
    rw [RuleProperties.mem_ruleIds_iff]
    constructor
    · rintro ⟨⟨r, key, value⟩, hp, rfl⟩
      obtain ⟨entry, hentry, hdenotes⟩ := h.mem_iff.mp hp
      exact ⟨entry, hentry, key, value, hdenotes⟩
    · rintro ⟨entry, hentry, key, value, hdenotes⟩
      exact ⟨_, h.mem_iff.mpr ⟨entry, hentry, hdenotes⟩, rfl⟩

/-- The order of the entries does not matter for what they come to. -/
theorem agree_of_perm {entries' : List String} (hperm : entries.Perm entries') :
    Agree (parse entries) (parse entries') := by
  cases hps : parse entries with
  | error e =>
    cases hqs : parse entries' with
    | error f => exact .failures e f
    | ok qs =>
      have haccept := (exists_parse_eq_ok_iff.mp ⟨qs, hqs⟩).perm hperm.symm
      obtain ⟨ps, hok⟩ := exists_parse_eq_ok_iff.mpr haccept
      rw [hps] at hok
      cases hok
  | ok ps =>
    have haccept := (exists_parse_eq_ok_iff.mp ⟨ps, hps⟩).perm hperm
    obtain ⟨qs, hqs⟩ := exists_parse_eq_ok_iff.mpr haccept
    rw [hqs]
    have hmem : ∀ p, p ∈ ps.entries ↔ p ∈ qs.entries := by
      intro p
      rw [(parse_eq_ok_iff.mp hps).mem_iff, (parse_eq_ok_iff.mp hqs).mem_iff]
      simp only [hperm.mem_iff]
    exact .successes (ruleIds_congr hmem) (forRule_congr hmem)

/-- **What a list of entries comes to.** It has properties if each entry denotes one and no name is
denoted twice. These are then the properties that the entries denote, and the order of the entries
does not matter. Otherwise the first entry is to blame that is malformed or repeats the name of an
earlier one. The properties that can be denoted are the plain ones. -/
theorem parse_collects_entries (entries : List String) :
    ((∃ ps, parse entries = .ok ps) ↔ Acceptable entries) ∧
      (∀ ps, parse entries = .ok ps → Collects entries ps) ∧
      (∀ entries', entries.Perm entries' → Agree (parse entries) (parse entries')) ∧
      (∀ e, parse entries = .error e ↔ ∃ before entry after,
        entries = before ++ entry :: after ∧ Acceptable before ∧ Refused before entry e) ∧
      ∀ p : Property, Denotes p.text p ↔ p.IsPlain := by
  refine ⟨exists_parse_eq_ok_iff, ?_, ?_, fun e => parse_eq_error_iff, fun p => denotes_text_iff⟩
  · intro ps hps
    exact (parse_eq_ok_iff.mp hps).collects
  · intro entries' hperm
    exact agree_of_perm hperm

/-- Entries with blanks, a point in a key, an equals sign in a value and an empty value. -/
def mixedEntries : List String := ["R.b.c = x=y ", "Q.a=", " R.a=1"]

theorem parse_collects_mixedEntries :
    ∃ ps, parse mixedEntries = .ok ps ∧ Collects mixedEntries ps ∧
      mixedEntries.Perm mixedEntries.reverse ∧
      Agree (parse mixedEntries) (parse mixedEntries.reverse) := by
  obtain ⟨-, hcollects, hperm, -⟩ := parse_collects_entries mixedEntries
  have hparse : parse mixedEntries =
      .ok ⟨[⟨"R", "b.c", "x=y"⟩, ⟨"Q", "a", ""⟩, ⟨"R", "a", "1"⟩], by decide⟩ := by
    decide +kernel
  have hreverse : mixedEntries.Perm mixedEntries.reverse := (List.reverse_perm _).symm
  exact ⟨_, hparse, hcollects _ hparse, hreverse, hperm _ hreverse⟩

end RuleProperties

end NullLint
