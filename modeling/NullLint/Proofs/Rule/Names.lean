import NullLint.Proofs.Progress
import NullLint.Proofs.Text.Blank
import NullLint.Rule.NullAnnotations

set_option autoImplicit false
set_option relaxedAutoImplicit false

/-!
# The names of the annotations

A property gives one of the two names if its value is an identifier, perhaps with at-signs before it
and blanks around it. Properties are taken in their order: all of them have to give a name, the last
value that is given for a key counts, and a name that is not given stays as it is.

## Main definitions

* `NullAnnotations.IsIdentifier`, `NullAnnotations.IsWrapped` — identifiers, and what may stand
  around them.
* `NullAnnotations.Gives`, `NullAnnotations.Refuses` — what a property gives, and why it gives
  nothing.
* `NullAnnotations.Names.Updates` — the names that a list of properties leads to.

## Main results

* `NullAnnotations.IsIdentifier.plain` — identifiers have no blank, no at-sign and no point.
* `NullAnnotations.annotationName_eq_ok_iff`, `NullAnnotations.annotationName_eq_error_iff` — the
  name that a value gives.
* `NullAnnotations.Names.configure_eq_ok_iff`, `NullAnnotations.Names.configure_eq_error_iff` —
  what configuring comes to.
* `NullAnnotations.Names.updates_iff_of_pairwise` — the names that properties with different keys
  lead to.
-/

namespace NullLint.NullAnnotations

/-! ## Names in values -/

/-- A letter, an underscore or a dollar sign, and behind it such characters and numbers. -/
def IsIdentifier (name : String) : Prop :=
  ∃ c cs, name.toList = c :: cs ∧ startsIdentifier c = true ∧
    ∀ d ∈ cs, continuesIdentifier d = true

/-- A value is some text with at-signs before it and blanks around it. -/
def IsWrapped (value text : String) : Prop :=
  ∃ before ats after, value.toList = before ++ ats ++ text.toList ++ after ∧
    (∀ c ∈ before, Text.isBlank c = true) ∧ (∀ c ∈ ats, c = '@') ∧
    ∀ c ∈ after, Text.isBlank c = true

theorem continuesIdentifier_of_starts {c : Char} (h : startsIdentifier c = true) :
    continuesIdentifier c = true := by
  simp only [startsIdentifier, continuesIdentifier, Text.isLetterOrNumber, Bool.or_eq_true] at *
  tauto

/-- A character inside an identifier is no blank, no at-sign and no point. -/
theorem plain_of_continues {c : Char} (h : continuesIdentifier c = true) :
    Text.isBlank c = false ∧ c ≠ '@' ∧ c ≠ '.' := by
  refine ⟨?_, ?_, ?_⟩
  · simp only [continuesIdentifier, Bool.or_eq_true, beq_iff_eq] at h
    rcases h with (h | rfl) | rfl
    · exact Text.not_isBlank_of_letterOrNumber h
    · decide
    · decide
  · rintro rfl
    revert h
    decide
  · rintro rfl
    revert h
    decide

/-- An identifier has no blank, no at-sign and no point. -/
theorem IsIdentifier.plain {name : String} (h : IsIdentifier name) :
    ∀ c ∈ name.toList, Text.isBlank c = false ∧ c ≠ '@' ∧ c ≠ '.' := by
  obtain ⟨c, cs, hname, hc, hcs⟩ := h
  intro d hd
  rw [hname] at hd
  apply plain_of_continues
  rcases List.mem_cons.mp hd with rfl | hd
  · exact continuesIdentifier_of_starts hc
  · exact hcs d hd

theorem IsIdentifier.ne_empty {name : String} (h : IsIdentifier name) : name ≠ "" := by
  obtain ⟨c, cs, hname, -⟩ := h
  rintro rfl
  cases hname

/-- What is left of a value without blanks and at-signs, if that holds neither blanks nor at-signs.

**Proof sketch.** The at-signs and what follows them start and end with no blank, so they are what
trimming leaves; and what follows them starts with no at-sign. -/
theorem dropWhile_trimChars_eq_iff {value text : String}
    (htext : ∀ c ∈ text.toList, Text.isBlank c = false ∧ c ≠ '@') :
    (Text.trimChars value.toList).dropWhile (· == '@') = text.toList ↔ IsWrapped value text := by
  rw [Text.dropWhile_eq_iff]
  constructor
  · rintro ⟨-, ats, htrim, hats⟩
    obtain ⟨-, before, after, hvalue, hbefore, hafter⟩ := Text.trimChars_eq_iff.mp htrim
    refine ⟨before, ats, after, ?_, hbefore, fun c hc => ?_, hafter⟩
    · rw [hvalue, List.append_assoc before ats]
    · simpa using hats c hc
  · rintro ⟨before, ats, after, hvalue, hbefore, hats, hafter⟩
    have hplain : ∀ c ∈ ats ++ text.toList, Text.isBlank c = false := by
      intro c hc
      rcases List.mem_append.mp hc with hc | hc
      · rw [hats c hc]
        decide
      · exact (htext c hc).1
    refine ⟨fun c hc => ?_, ats, ?_, fun c hc => by simp [hats c hc]⟩
    · have hc' := (htext c (List.mem_of_head? hc)).2
      simpa using hc'
    · apply Text.trimChars_eq_iff.mpr
      refine ⟨⟨fun c hc => hplain c (List.mem_of_head? hc),
        fun c hc => hplain c (List.mem_of_getLast? hc)⟩, before, after, ?_, hbefore, hafter⟩
      rw [hvalue, List.append_assoc before]

/-- A value gives the identifier that is wrapped in it. -/
theorem annotationName_eq_ok_iff {key value name : String} :
    annotationName key value = .ok name ↔ IsIdentifier name ∧ IsWrapped value name := by
  constructor
  · intro h
    have hname : IsIdentifier name ∧
        (Text.trimChars value.toList).dropWhile (· == '@') = name.toList := by
      rw [annotationName] at h
      split at h
      · cases h
      · next c cs hcs =>
        split at h
        · next hok =>
          cases h
          rw [Bool.and_eq_true, List.all_eq_true] at hok
          rw [String.toList_ofList]
          exact ⟨⟨c, cs, String.toList_ofList, hok.1, hok.2⟩, hcs⟩
        · cases h
    refine ⟨hname.1, (dropWhile_trimChars_eq_iff fun c hc => ?_).mp hname.2⟩
    exact ⟨(hname.1.plain c hc).1, (hname.1.plain c hc).2.1⟩
  · rintro ⟨hname, hwrapped⟩
    have hrest := (dropWhile_trimChars_eq_iff fun c hc =>
      ⟨(hname.plain c hc).1, (hname.plain c hc).2.1⟩).mpr hwrapped
    obtain ⟨c, cs, hcs, hc, hall⟩ := hname
    rw [hcs] at hrest
    have hok : (startsIdentifier c && cs.all continuesIdentifier) = true := by
      rw [Bool.and_eq_true, List.all_eq_true]
      exact ⟨hc, hall⟩
    simp only [annotationName, hrest, hok, ↓reduceIte]
    rw [← hcs, String.ofList_toList]

/-- Why a value gives no name: there is nothing in it but blanks and at-signs, or something that is
no identifier. -/
theorem annotationName_eq_error_iff {key value : String} {fault : ConfigFault} :
    annotationName key value = .error fault ↔
      (IsWrapped value "" ∧ fault = .emptyName key) ∨
      (¬IsWrapped value "" ∧ (∀ name, IsWrapped value name → ¬IsIdentifier name) ∧
        fault = .notSimple key value) := by
  have hempty : IsWrapped value "" ↔
      (Text.trimChars value.toList).dropWhile (· == '@') = [] :=
    (dropWhile_trimChars_eq_iff fun c (hc : c ∈ "".toList) => absurd hc List.not_mem_nil).symm
  have hname : (∀ name, IsWrapped value name → ¬IsIdentifier name) ↔
      ∀ name, annotationName key value ≠ .ok name := by
    refine forall_congr' fun name => ?_
    rw [Ne, annotationName_eq_ok_iff, not_and]
    exact ⟨fun h hi hw => h hw hi, fun h hw hi => h hi hw⟩
  rw [hempty, hname, annotationName]
  cases (Text.trimChars value.toList).dropWhile (· == '@') with
  | nil => simp [eq_comm]
  | cons c cs =>
    by_cases hok : (startsIdentifier c && cs.all continuesIdentifier) = true
    · simp [hok]
    · simp [hok, eq_comm]

/-! ## Properties -/

/-- The keys of the properties that give names. -/
def nameKeys : List String := ["nonNullAnnotation", "nullableAnnotation"]

/-- A property gives a name. -/
def Gives (p : String × String) (name : String) : Prop :=
  p.1 ∈ nameKeys ∧ IsIdentifier name ∧ IsWrapped p.2 name

/-- A property gives at most one name. -/
theorem Gives.unique {p : String × String} {name name' : String} (h : Gives p name)
    (h' : Gives p name') : name = name' := by
  have hok : annotationName p.1 p.2 = .ok name := annotationName_eq_ok_iff.mpr h.2
  rw [annotationName_eq_ok_iff.mpr h'.2] at hok
  cases hok
  rfl

/-- Why a property gives no name: its key is unknown, or there is no name in its value. -/
inductive Refuses (p : String × String) : ConfigFault → Prop
  | unknown (h : p.1 ∉ nameKeys) : Refuses p (.unknownProperty info.id p.1)
  | empty (h : p.1 ∈ nameKeys) (hv : IsWrapped p.2 "") : Refuses p (.emptyName p.1)
  | notSimple (h : p.1 ∈ nameKeys) (he : ¬IsWrapped p.2 "")
    (hv : ∀ name, IsWrapped p.2 name → ¬IsIdentifier name) : Refuses p (.notSimple p.1 p.2)

/-- A property is refused for its key, or for its value if the key is known. -/
theorem refuses_iff {key value : String} {fault : ConfigFault} :
    Refuses (key, value) fault ↔ (key ∉ nameKeys ∧ fault = .unknownProperty info.id key) ∨
      (key ∈ nameKeys ∧ annotationName key value = .error fault) := by
  rw [annotationName_eq_error_iff]
  constructor
  · intro h
    cases h with
    | unknown h => exact Or.inl ⟨h, rfl⟩
    | empty h hv => exact Or.inr ⟨h, Or.inl ⟨hv, rfl⟩⟩
    | notSimple h he hv => exact Or.inr ⟨h, Or.inr ⟨he, hv, rfl⟩⟩
  · rintro (⟨h, rfl⟩ | ⟨h, ⟨hv, rfl⟩ | ⟨he, hv, rfl⟩⟩)
    · exact Refuses.unknown h
    · exact Refuses.empty h hv
    · exact Refuses.notSimple h he hv

/-- A property that is refused gives no name. -/
theorem Refuses.not_gives {p : String × String} {name : String} {fault : ConfigFault}
    (h : Refuses p fault) : ¬Gives p name := by
  rintro ⟨hkey, hname, hvalue⟩
  rcases refuses_iff.mp h with ⟨hnot, -⟩ | ⟨-, herror⟩
  · exact hnot hkey
  · rw [annotationName_eq_ok_iff.mpr ⟨hname, hvalue⟩] at herror
    cases herror

namespace Names

variable {names names' : Names} {key value : String} {ps : Properties} {fault : ConfigFault}

/-- The name that a key stands for. -/
def get? (names : Names) (key : String) : Option String :=
  if key = "nonNullAnnotation" then some names.nonNull
  else if key = "nullableAnnotation" then some names.nullable
  else none

/-- A property is taken in if it gives a name, which replaces the one of its key. -/
theorem set_eq_ok (h : names.set key value = .ok names') :
    ∃ name, Gives (key, value) name ∧
      ∀ k, names'.get? k = if k = key then some name else names.get? k := by
  rw [set] at h
  split_ifs at h with h1 h2
  · obtain ⟨name, hname, rfl⟩ := map_eq_ok_iff.mp h
    refine ⟨name, ⟨by simp [nameKeys, h1], annotationName_eq_ok_iff.mp hname⟩, fun k => ?_⟩
    subst h1
    simp only [get?]
    split_ifs <;> rfl
  · obtain ⟨name, hname, rfl⟩ := map_eq_ok_iff.mp h
    refine ⟨name, ⟨by simp [nameKeys, h2], annotationName_eq_ok_iff.mp hname⟩, fun k => ?_⟩
    subst h2
    simp only [get?]
    split_ifs with hk hk'
    · exact absurd (hk'.symm.trans hk) h1
    · rfl
    · rfl
    · rfl

/-- A property is refused for the same reason whatever the names are. -/
theorem set_eq_error_iff : names.set key value = .error fault ↔ Refuses (key, value) fault := by
  have hkeys : key ∈ nameKeys ↔ key = "nonNullAnnotation" ∨ key = "nullableAnnotation" := by
    simp [nameKeys]
  rw [refuses_iff, hkeys, set]
  split_ifs with h1 h2
  · simp [h1, map_eq_error_iff]
  · simp [h2, map_eq_error_iff]
  · simp [h1, h2, eq_comm]

/-- A property that gives a name is taken in. -/
theorem exists_set_eq_ok (h : ∃ name, Gives (key, value) name) (names : Names) :
    ∃ names', names.set key value = .ok names' := by
  cases hset : names.set key value with
  | ok names' => exact ⟨names', rfl⟩
  | error fault =>
    obtain ⟨name, hname⟩ := h
    exact absurd hname (set_eq_error_iff.mp hset).not_gives

/-- The names that some properties lead to. The last property of a key gives its name, and a name
that no property is about is kept. -/
structure Updates (names : Names) (ps : Properties) (names' : Names) : Prop where
  given : ∀ before key value after, ps = before ++ (key, value) :: after →
    (∀ p ∈ after, p.1 ≠ key) → ∃ name, Gives (key, value) name ∧ names'.get? key = some name
  kept : ∀ key, (∀ p ∈ ps, p.1 ≠ key) → names'.get? key = names.get? key

/-- A key has a last property, or none. -/
theorem forall_ne_or_exists_last (ps : Properties) (key : String) :
    (∀ p ∈ ps, p.1 ≠ key) ∨ ∃ before value after, ps = before ++ (key, value) :: after ∧
      ∀ p ∈ after, p.1 ≠ key := by
  induction ps with
  | nil => exact Or.inl fun p hp => absurd hp List.not_mem_nil
  | cons p ps ih =>
    rcases ih with hnone | ⟨before, value, after, rfl, hafter⟩
    · by_cases hp : p.1 = key
      · exact Or.inr ⟨[], p.2, ps, by rw [← hp]; rfl, hnone⟩
      · exact Or.inl (List.forall_mem_cons.mpr ⟨hp, hnone⟩)
    · exact Or.inr ⟨p :: before, value, after, rfl, hafter⟩

/-- A name that some properties lead to is an identifier if the one before was. -/
theorem Updates.isIdentifier (h : names.Updates ps names') (key : String) {name : String}
    (hname : names'.get? key = some name)
    (hold : ∀ old, names.get? key = some old → IsIdentifier old) : IsIdentifier name := by
  rcases forall_ne_or_exists_last ps key with hnone | ⟨before, value, after, hps, hafter⟩
  · rw [h.kept key hnone] at hname
    exact hold name hname
  · obtain ⟨given, hgives, hget⟩ := h.given before key value after hps hafter
    rw [hget] at hname
    cases hname
    exact hgives.2.1

/-- If some properties are taken in, each of them gives a name, and the names are those they lead
to.

**Proof sketch.** Induction on the properties. The first one replaces the name of its key alone. If
no later property is about that key, the name stays, since the others keep it. -/
theorem updates_of_configure (h : names.configure ps = .ok names') :
    (∀ p ∈ ps, ∃ name, Gives p name) ∧ names.Updates ps names' := by
  induction ps generalizing names with
  | nil =>
    cases h
    refine ⟨fun p hp => absurd hp List.not_mem_nil, ⟨?_, fun key _ => rfl⟩⟩
    intro before key value after hps
    simp at hps
  | cons p ps ih =>
    obtain ⟨key, value⟩ := p
    obtain ⟨names₁, hset, hrest⟩ := bind_eq_ok_iff.mp h
    obtain ⟨name, hgives, hget⟩ := set_eq_ok hset
    obtain ⟨hall, hgiven, hkept⟩ := ih hrest
    refine ⟨List.forall_mem_cons.mpr ⟨⟨name, hgives⟩, hall⟩, ⟨?_, ?_⟩⟩
    · -- The last property about a key is the first one of all, or one of the others.
      intro before k v after hps hafter
      rcases List.cons_eq_append_iff.mp hps with ⟨rfl, hcons⟩ | ⟨before', rfl, hps'⟩
      · obtain ⟨hp, rfl⟩ := List.cons.inj hcons
        obtain ⟨rfl, rfl⟩ := Prod.mk.inj hp
        exact ⟨name, hgives, by rw [hkept k hafter, hget, if_pos rfl]⟩
      · exact hgiven before' k v after hps' hafter
    · intro k hk
      rw [List.forall_mem_cons] at hk
      rw [hkept k hk.2, hget, if_neg (Ne.symm hk.1)]

/-- Some properties are refused for the first one that gives no name.

**Proof sketch.** Induction on the properties, by what the first one comes to. -/
theorem configure_eq_error_iff :
    names.configure ps = .error fault ↔ ∃ before p after, ps = before ++ p :: after ∧
      (∀ q ∈ before, ∃ name, Gives q name) ∧ Refuses p fault := by
  induction ps generalizing names with
  | nil => simp [configure]
  | cons p ps ih =>
    obtain ⟨key, value⟩ := p
    rw [configure, bind_eq_error_iff]
    constructor
    · rintro (hset | ⟨names₁, hset, hrest⟩)
      · exact ⟨[], (key, value), ps, rfl, by simp, set_eq_error_iff.mp hset⟩
      · obtain ⟨before, p, after, rfl, hbefore, hp⟩ := ih.mp hrest
        obtain ⟨name, hgives, -⟩ := set_eq_ok hset
        exact ⟨(key, value) :: before, p, after, rfl,
          List.forall_mem_cons.mpr ⟨⟨name, hgives⟩, hbefore⟩, hp⟩
    · rintro ⟨before, p, after, hps, hbefore, hp⟩
      rcases List.cons_eq_append_iff.mp hps with ⟨rfl, hcons⟩ | ⟨before', rfl, hps'⟩
      · obtain ⟨rfl, rfl⟩ := List.cons.inj hcons
        exact Or.inl (set_eq_error_iff.mpr hp)
      · rw [List.forall_mem_cons] at hbefore
        obtain ⟨names₁, hset⟩ := exists_set_eq_ok hbefore.1 names
        exact Or.inr ⟨names₁, hset, ih.mpr ⟨before', p, after, hps', hbefore.2, hp⟩⟩

/-- The names are determined by what the keys stand for. -/
theorem eq_of_get?_eq (h : ∀ key, names.get? key = names'.get? key) : names = names' := by
  obtain ⟨nonNull, nullable⟩ := names
  obtain ⟨nonNull', nullable'⟩ := names'
  have hnonNull : nonNull = nonNull' := Option.some.inj (h "nonNullAnnotation")
  have hnullable : nullable = nullable' := Option.some.inj (h "nullableAnnotation")
  rw [hnonNull, hnullable]

/-- Some properties lead to one pair of names only. -/
theorem Updates.unique {names₁ names₂ : Names} (h₁ : names.Updates ps names₁)
    (h₂ : names.Updates ps names₂) : names₁ = names₂ := by
  apply eq_of_get?_eq
  intro key
  rcases forall_ne_or_exists_last ps key with hnone | ⟨before, value, after, hps, hafter⟩
  · rw [h₁.kept key hnone, h₂.kept key hnone]
  · obtain ⟨name₁, hgives₁, hget₁⟩ := h₁.given before key value after hps hafter
    obtain ⟨name₂, hgives₂, hget₂⟩ := h₂.given before key value after hps hafter
    rw [hget₁, hget₂, hgives₁.unique hgives₂]

/-- Some properties are taken in if each of them gives a name. -/
theorem configure_eq_ok_iff :
    names.configure ps = .ok names' ↔ (∀ p ∈ ps, ∃ name, Gives p name) ∧
      names.Updates ps names' := by
  constructor
  · exact updates_of_configure
  · rintro ⟨hall, hupdates⟩
    cases hconfigure : names.configure ps with
    | ok names₁ => rw [hupdates.unique (updates_of_configure hconfigure).2]
    | error fault =>
      obtain ⟨before, p, after, rfl, -, hrefuses⟩ := configure_eq_error_iff.mp hconfigure
      obtain ⟨name, hname⟩ := hall p (by simp)
      exact absurd hname hrefuses.not_gives

/-- If no key is given twice, each property gives the name of its key. -/
theorem updates_iff_of_pairwise (hps : ps.Pairwise fun p q => p.1 ≠ q.1) :
    names.Updates ps names' ↔ ∀ key,
      (∀ value, (key, value) ∈ ps → ∃ name, Gives (key, value) name ∧
        names'.get? key = some name) ∧
      ((∀ value, (key, value) ∉ ps) → names'.get? key = names.get? key) := by
  have hnone : ∀ key, (∀ p ∈ ps, p.1 ≠ key) ↔ ∀ value, (key, value) ∉ ps := by
    intro key
    constructor
    · exact fun h value hmem => h _ hmem rfl
    · rintro h p hp rfl
      exact h p.2 hp
  constructor
  · rintro ⟨hgiven, hkept⟩ key
    refine ⟨fun value hmem => ?_, fun h => hkept key ((hnone key).mpr h)⟩
    obtain ⟨before, after, rfl⟩ := List.append_of_mem hmem
    refine hgiven before key value after rfl fun p hp => ?_
    have hafter := (List.pairwise_append.mp hps).2.1
    exact (List.rel_of_pairwise_cons hafter hp).symm
  · intro h
    refine ⟨?_, fun key hk => (h key).2 ((hnone key).mp hk)⟩
    intro before key value after hsplit _
    exact (h key).1 value (by simp [hsplit])

end Names

end NullLint.NullAnnotations
