import NullLint.CommandLine
import NullLint.Proofs.Progress

set_option autoImplicit false
set_option relaxedAutoImplicit false

/-!
# Calls that are watched

Some words of a call only ask for it to be watched: the flags `--quiet` and `--timing`, and the
option `--otel` with its value. Without these words a call asks for the same.

## Main definitions

* `CommandLine.unwatchedWords` — the words of a call without those that ask for it to be watched.
* `CommandLine.Options.unwatched` — the options of a call without those that ask for it to be
  watched.

## Main results

* `CommandLine.parse_unwatchedWords` — **without the words** that ask for it to be watched, a call
  asks for the same.

## Design

An option with a value takes effect only with the next word. So a word that is left out may be the
one that lets the option before it take effect, and the two readings agree only up to that.
-/

namespace NullLint.CommandLine

/-- The words of a call without those that ask for it to be watched. -/
def unwatchedWords : List String → List String
  | [] => []
  | w :: ws =>
    match Word.of w with
    | .hyphens => w :: ws
    | .long "quiet" none => unwatchedWords ws
    | .long "timing" none => unwatchedWords ws
    | .long "otel" (some _) => unwatchedWords ws
    | .long "otel" none =>
      match ws with
      | [] => []
      | _ :: ws => unwatchedWords ws
    | _ => w :: unwatchedWords ws

/-- The options of a call without those that ask for it to be watched. -/
def Options.unwatched (o : Options) : Options :=
  { o with otel := none, quiet := false, timing := false }

/-- Only one name is that of the option for an endpoint. -/
theorem Choice.eq_otel_of_named? {name : String}
    (h : Choice.named? name = some .otel) : name = "otel" := by
  rw [Choice.named?] at h
  split_ifs at h with _ _ _ hotel <;> first | exact hotel | cases h

namespace State

/-- What has been read of a call, without what asks for it to be watched. -/
def unwatched (s : State) : State :=
  { s with otel := none, quiet := false, timing := false }

variable {s s' t : State} {choice : Choice} {value : String}

/-- An option takes effect whether or not the call is watched. -/
theorem choose_unwatched (hc : choice ≠ .otel) (h : s.choose choice value = .ok s') :
    s.unwatched.choose choice value = .ok s'.unwatched := by
  cases choice with
  | otel => exact absurd rfl hc
  | property =>
    cases h
    rfl
  | input =>
    obtain ⟨v, hv, rfl⟩ := map_eq_ok_iff.mp h
    exact map_eq_ok_iff.mpr ⟨v, hv, rfl⟩
  | output =>
    obtain ⟨v, hv, rfl⟩ := map_eq_ok_iff.mp h
    exact map_eq_ok_iff.mpr ⟨v, hv, rfl⟩

/-- An option that takes effect leaves alone what waits. -/
theorem waiting_choose (h : s.choose choice value = .ok s') : s'.waiting = s.waiting := by
  cases choice with
  | property =>
    cases h
    rfl
  | input | output | otel =>
    obtain ⟨v, -, rfl⟩ := map_eq_ok_iff.mp h
    rfl

/-- Where a call names an endpoint is all that the option for it changes. -/
theorem unwatched_choose_otel (h : s.choose .otel value = .ok s') : s'.unwatched = s.unwatched := by
  obtain ⟨v, -, rfl⟩ := map_eq_ok_iff.mp h
  rfl

/-- Nothing waits when the option that waited has taken effect. -/
theorem waiting_settle (h : s.settle = .ok s') : s'.waiting = none := by
  rw [settle] at h
  split at h
  · next hnone =>
    cases h
    exact hnone
  · cases h
  · exact waiting_choose h

theorem settle_of_waiting_eq_none (h : s.waiting = none) : s.settle = .ok s := by
  rw [settle, h]

/-- The reading of a call, and that of the same call without the words that ask for it to be
watched. When what waits has taken effect they are the same but for those words; and if an option
waits for its value, it is none that asks for the call to be watched. -/
structure Mirrors (s t : State) : Prop where
  settle : ∀ s', s.settle = .ok s' → t.settle = .ok s'.unwatched
  waiting : ∀ choice, s.waiting = some (choice, none) → choice ≠ .otel ∧ t = s.unwatched

theorem Mirrors.of_waiting_eq_none (hs : s.waiting = none) (ht : t.settle = .ok s.unwatched) :
    Mirrors s t := by
  refine ⟨fun s' h => ?_, fun choice h => ?_⟩
  · rw [settle_of_waiting_eq_none hs] at h
    cases h
    exact ht
  · rw [hs] at h
    cases h

theorem Mirrors.start : Mirrors {} {} := of_waiting_eq_none rfl rfl

/-- A flag that asks for a call to be watched is read. -/
theorem Mirrors.raise (flag : Flag) (hm : Mirrors s t)
    (h : (s.settle.bind fun s => s.raise flag) = .ok s') : Mirrors s' t := by
  obtain ⟨settled, hsettle, hraise⟩ := bind_eq_ok_iff.mp h
  have hwaiting := waiting_settle hsettle
  have ht := hm.settle settled hsettle
  cases flag with
  | quiet | timing =>
    rw [State.raise] at hraise
    split at hraise
    · cases hraise
    · cases hraise
      exact of_waiting_eq_none hwaiting ht
  | help | version => cases hraise

/-- The option for an endpoint is read together with its value. -/
theorem Mirrors.otel {settled : State} (hm : Mirrors s t) (hsettle : s.settle = .ok settled) :
    (∀ s', settled.choose .otel value = .ok s' → Mirrors s' t) ∧
      Mirrors { settled with waiting := some (.otel, some value) } t := by
  have hwaiting := waiting_settle hsettle
  have ht := hm.settle settled hsettle
  constructor
  · intro s' h
    refine of_waiting_eq_none ((waiting_choose h).trans hwaiting) ?_
    rw [unwatched_choose_otel h]
    exact ht
  · refine ⟨fun s' h => ?_, fun choice h => by cases h⟩
    have hunwatched := unwatched_choose_otel h
    rw [hunwatched, ht, unwatched, unwatched, hwaiting]

/-- Another option is read. -/
theorem Mirrors.readLong {name : String} {value : Option String} (hm : Mirrors s t)
    (hname : Choice.named? name = some choice) (hc : choice ≠ .otel)
    (h : s.readLong name value = .ok s') :
    ∃ t', t.readLong name value = .ok t' ∧ Mirrors s' t' := by
  rw [State.readLong, hname] at h
  rw [State.readLong, hname]
  obtain ⟨settled, hsettle, hread⟩ := bind_eq_ok_iff.mp h
  have hwaiting := waiting_settle hsettle
  dsimp only
  rw [hm.settle settled hsettle]
  cases value with
  | none =>
    cases hread
    refine ⟨_, rfl, ⟨fun s' h => ?_, fun choice' h => ?_⟩⟩
    · cases h
    · cases h
      exact ⟨hc, rfl⟩
  | some value =>
    have hs' := (waiting_choose hread).trans hwaiting
    exact ⟨s'.unwatched, choose_unwatched hc hread,
      of_waiting_eq_none hs' (settle_of_waiting_eq_none hs')⟩

/-- The value of another option is read. -/
theorem Mirrors.readValue (hm : Mirrors s t) (h : s.readValue value = .ok s') :
    ∃ t', t.readValue value = .ok t' ∧ Mirrors s' t' := by
  rw [State.readValue] at h
  split at h
  · next choice hwaiting =>
    cases h
    obtain ⟨hc, rfl⟩ := hm.waiting choice hwaiting
    refine ⟨_, by rw [State.readValue, unwatched, hwaiting], ⟨fun s' h => ?_, fun choice' h => ?_⟩⟩
    · exact choose_unwatched hc h
    · cases h
  · cases h

/-- The end of a call is read. -/
theorem Mirrors.finish {o : Options} (hm : Mirrors s t) (h : s.finish = .ok o) :
    t.finish = .ok o.unwatched := by
  obtain ⟨settled, hsettle, h⟩ := bind_eq_ok_iff.mp h
  refine bind_eq_ok_iff.mpr ⟨settled.unwatched, hm.settle settled hsettle, ?_⟩
  split at h
  · cases h
  · next input hinput =>
    cases h
    simp only [unwatched, hinput]
    rfl

/-! ## All words -/

theorem readShort_ne_ok {letter : Char} : s.readShort letter ≠ .ok s' := by
  intro h
  rw [readShort] at h
  split_ifs at h <;>
    · obtain ⟨settled, -, h⟩ := bind_eq_ok_iff.mp h
      cases h

/-- A name that is read without an error is that of an option, or that of a flag that asks for the
call to be watched. -/
theorem exists_of_readLong {name : String} {value : Option String}
    (h : s.readLong name value = .ok s') :
    (∃ choice, Choice.named? name = some choice) ∨
      value = none ∧ (name = "quiet" ∨ name = "timing") := by
  cases hchoice : Choice.named? name with
  | some choice => exact Or.inl ⟨choice, rfl⟩
  | none =>
    rw [readLong, hchoice] at h
    cases hflag : Flag.named? name with
    | none =>
      rw [hflag] at h
      cases h
    | some flag =>
      rw [hflag] at h
      cases value with
      | some value => cases h
      | none =>
        obtain ⟨settled, -, hraise⟩ := bind_eq_ok_iff.mp h
        refine Or.inr ⟨rfl, ?_⟩
        rw [Flag.named?] at hflag
        split_ifs at hflag with hquiet htiming <;> cases hflag
        · exact Or.inl hquiet
        · exact Or.inr htiming
        · cases hraise
        · cases hraise

/-- A name cannot be read while an option waits for its value. -/
theorem readLong_ne_ok {name : String} {value : Option String}
    (hwaiting : s.waiting = some (choice, none)) : s.readLong name value ≠ .ok s' := by
  have hsettle : s.settle = .error .invalidValue := by rw [settle, hwaiting]
  intro h
  rw [readLong, hsettle] at h
  split at h
  · cases h
  · split at h
    · cases h
    · split at h <;> cases h

/-- An option that waits for its value gets it with the next word. -/
theorem exists_value_of_read {w : String} {ws : List String} {o : Options}
    (hwaiting : s.waiting = some (choice, none)) (h : s.read (w :: ws) = .ok o) :
    ∃ value, { s with waiting := some (choice, some value) }.read ws = .ok o := by
  have hsettle : s.settle = .error .invalidValue := by rw [settle, hwaiting]
  rw [State.read] at h
  split at h
  · split at h
    · rw [finish, hsettle] at h
      cases h
    · cases h
  · next name value hw =>
    obtain ⟨s', hs', -⟩ := bind_eq_ok_iff.mp h
    exact absurd hs' (readLong_ne_ok hwaiting)
  · next letter hw =>
    obtain ⟨s', hs', -⟩ := bind_eq_ok_iff.mp h
    exact absurd hs' readShort_ne_ok
  · next value hw =>
    obtain ⟨s', hs', hread⟩ := bind_eq_ok_iff.mp h
    rw [readValue, hwaiting] at hs'
    cases hs'
    exact ⟨value, hread⟩

/-- What is read of the words of a call, read without those that ask for it to be watched. -/
theorem Mirrors.read {ws : List String} {o : Options} (hm : Mirrors s t)
    (h : s.read ws = .ok o) : t.read (unwatchedWords ws) = .ok o.unwatched := by
  induction ws using unwatchedWords.induct generalizing s t with
  | case1 => exact hm.finish h
  | case2 w ws hw =>
    rw [unwatchedWords.eq_def]
    simp only [hw, State.read] at h ⊢
    split at h
    · next hempty =>
      rw [if_pos hempty]
      exact hm.finish h
    · cases h
  | case3 w ws hw ih =>
    rw [State.read, hw] at h
    obtain ⟨s', hs', hread⟩ := bind_eq_ok_iff.mp h
    rw [unwatchedWords.eq_def]
    simp only [hw]
    exact ih (hm.raise .quiet hs') hread
  | case4 w ws hw ih =>
    rw [State.read, hw] at h
    obtain ⟨s', hs', hread⟩ := bind_eq_ok_iff.mp h
    rw [unwatchedWords.eq_def]
    simp only [hw]
    exact ih (hm.raise .timing hs') hread
  | case5 w ws value hw ih =>
    rw [State.read, hw] at h
    obtain ⟨s', hs', hread⟩ := bind_eq_ok_iff.mp h
    obtain ⟨settled, hsettle, hchoose⟩ := bind_eq_ok_iff.mp hs'
    rw [unwatchedWords.eq_def]
    simp only [hw]
    exact ih ((hm.otel hsettle).1 s' hchoose) hread
  | case6 w hw =>
    rw [State.read, hw] at h
    obtain ⟨s', hs', hread⟩ := bind_eq_ok_iff.mp h
    obtain ⟨settled, hsettle, hchoose⟩ := bind_eq_ok_iff.mp hs'
    cases hchoose
    cases hread
  | case7 w hw next ws ih =>
    rw [State.read, hw] at h
    obtain ⟨s', hs', hread⟩ := bind_eq_ok_iff.mp h
    obtain ⟨settled, hsettle, hchoose⟩ := bind_eq_ok_iff.mp hs'
    cases hchoose
    obtain ⟨value, hvalue⟩ := exists_value_of_read rfl hread
    rw [unwatchedWords.eq_def]
    simp only [hw]
    exact ih (hm.otel hsettle).2 hvalue
  | case8 w ws hhyphens hquiet htiming hotel hotel' ih =>
    have hkeep : unwatchedWords (w :: ws) = w :: unwatchedWords ws := by
      rw [unwatchedWords.eq_def]
      dsimp only
      split
      · next heq => exact (hhyphens heq).elim
      · next heq => exact (hquiet heq).elim
      · next heq => exact (htiming heq).elim
      · next value heq => exact (hotel value heq).elim
      · next heq => exact (hotel' heq).elim
      · rfl
    rw [hkeep, State.read]
    rw [State.read] at h
    cases hw : Word.of w with
    | hyphens => exact absurd hw hhyphens
    | short letter =>
      rw [hw] at h
      obtain ⟨s', hs', -⟩ := bind_eq_ok_iff.mp h
      exact absurd hs' readShort_ne_ok
    | value value =>
      rw [hw] at h
      obtain ⟨s', hs', hread⟩ := bind_eq_ok_iff.mp h
      obtain ⟨t', ht', hm'⟩ := hm.readValue hs'
      exact bind_eq_ok_iff.mpr ⟨t', ht', ih hm' hread⟩
    | long name value =>
      rw [hw] at h
      obtain ⟨s', hs', hread⟩ := bind_eq_ok_iff.mp h
      rcases exists_of_readLong hs' with ⟨choice, hchoice⟩ | ⟨rfl, rfl | rfl⟩
      · have hname : choice ≠ .otel := by
          rintro rfl
          obtain rfl := Choice.eq_otel_of_named? hchoice
          cases value with
          | none => exact hotel' hw
          | some value => exact hotel value hw
        obtain ⟨t', ht', hm'⟩ := hm.readLong hchoice hname hs'
        exact bind_eq_ok_iff.mpr ⟨t', ht', ih hm' hread⟩
      · exact absurd hw hquiet
      · exact absurd hw htiming

end State

/-- **Without the words that ask for it to be watched, a call asks for the same.** -/
theorem parse_unwatchedWords {words : List String} {o : Options} (h : parse words = .ok o) :
    parse (unwatchedWords words) = .ok o.unwatched :=
  State.Mirrors.start.read h

/-- Calls that differ in how they are watched ask for the same but for that. -/
theorem unwatched_eq_of_parse {words words' : List String} {o o' : Options}
    (hwords : unwatchedWords words = unwatchedWords words') (h : parse words = .ok o)
    (h' : parse words' = .ok o') : o.unwatched = o'.unwatched := by
  have ho := parse_unwatchedWords h
  rw [hwords, parse_unwatchedWords h'] at ho
  exact (Except.ok.inj ho).symm

end NullLint.CommandLine
