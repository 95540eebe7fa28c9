import Mathlib.Data.List.Nodup
import NullLint.Engine.Pool
import NullLint.Proofs.Progress

set_option autoImplicit false
set_option relaxedAutoImplicit false

/-!
# Independence of the schedule

Whatever the workers do, a job waits, is under way or is finished, and what a finished job came to
is what the work on it comes to. Once the work is settled no worker is busy, and no job waits unless
one has failed. So the values of the jobs do not depend on the schedule, and an error is that of
some job.

## Main definitions

* `Pool.Makes` — the moves that workers can make.
* `Pool.Sound` — what holds of the work after any moves.
* `Pool.Settled` — what holds of the work in the end.

## Main results

* `Pool.step_makes` — a step is a move that can be made, or none.
* `Pool.sound_run`, `Pool.settled_run` — the invariant of a run, and its end.
* `Pool.run_induction` — what each move keeps holds in the end.
* `Pool.result_run_eq_ok_iff` — the work succeeds with the values of all jobs in their order.
* `Pool.work_eq_error_of_result_run` — the work fails with the error of a job.
-/

namespace NullLint.Pool

variable {ε α : Type} {work : Nat → Except ε α} {n : Nat} {p q : Pool ε α}

/-! ## Moves -/

/-- The workers that are busy. -/
def workers (p : Pool ε α) : List Nat :=
  p.busy.map (·.1)

/-- All jobs of a pool: those that wait, those under way and those that are finished. -/
def jobs (p : Pool ε α) : List Nat :=
  p.waiting ++ p.busy.map (·.2) ++ p.finished.map (·.1)

/-- The moves that workers can make. A free worker takes a job that waits, as long as none has
failed. A busy worker finishes its job. -/
inductive Makes (work : Nat → Except ε α) (p : Pool ε α) : Deed → Pool ε α → Prop
  | take (worker job : Nat) (before after : List Nat) (hfail : p.firstError? = none)
      (hwait : p.waiting = before ++ job :: after) (hfree : worker ∉ p.workers) :
      Makes work p (.took worker job)
        { p with
          waiting := before ++ after
          busy := p.busy ++ [(worker, job)]
          deeds := p.deeds ++ [.took worker job] }
  | finish (worker job : Nat) (before after : List (Nat × Nat))
      (hbusy : p.busy = before ++ (worker, job) :: after) :
      Makes work p (.finished worker job)
        { p with
          busy := before ++ after
          finished := p.finished ++ [(job, work job)]
          deeds := p.deeds ++ [.finished worker job] }

/-- A worker without a job is free. -/
theorem jobOf?_eq_none_iff {worker : Nat} : p.jobOf? worker = none ↔ worker ∉ p.workers := by
  rw [jobOf?, Option.map_eq_none_iff, List.find?_eq_none, workers, List.mem_map]
  constructor
  · rintro h ⟨b, hb, rfl⟩
    exact h b hb (beq_self_eq_true b.1)
  · intro h b hb hw
    exact h ⟨b, hb, eq_of_beq hw⟩

/-- A worker with a job is busy with it, and no earlier entry of the busy workers is its own. -/
theorem exists_of_jobOf?_eq_some {worker job : Nat} (h : p.jobOf? worker = some job) :
    ∃ before after, p.busy = before ++ (worker, job) :: after ∧ ∀ b ∈ before, b.1 ≠ worker := by
  rw [jobOf?, Option.map_eq_some_iff] at h
  obtain ⟨b, hb, rfl⟩ := h
  obtain ⟨hw, before, after, hbusy, hbefore⟩ := List.find?_eq_some_iff_append.mp hb
  have hworker : b.1 = worker := eq_of_beq hw
  subst hworker
  refine ⟨before, after, hbusy, fun x hx heq => ?_⟩
  simpa [heq] using hbefore x hx

/-- When a worker can take a job. -/
theorem canTake_iff {worker job : Nat} :
    p.canTake worker job = true ↔
      p.firstError? = none ∧ job ∈ p.waiting ∧ worker ∉ p.workers := by
  rw [canTake, Bool.and_eq_true, Bool.and_eq_true, Option.isNone_iff_eq_none,
    Option.isNone_iff_eq_none, List.contains_iff_mem, jobOf?_eq_none_iff, and_assoc]

/-- Without the entry of a worker that is among the busy ones once, the others are left. -/
theorem filter_worker {before after : List (Nat × Nat)} {worker job : Nat}
    (hb : ∀ b ∈ before, b.1 ≠ worker) (ha : ∀ b ∈ after, b.1 ≠ worker) :
    (before ++ (worker, job) :: after).filter (fun b => b.1 != worker) = before ++ after := by
  have hkeep : ∀ bs : List (Nat × Nat), (∀ b ∈ bs, b.1 ≠ worker) →
      bs.filter (fun b => b.1 != worker) = bs := by
    intro bs h
    refine List.filter_eq_self.mpr fun b hb => ?_
    exact bne_iff_ne.mpr (h b hb)
  rw [List.filter_append, List.filter_cons_of_neg (by simp), hkeep before hb, hkeep after ha]

/-- If no worker has two jobs, a step is a move that can be made, or it is passed over. -/
theorem step_makes (hn : p.workers.Nodup) (move : Move) :
    step work p move = p ∨ ∃ deed, Makes work p deed (step work p move) := by
  cases move with
  | take worker job =>
    by_cases h : p.canTake worker job = true
    · obtain ⟨hfail, hjob, hfree⟩ := canTake_iff.mp h
      obtain ⟨before, after, -, hwait, herase⟩ := List.exists_erase_eq hjob
      refine Or.inr ⟨.took worker job, ?_⟩
      rw [step, if_pos h, herase]
      exact Makes.take worker job before after hfail hwait hfree
    · rw [step, if_neg h]
      exact Or.inl rfl
  | finish worker =>
    cases h : p.jobOf? worker with
    | none =>
      rw [step, h]
      exact Or.inl rfl
    | some job =>
      obtain ⟨before, after, hbusy, hbefore⟩ := exists_of_jobOf?_eq_some h
      have hafter : ∀ b ∈ after, b.1 ≠ worker := by
        intro b hb heq
        rw [workers, hbusy, List.map_append, List.map_cons] at hn
        have hnot := (List.nodup_cons.mp (List.nodup_append.mp hn).2.1).1
        exact hnot (List.mem_map.mpr ⟨b, hb, heq⟩)
      refine Or.inr ⟨.finished worker job, ?_⟩
      rw [step, h]
      dsimp only
      rw [hbusy, filter_worker hbefore hafter]
      exact Makes.finish worker job before after hbusy

/-! ## The invariant -/

/-- What holds of the work on `n` jobs after any moves: no job is lost or doubled, what a job came
to is what the work on it comes to, and no worker has two jobs. -/
structure Sound (work : Nat → Except ε α) (n : Nat) (p : Pool ε α) : Prop where
  jobs : p.jobs.Perm (List.range n)
  outcomes : ∀ done ∈ p.finished, done.2 = work done.1
  workers : p.workers.Nodup

theorem sound_start (work : Nat → Except ε α) (n : Nat) : Sound work n (start n) where
  jobs := by simp [Pool.jobs, start]
  outcomes := by simp [start]
  workers := by simp [Pool.workers, start]

/-- A move moves one job on, and nothing else. -/
theorem Makes.jobs {deed : Deed} (h : Makes work p deed q) : q.jobs.Perm p.jobs := by
  rw [List.perm_iff_count]
  intro job
  cases h with
  | take worker taken before after hfail hwait hfree =>
    simp only [Pool.jobs, hwait, List.map_append, List.map_cons, List.map_nil, List.count_append,
      List.count_cons, List.count_nil]
    omega
  | finish worker ended before after hbusy =>
    simp only [Pool.jobs, hbusy, List.map_append, List.map_cons, List.map_nil, List.count_append,
      List.count_cons, List.count_nil]
    omega

/-- A move keeps the work sound. -/
theorem Makes.sound {deed : Deed} (h : Makes work p deed q) (hp : Sound work n p) :
    Sound work n q := by
  refine ⟨h.jobs.trans hp.jobs, ?_, ?_⟩
  · cases h with
    | take worker job before after hfail hwait hfree => exact hp.outcomes
    | finish worker job before after hbusy =>
      intro done hdone
      rcases List.mem_append.mp hdone with hdone | hdone
      · exact hp.outcomes done hdone
      · rw [List.mem_singleton.mp hdone]
  · have hn := hp.workers
    cases h with
    | take worker job before after hfail hwait hfree =>
      rw [Pool.workers, List.map_append, List.map_cons, List.map_nil, List.nodup_append]
      refine ⟨hn, List.nodup_singleton worker, ?_⟩
      intro w hw x hx heq
      rw [heq, List.mem_singleton.mp hx] at hw
      exact hfree hw
    | finish worker job before after hbusy =>
      rw [Pool.workers, hbusy] at hn
      refine hn.sublist (List.Sublist.map _ ?_)
      exact (List.sublist_cons_self (worker, job) after).append_left before

theorem sound_step (hp : Sound work n p) (move : Move) : Sound work n (step work p move) := by
  rcases step_makes hp.workers move with h | ⟨deed, h⟩
  · rw [h]
    exact hp
  · exact h.sound hp

theorem sound_after (hp : Sound work n p) (moves : List Move) :
    Sound work n (after work p moves) := by
  induction moves generalizing p with
  | nil => exact hp
  | cons move moves ih => exact ih (sound_step hp move)

theorem sound_run (work : Nat → Except ε α) (n : Nat) (schedule : List Move) :
    Sound work n (run work n schedule) :=
  sound_after (sound_after (sound_start work n) schedule) _

/-- What holds before the first move and is kept by each move of sound work holds in the end. -/
theorem run_induction {motive : Pool ε α → Prop} (schedule : List Move) (hstart : motive (start n))
    (hmakes : ∀ p deed q, Sound work n p → Makes work p deed q → motive p → motive q) :
    motive (run work n schedule) := by
  have hafter : ∀ (moves : List Move) (p : Pool ε α), Sound work n p → motive p →
      motive (after work p moves) := by
    intro moves
    induction moves with
    | nil => exact fun p _ h => h
    | cons move moves ih =>
      intro p hp h
      refine ih _ (sound_step hp move) ?_
      rcases step_makes hp.workers move with hstep | ⟨deed, hmade⟩
      · rw [hstep]
        exact h
      · exact hmakes p deed _ hp hmade h
  have hsound := sound_start work n
  exact hafter _ _ (sound_after hsound schedule) (hafter schedule _ hsound hstart)

/-! ## The end of a run -/

/-- What holds of the work in the end: no worker is busy, and a job waits only if one has failed. -/
structure Settled (p : Pool ε α) : Prop where
  busy : p.busy = []
  waiting : p.firstError? = none → p.waiting = []

/-- Moves one after the other. -/
theorem after_append (work : Nat → Except ε α) (p : Pool ε α) (first rest : List Move) :
    after work p (first ++ rest) = after work (after work p first) rest := by
  unfold after
  exact List.foldl_append

/-- When all busy workers have finished, the jobs that wait are the same.

**Proof sketch.** Induction on the busy workers. The first one finishes its job, which leaves the
others, since it has no other job. -/
theorem idle_after_finish (work : Nat → Except ε α) {bs : List (Nat × Nat)} (hbusy : p.busy = bs)
    (hn : p.workers.Nodup) :
    (after work p (bs.map fun b => .finish b.1)).busy = [] ∧
      (after work p (bs.map fun b => .finish b.1)).waiting = p.waiting := by
  induction bs generalizing p with
  | nil => exact ⟨hbusy, rfl⟩
  | cons b bs ih =>
    have hjob : p.jobOf? b.1 = some b.2 := by simp [jobOf?, hbusy]
    rw [workers, hbusy, List.map_cons, List.nodup_cons] at hn
    have hrest : (step work p (.finish b.1)).busy = bs := by
      have hbs : ∀ x ∈ bs, x.1 ≠ b.1 := fun x hx heq => hn.1 (List.mem_map.mpr ⟨x, hx, heq⟩)
      rw [step, hjob]
      dsimp only
      rw [hbusy]
      change ([] ++ (b.1, b.2) :: bs).filter _ = [] ++ bs
      exact filter_worker (by simp) hbs
    have hwait : (step work p (.finish b.1)).waiting = p.waiting := by
      rw [step, hjob]
    obtain ⟨hidle, hsame⟩ := ih hrest (by rw [workers, hrest]; exact hn.2)
    rw [hwait] at hsame
    exact ⟨hidle, hsame⟩

/-- After a failure an idle pool stays as it is. -/
theorem after_of_failed {e : ε} (hbusy : p.busy = []) (hfail : p.firstError? = some e)
    (moves : List Move) : after work p moves = p := by
  induction moves with
  | nil => rfl
  | cons move moves ih =>
    have hstep : step work p move = p := by
      cases move with
      | take worker job =>
        rw [step, if_neg]
        simp [canTake, hfail]
      | finish worker =>
        have hfree : p.jobOf? worker = none := by simp [jobOf?, hbusy]
        rw [step, hfree]
    change after work (step work p move) moves = p
    rw [hstep, ih]

/-- One worker that does the jobs that wait settles the work of an idle pool.

**Proof sketch.** Induction on the jobs. If a job has failed nothing changes any more; otherwise the
first job is taken and finished, which leaves an idle pool with one job less. -/
theorem settled_of_idle {js : List Nat} (hbusy : p.busy = []) (hwait : p.waiting = js) :
    Settled (after work p (js.flatMap fun job => [.take 0 job, .finish 0])) := by
  induction js generalizing p with
  | nil => exact ⟨hbusy, fun _ => hwait⟩
  | cons job js ih =>
    cases hfail : p.firstError? with
    | some e =>
      rw [after_of_failed hbusy hfail]
      exact ⟨hbusy, fun h => absurd (hfail.symm.trans h) (by simp)⟩
    | none =>
      have htake : p.canTake 0 job = true :=
        canTake_iff.mpr ⟨hfail, by simp [hwait], by simp [workers, hbusy]⟩
      rw [List.flatMap_cons, after_append]
      refine ih ?_ ?_
      · simp [after, step, htake, hbusy, jobOf?]
      · simp [after, step, htake, hbusy, hwait, jobOf?]

/-- The work of each run is settled. -/
theorem settled_run (work : Nat → Except ε α) (n : Nat) (schedule : List Move) :
    Settled (run work n schedule) := by
  have hp := sound_after (sound_start work n) schedule
  obtain ⟨hidle, hsame⟩ := idle_after_finish work rfl hp.workers
  unfold run settling
  rw [after_append]
  exact settled_of_idle hidle hsame

/-! ## What the work comes to -/

/-- No job has failed if each finished job has succeeded. -/
theorem firstError?_eq_none_iff :
    p.firstError? = none ↔ ∀ done ∈ p.finished, ∃ a, done.2 = .ok a := by
  rw [firstError?, List.findSome?_eq_none_iff]
  refine forall₂_congr fun done _ => ?_
  cases done.2 <;> simp

/-- The first error is that of a job. -/
theorem Sound.work_eq_error {e : ε} (hp : Sound work n p) (h : p.firstError? = some e) :
    ∃ job < n, work job = .error e := by
  rw [firstError?] at h
  obtain ⟨⟨job, outcome⟩, hmem, hdone⟩ := List.exists_of_findSome?_eq_some h
  cases outcome with
  | ok a => cases hdone
  | error e' =>
    cases hdone
    have hjob : job ∈ p.jobs := List.mem_append_right _ (List.mem_map.mpr ⟨_, hmem, rfl⟩)
    exact ⟨job, List.mem_range.mp (hp.jobs.mem_iff.mp hjob), (hp.outcomes _ hmem).symm⟩

/-- The value of a finished job is that of the work on it. -/
theorem Sound.value?_eq {job : Nat} (hp : Sound work n p)
    (hjob : job ∈ p.finished.map (·.1)) : p.value? job = (work job).toOption := by
  obtain ⟨done, hdone, rfl⟩ := List.mem_map.mp hjob
  cases hfind : p.finished.find? fun x => x.1 == done.1 with
  | none => simpa using List.find?_eq_none.mp hfind done hdone
  | some x =>
    have hx : x.1 = done.1 := by simpa using List.find?_some hfind
    rw [value?, hfind, Option.bind_some, hp.outcomes x (List.mem_of_find?_eq_some hfind), hx]

/-- In the end, if no job has failed, all are finished. -/
theorem Settled.finished (hs : Settled p) (hp : Sound work n p) (hfail : p.firstError? = none) :
    (p.finished.map (·.1)).Perm (List.range n) := by
  have hjobs := hp.jobs
  rw [Pool.jobs, hs.busy, hs.waiting hfail] at hjobs
  exact hjobs

/-- **The work succeeds with the values of all jobs in their order**, whatever the schedule is.

**Proof sketch.** If some job has failed, then its outcome is that of the work on it, and neither
side holds. Otherwise all jobs are finished, and what is kept under the number of a job is its
value. -/
theorem result_run_eq_ok_iff {schedule : List Move} {values : List α} :
    (run work n schedule).result n = .ok values ↔ (List.range n).mapM work = .ok values := by
  have hp := sound_run work n schedule
  have hs := settled_run work n schedule
  revert hp hs
  generalize run work n schedule = p
  intro hp hs
  cases hfail : p.firstError? with
  | some e =>
    obtain ⟨job, hjob, hwork⟩ := hp.work_eq_error hfail
    rw [result, hfail]
    constructor
    · intro h
      cases h
    · intro h
      obtain ⟨a, ha⟩ := exists_mapM_eq_ok_iff.mp ⟨values, h⟩ job (List.mem_range.mpr hjob)
      rw [hwork] at ha
      cases ha
  | none =>
    have hdone := hs.finished hp hfail
    have hok : ∀ job ∈ List.range n, ∃ a, work job = .ok a := by
      intro job hjob
      obtain ⟨done, hmem, rfl⟩ := List.mem_map.mp (hdone.mem_iff.mpr hjob)
      rw [← hp.outcomes done hmem]
      exact firstError?_eq_none_iff.mp hfail done hmem
    have hvalues : (List.range n).filterMap p.value? =
        (List.range n).filterMap fun job => (work job).toOption := by
      refine List.filterMap_congr fun job hjob => ?_
      exact hp.value?_eq (hdone.mem_iff.mpr hjob)
    rw [result, hfail, mapM_eq_ok_filterMap hok]
    dsimp only
    rw [hvalues]

/-- If the work fails, its error is that of a job. -/
theorem work_eq_error_of_result_run {schedule : List Move} {e : ε}
    (h : (run work n schedule).result n = .error e) : ∃ job < n, work job = .error e := by
  rw [result] at h
  cases hfail : (run work n schedule).firstError? with
  | none =>
    rw [hfail] at h
    cases h
  | some e' =>
    rw [hfail] at h
    cases h
    exact (sound_run work n schedule).work_eq_error hfail

end NullLint.Pool
