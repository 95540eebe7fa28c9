set_option autoImplicit false
set_option relaxedAutoImplicit false

/-!
# Workers that share a list of jobs

Several workers take jobs from a common list, each one job at a time, and finish them in any order.
What a job came to is kept under the number of the job, so that the outcome of the whole does not
depend on who did what when. After a job has failed no further job is taken, but those that were
taken are finished.

## Main definitions

* `Pool`, `Pool.step` — the state of the work, and one move of a worker.
* `Pool.run` — the work under a schedule.
* `Pool.result` — what the work came to.

## Design

A schedule is a list of moves. A move that cannot be made is passed over, and when the schedule
ends the work is settled: each busy worker finishes, and one worker does the jobs that are left in
their order. So each list of moves is a schedule, and the empty one does all jobs in their order.
-/

namespace NullLint

/-- A move of a worker: it takes a job, or it finishes the job it has taken. -/
inductive Move where
  | take (worker job : Nat)
  | finish (worker : Nat)
  deriving DecidableEq, Repr

/-- A move that was made. -/
inductive Deed where
  | took (worker job : Nat)
  | finished (worker job : Nat)
  deriving DecidableEq, Repr

/-- The state of the work: the jobs that wait, the busy workers with their jobs, what the finished
jobs came to, in the order of finishing, and all moves that were made. -/
structure Pool (ε α : Type) where
  waiting : List Nat
  busy : List (Nat × Nat) := []
  finished : List (Nat × Except ε α) := []
  deeds : List Deed := []

namespace Pool

variable {ε α : Type}

/-- The work on `n` jobs before the first move. -/
def start (n : Nat) : Pool ε α where
  waiting := List.range n

/-- The error of the job that failed first. -/
def firstError? (p : Pool ε α) : Option ε :=
  p.finished.findSome? fun done =>
    match done.2 with
    | .error e => some e
    | .ok _ => none

/-- The job of a busy worker. -/
def jobOf? (p : Pool ε α) (worker : Nat) : Option Nat :=
  (p.busy.find? fun b => b.1 == worker).map (·.2)

/-- Whether a worker can take a job. -/
def canTake (p : Pool ε α) (worker job : Nat) : Bool :=
  p.firstError?.isNone && p.waiting.contains job && (p.jobOf? worker).isNone

/-- One move. -/
def step (work : Nat → Except ε α) (p : Pool ε α) : Move → Pool ε α
  | .take worker job =>
    if p.canTake worker job then
      { p with
        waiting := p.waiting.erase job
        busy := p.busy ++ [(worker, job)]
        deeds := p.deeds ++ [.took worker job] }
    else p
  | .finish worker =>
    match p.jobOf? worker with
    | none => p
    | some job =>
      { p with
        busy := p.busy.filter fun b => b.1 != worker
        finished := p.finished ++ [(job, work job)]
        deeds := p.deeds ++ [.finished worker job] }

/-- The moves that settle the work. -/
def settling (p : Pool ε α) : List Move :=
  (p.busy.map fun b => .finish b.1) ++ p.waiting.flatMap fun job => [.take 0 job, .finish 0]

/-- The work after some moves. -/
def after (work : Nat → Except ε α) (p : Pool ε α) (moves : List Move) : Pool ε α :=
  moves.foldl (step work) p

/-- The settled work on `n` jobs under a schedule. -/
def run (work : Nat → Except ε α) (n : Nat) (schedule : List Move) : Pool ε α :=
  let p := after work (start n) schedule
  after work p p.settling

/-- What a finished job came to. -/
def value? (p : Pool ε α) (job : Nat) : Option α :=
  (p.finished.find? fun done => done.1 == job).bind fun done => done.2.toOption

/-- What the work on `n` jobs came to: the first error, or the values in the order of the jobs. -/
def result (p : Pool ε α) (n : Nat) : Except ε (List α) :=
  match p.firstError? with
  | some e => .error e
  | none => .ok ((List.range n).filterMap p.value?)

end Pool

end NullLint
