import Mathlib.Logic.Relation
import NullLint.Proofs.Telemetry.Recording

set_option autoImplicit false
set_option relaxedAutoImplicit false

/-!
# Requests on several threads

Requests are done by a crew of threads. A thread does the requests inside its innermost span one
after the other. It hands over those that are done apart, with the number of this span, and another
thread takes them over, at any time and whatever else it is doing. Whoever does what and when, the
spans make up the trees that the requests ask for, and each request is done once.

## Main definitions

* `Telemetry.Request.recorded` — the spans that a request asks for.
* `Telemetry.Request.works` — all pieces of work of a request.
* `Telemetry.Crew`, `Telemetry.Crew.Step` — threads at work, and what they can do next.

## Main results

* `Telemetry.Crew.Step.follows` — **a step records the spans that are asked for**.
* `Telemetry.Crew.Step.works` — a step begins one piece of work at most, and loses none.
* `Telemetry.Crew.wellFounded_step`, `Telemetry.Crew.exists_step` — a crew comes to an end, and not
  before all is done.
-/

namespace NullLint.Telemetry

/-! ## What requests ask for -/

mutual

/-- The spans that a request asks for. Each has the name of its request and the first 128 of its
attributes. A request that is done apart has the span of its thread around its own. -/
def Request.recorded : Request → SpanTree
  | .span name attributes true children =>
    .node "thread" []
      [.node name (attributes.take 128) (recordedAll children)]
  | .span name attributes false children =>
    .node name (attributes.take 128) (recordedAll children)

/-- The spans that some requests ask for. -/
def recordedAll : List Request → List SpanTree
  | [] => []
  | q :: qs => q.recorded :: recordedAll qs

end

mutual

/-- All pieces of work of a request: its own and those of the requests inside it. -/
def Request.works : Request → List Request
  | .span name attributes _ children => .span name attributes false children :: worksOf children

/-- All pieces of work of some requests. -/
def worksOf : List Request → List Request
  | [] => []
  | q :: qs => q.works ++ worksOf qs

end

theorem recordedAll_eq_map (qs : List Request) : recordedAll qs = qs.map Request.recorded := by
  induction qs with
  | nil => rfl
  | cons q qs ih => rw [recordedAll, ih, List.map_cons]

/-- A request that is done apart asks for what it would ask for where it is, inside the span of a
thread. -/
theorem Request.recorded_apart (name : String) (attributes : Attributes) (children : List Request) :
    (Request.span name attributes true children).recorded =
      .node "thread" [] [(Request.span name attributes true children).here.recorded] := by
  rw [Request.here, Request.recorded, Request.recorded]

theorem Request.works_here (q : Request) : q.here.works = q.works := by
  obtain ⟨name, attributes, apart, children⟩ := q
  rw [Request.here, Request.works, Request.works]

/-! ## Crews -/

/-- Threads at work on requests: the outermost requests that are not begun; for each open span its
thread and the requests inside it that are not begun, the latest span first; the requests that are
handed over, with the numbers of their parents; and the pieces of work that were begun. -/
structure Crew where
  session : Session
  roots : List Request
  frames : List (Nat × List Request) := []
  handed : List (Option Nat × Request) := []
  begun : List Request := []

namespace Crew

/-- A crew before its work. -/
def start (recorder : Option Recorder) (roots : List Request) : Crew where
  session := { recorder := recorder }
  roots := roots

/-- A thread begins a piece of work inside its innermost span. -/
def begin (c : Crew) (thread : Nat) (name : String) (attributes : Attributes)
    (children : List Request) : Crew :=
  { c with
    session := c.session.count.enter thread name attributes
    frames := (thread, children) :: c.frames
    begun := .span name attributes false children :: c.begun }

/-- What a crew can do next. The main thread begins the next one of the outermost requests when it
has no open span. A thread begins the next request inside its innermost span, or hands it over if it
is done apart. A thread, which may be started for it, takes over a request that was handed over. A
thread closes its innermost span when all requests inside it are begun or handed over. -/
inductive Step : Crew → Crew → Prop
  | root {c : Crew} {name : String} {attributes : Attributes} {apart : Bool}
      {children roots : List Request}
      (hroots : c.roots = .span name attributes apart children :: roots)
      (hidle : ∀ f ∈ c.frames, f.1 ≠ 0) :
    Step c { c.begin 0 name attributes children with roots := roots }
  | inside {c : Crew} {thread : Nat} {name : String} {attributes : Attributes}
      {children rest : List Request} (before after : List (Nat × List Request))
      (hframes : c.frames =
        before ++ (thread, .span name attributes false children :: rest) :: after)
      (hbefore : ∀ f ∈ before, f.1 ≠ thread) :
    Step c ({ c with frames := before ++ (thread, rest) :: after }.begin thread name attributes
      children)
  | handOver {c : Crew} {thread : Nat} {name : String} {attributes : Attributes}
      {children rest : List Request} (before after : List (Nat × List Request))
      (hframes : c.frames =
        before ++ (thread, .span name attributes true children :: rest) :: after)
      (hbefore : ∀ f ∈ before, f.1 ≠ thread) :
    Step c { c with
      frames := before ++ (thread, rest) :: after
      handed := (c.session.current thread, .span name attributes true children) :: c.handed }
  | takeOver {c : Crew} {q : Request} {parent : Option Nat} (thread : Nat) (session : Session)
      (before after : List (Option Nat × Request))
      (hsession : session = c.session ∨ session = c.session.startThread)
      (hhanded : c.handed = before ++ (parent, q) :: after) :
    Step c { c with
      session := session.enterBelow thread parent "thread" []
      frames := (thread, [q.here]) :: c.frames
      handed := before ++ after }
  | leave {c : Crew} {thread : Nat} (before after : List (Nat × List Request))
      (hframes : c.frames = before ++ (thread, []) :: after)
      (hbefore : ∀ f ∈ before, f.1 ≠ thread) :
    Step c { c with session := c.session.leave thread, frames := before ++ after }

/-- What a crew can get to. -/
def Reaches : Crew → Crew → Prop :=
  Relation.ReflTransGen Step

/-- All is done. -/
structure IsFinished (c : Crew) : Prop where
  roots : c.roots = []
  frames : c.frames = []
  handed : c.handed = []

variable {c c' : Crew}

/-! ## The spans -/

/-- What is still to be opened: the spans of the requests inside the open spans, of the outermost
requests, and of those that are handed over. -/
def pending (roots : List Request) (working : List ((Nat × List Request) × Span))
    (handed : List (Option Nat × Request)) : List (Option Nat × SpanTree) :=
  working.flatMap (fun w => w.1.2.map fun q => (some w.2.id, q.recorded)) ++
    (roots.map (fun q => (none, q.here.recorded)) ++
      handed.map fun h => (h.1, .node "thread" [] [h.2.here.recorded]))

section

variable {roots : List Request} {handed : List (Option Nat × Request)} {thread : Nat} {span : Span}
  {q : Request} {qs : List Request}

theorem pending_root {working : List ((Nat × List Request) × Span)} :
    (pending (q :: roots) working handed).Perm
      ((none, q.here.recorded) :: pending roots working handed) :=
  List.perm_middle

theorem pending_new {working : List ((Nat × List Request) × Span)} :
    pending roots (((thread, qs), span) :: working) handed =
      (recordedAll qs).map (fun t => (some span.id, t)) ++ pending roots working handed := by
  rw [pending, pending, List.flatMap_cons, recordedAll_eq_map, List.map_map, List.append_assoc]
  rfl

theorem pending_inside {before after : List ((Nat × List Request) × Span)} :
    (pending roots (before ++ ((thread, q :: qs), span) :: after) handed).Perm
      ((some span.id, q.recorded) ::
        pending roots (before ++ ((thread, qs), span) :: after) handed) := by
  rw [pending, pending, List.flatMap_append, List.flatMap_append, List.flatMap_cons,
    List.flatMap_cons, List.map_cons, List.cons_append]
  exact List.perm_middle.append_right _

theorem pending_handed {working : List ((Nat × List Request) × Span)} {parent : Option Nat}
    (before after : List (Option Nat × Request)) :
    (pending roots working (before ++ (parent, q) :: after)).Perm
      ((parent, .node "thread" [] [q.here.recorded]) ::
        pending roots working (before ++ after)) := by
  rw [pending, pending, List.map_append, List.map_append, List.map_cons, ← List.append_assoc,
    ← List.append_assoc, ← List.append_assoc, ← List.append_assoc]
  exact List.perm_middle

theorem pending_leave {before after : List ((Nat × List Request) × Span)} :
    pending roots (before ++ ((thread, []), span) :: after) handed =
      pending roots (before ++ after) handed := by
  rw [pending, pending, List.flatMap_append, List.flatMap_append, List.flatMap_cons, List.map_nil,
    List.nil_append]

end

/-- How far a crew has got with some trees of spans: each frame has its span. -/
def Follows (c : Crew) (trees : List SpanTree) : Prop :=
  ∃ working : List ((Nat × List Request) × Span), working.map (·.1) = c.frames ∧
    c.session.Awaits trees (working.map fun w => (w.1.1, w.2)) (pending c.roots working c.handed)

/-- Before its work a crew has all spans still to open. -/
theorem follows_start (roots : List Request) :
    (start (some {}) roots).Follows (roots.map fun q => q.here.recorded) := by
  refine ⟨[], rfl, ?_⟩
  have h := Session.Awaits.start (roots.map fun q => q.here.recorded)
  rw [List.map_map] at h
  have hpending : pending roots [] [] = roots.map fun q => (none, q.here.recorded) := by
    rw [pending, List.flatMap_nil, List.nil_append, List.map_nil, List.append_nil]
  rw [start, hpending]
  exact h

/-- The innermost span of a thread is that of its first frame. -/
theorem current_of_frames {trees : List SpanTree} {todos : List (Option Nat × SpanTree)}
    {before after : List ((Nat × List Request) × Span)} {thread : Nat} {qs : List Request}
    {span : Span} {s : Session}
    (h : s.Awaits trees ((before ++ ((thread, qs), span) :: after).map fun w => (w.1.1, w.2)) todos)
    (hbefore : ∀ w ∈ before, w.1.1 ≠ thread) : s.current thread = some span.id := by
  have hnone : (before.map fun w => (w.1.1, w.2)).find? (fun a => a.1 == thread) = none := by
    refine List.find?_eq_none.mpr fun a ha heq => ?_
    obtain ⟨w, hw, rfl⟩ := List.mem_map.mp ha
    exact hbefore w hw (eq_of_beq heq)
  rw [h.current_eq, List.map_append, List.find?_append, hnone]
  simp

/-- Frames with their spans are taken apart as the frames are. -/
theorem exists_of_map_eq {working : List ((Nat × List Request) × Span)}
    {before after : List (Nat × List Request)} {f : Nat × List Request}
    (h : working.map (·.1) = before ++ f :: after) (hbefore : ∀ g ∈ before, g.1 ≠ f.1) :
    ∃ first span rest, working = first ++ (f, span) :: rest ∧ first.map (·.1) = before ∧
      rest.map (·.1) = after ∧ ∀ w ∈ first, w.1.1 ≠ f.1 := by
  obtain ⟨first, others, rfl, rfl, hothers⟩ := List.map_eq_append_iff.mp h
  obtain ⟨⟨_, span⟩, rest, rfl, rfl, rfl⟩ := List.map_eq_cons_iff.mp hothers
  exact ⟨first, span, rest, rfl, rfl, rfl, fun w hw => hbefore _ (List.mem_map_of_mem hw)⟩

/-- **A step records the spans that are asked for.**

**Proof sketch.** What is begun is opened below the innermost span of its thread, or below the
parent that was handed over, and what it contains is still to be opened below it. What is handed
over names the innermost span of its thread. -/
theorem Step.follows {trees : List SpanTree} (hstep : Step c c') (h : c.Follows trees) :
    c'.Follows trees := by
  obtain ⟨working, hworking, hawaits⟩ := h
  cases hstep with
  | @root name attributes apart children roots hroots hidle =>
    have hcurrent : c.session.count.current 0 = none := by
      rw [hawaits.count.current_eq, Option.map_eq_none_iff, List.find?_eq_none]
      intro a ha heq
      obtain ⟨w, hw, rfl⟩ := List.mem_map.mp ha
      exact hidle w.1 (hworking ▸ List.mem_map_of_mem hw) (eq_of_beq heq)
    rw [hroots] at hawaits
    obtain ⟨span, hentered⟩ := (hawaits.perm pending_root).count.enterBelow 0 name attributes
    refine ⟨((0, children), span) :: working, congrArg (List.cons (0, children)) hworking, ?_⟩
    rw [begin, Session.enter, hcurrent, pending_new]
    exact hentered
  | @inside thread name attributes children rest before after hframes hbefore =>
    rw [hframes] at hworking
    obtain ⟨first, outer, others, rfl, rfl, rfl, hfirst⟩ := exists_of_map_eq hworking hbefore
    have hcurrent := current_of_frames hawaits.count hfirst
    obtain ⟨span, hentered⟩ := (hawaits.perm pending_inside).count.enterBelow thread name attributes
    refine ⟨((thread, children), span) :: (first ++ ((thread, rest), outer) :: others), ?_, ?_⟩
    · rw [begin, List.map_cons, List.map_append, List.map_cons]
    · rw [begin, Session.enter, hcurrent, pending_new]
      rw [List.map_append] at hentered
      rw [List.map_cons, List.map_append]
      exact hentered
  | @handOver thread name attributes children rest before after hframes hbefore =>
    rw [hframes] at hworking
    obtain ⟨first, outer, others, rfl, rfl, rfl, hfirst⟩ := exists_of_map_eq hworking hbefore
    have hcurrent := current_of_frames hawaits hfirst
    refine ⟨first ++ ((thread, rest), outer) :: others, ?_, ?_⟩
    · rw [List.map_append, List.map_cons]
    · have hinside := hawaits.perm pending_inside
      rw [Request.recorded_apart] at hinside
      have hhanded := hinside.perm (pending_handed [] c.handed).symm
      rw [List.map_append] at hhanded
      rw [List.map_append, hcurrent]
      exact hhanded
  | @takeOver q parent thread session before after hsession hhanded =>
    have hsession : session.Awaits trees (working.map fun w => (w.1.1, w.2))
        (pending c.roots working c.handed) := by
      rcases hsession with rfl | rfl
      · exact hawaits
      · exact hawaits.startThread
    rw [hhanded] at hsession
    obtain ⟨span, hentered⟩ :=
      (hsession.perm (pending_handed before after)).enterBelow thread "thread" []
    refine ⟨((thread, [q.here]), span) :: working,
      congrArg (List.cons (thread, [q.here])) hworking, ?_⟩
    rw [pending_new]
    exact hentered
  | @leave thread before after hframes hbefore =>
    rw [hframes] at hworking
    obtain ⟨first, span, others, rfl, rfl, rfl, hfirst⟩ := exists_of_map_eq hworking hbefore
    rw [List.map_append, List.map_cons, pending_leave] at hawaits
    refine ⟨first ++ others, List.map_append, ?_⟩
    rw [List.map_append]
    refine hawaits.leave fun a ha => ?_
    obtain ⟨w, hw, rfl⟩ := List.mem_map.mp ha
    exact hfirst w hw

/-! ## The pieces of work -/

/-- The pieces of work that are not begun. -/
def unbegun (c : Crew) : List Request :=
  worksOf c.roots ++ (c.frames.flatMap fun f => worksOf f.2) ++ c.handed.flatMap fun h => h.2.works

/-- A step begins one piece of work at most, and none is lost or doubled. -/
theorem Step.works (h : Step c c') :
    (c'.begun ++ c'.unbegun).Perm (c.begun ++ c.unbegun) := by
  classical
  rw [List.perm_iff_count]
  intro q
  cases h with
  | root hroots hidle =>
    simp only [begin, unbegun, hroots, worksOf, Request.works, List.flatMap_cons, List.count_append,
      List.count_cons]
    omega
  | inside before after hframes hbefore =>
    simp only [begin, unbegun, hframes, worksOf, Request.works, List.flatMap_append,
      List.flatMap_cons, List.count_append, List.count_cons]
    omega
  | handOver before after hframes hbefore =>
    simp only [unbegun, hframes, worksOf, Request.works, List.flatMap_append, List.flatMap_cons,
      List.count_append, List.count_cons]
    omega
  | takeOver thread session before after hsession hhanded =>
    simp only [unbegun, hhanded, worksOf, Request.works_here, List.flatMap_append,
      List.flatMap_cons, List.count_append, List.count_nil]
    omega
  | leave before after hframes hbefore =>
    simp only [unbegun, hframes, worksOf, List.flatMap_append, List.flatMap_cons,
      List.count_append, List.count_nil]
    omega

/-- The pieces of work that were begun are counted. -/
theorem Step.performed (h : Step c c') (hc : c.session.performed = c.begun.length) :
    c'.session.performed = c'.begun.length := by
  cases h with
  | root hroots hidle => exact congrArg Nat.succ hc
  | inside before after hframes hbefore => exact congrArg Nat.succ hc
  | handOver before after hframes hbefore => exact hc
  | takeOver thread session before after hsession hhanded =>
    rcases hsession with rfl | rfl <;> exact hc
  | leave before after hframes hbefore => exact hc

/-- Nothing is recorded without a recorder. -/
theorem Step.unwatched (h : Step c c') (hc : c.session.recorder = none) :
    c'.session.recorder = none := by
  cases h with
  | root hroots hidle => exact congrArg (Option.map _) hc
  | inside before after hframes hbefore => exact congrArg (Option.map _) hc
  | handOver before after hframes hbefore => exact hc
  | takeOver thread session before after hsession hhanded =>
    rcases hsession with rfl | rfl <;> exact congrArg (Option.map _) hc
  | leave before after hframes hbefore => exact congrArg (Option.map _) hc

/-! ## The end of the work -/

end Crew

mutual

/-- How many steps a request takes at most. -/
def Request.steps : Request → Nat
  | .span _ _ true children => stepsOf children + 5
  | .span _ _ false children => stepsOf children + 2

/-- How many steps some requests take at most. -/
def stepsOf : List Request → Nat
  | [] => 0
  | q :: qs => q.steps + stepsOf qs

end

theorem stepsOf_append (qs rs : List Request) : stepsOf (qs ++ rs) = stepsOf qs + stepsOf rs := by
  induction qs with
  | nil => simp [stepsOf]
  | cons q qs ih =>
    rw [List.cons_append, stepsOf, stepsOf, ih]
    omega

namespace Crew

variable {c c' : Crew}

/-- How many steps are left at most: those of the requests that are not begun, one for each open
span to close it, and two for each request that is handed over. -/
def stepsLeft (c : Crew) : Nat :=
  stepsOf (c.roots ++ c.frames.flatMap (·.2) ++ c.handed.map (·.2.here)) + c.frames.length +
    2 * c.handed.length

theorem Step.stepsLeft_lt (h : Step c c') : c'.stepsLeft < c.stepsLeft := by
  cases h with
  | @root name attributes apart children roots hroots hidle =>
    cases apart <;>
      simp only [begin, stepsLeft, hroots, stepsOf_append, stepsOf, Request.steps,
        List.flatMap_cons, List.length_cons] <;>
      omega
  | inside before after hframes hbefore =>
    simp only [begin, stepsLeft, hframes, stepsOf_append, stepsOf, Request.steps,
      List.flatMap_append, List.flatMap_cons, List.length_append, List.length_cons]
    omega
  | handOver before after hframes hbefore =>
    simp only [stepsLeft, hframes, stepsOf_append, stepsOf, Request.here, Request.steps,
      List.flatMap_append, List.flatMap_cons, List.map_cons, List.length_append, List.length_cons]
    omega
  | takeOver thread session before after hsession hhanded =>
    simp only [stepsLeft, hhanded, stepsOf_append, stepsOf, List.flatMap_cons, List.map_append,
      List.map_cons, List.length_append, List.length_cons]
    omega
  | leave before after hframes hbefore =>
    simp only [stepsLeft, hframes, stepsOf_append, stepsOf, List.flatMap_append, List.flatMap_cons,
      List.length_append, List.length_cons]
    omega

/-- No crew goes on forever. -/
theorem wellFounded_step : WellFounded fun c' c => Step c c' :=
  Subrelation.wf (fun h => Step.stepsLeft_lt h) (measure stepsLeft).wf

/-- A crew can go on until all is done. -/
theorem exists_step (h : ¬c.IsFinished) : ∃ c', Step c c' := by
  obtain ⟨session, roots, frames, handed, begun⟩ := c
  cases frames with
  | cons f frames =>
    obtain ⟨thread, qs⟩ := f
    cases qs with
    | nil => exact ⟨_, Step.leave [] frames rfl (List.forall_mem_nil _)⟩
    | cons q qs =>
      obtain ⟨name, attributes, apart, children⟩ := q
      cases apart with
      | false => exact ⟨_, Step.inside [] frames rfl (List.forall_mem_nil _)⟩
      | true => exact ⟨_, Step.handOver [] frames rfl (List.forall_mem_nil _)⟩
  | nil =>
    cases roots with
    | cons q roots =>
      obtain ⟨name, attributes, apart, children⟩ := q
      exact ⟨_, Step.root rfl (List.forall_mem_nil _)⟩
    | nil =>
      cases handed with
      | cons waiting handed =>
        exact ⟨_, Step.takeOver 0 session [] handed (Or.inl rfl) rfl⟩
      | nil => exact absurd ⟨rfl, rfl, rfl⟩ h

end Crew

end NullLint.Telemetry
