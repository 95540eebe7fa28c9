import NullLint.Proofs.Telemetry.Plan
import NullLint.Telemetry.Request

set_option autoImplicit false
set_option relaxedAutoImplicit false

/-!
# Recording trees of spans

What a recorder has seen of some trees is described by two lists: the spans that are open, with
their threads, and the trees that are still to be opened, with the numbers of their parents. Opening
a span and closing one change these lists in a simple way, on whatever thread it happens. When both
lists are empty the trees have been recorded.

## Main definitions

* `Telemetry.Recorder.Records` — what has been recorded are some trees.
* `Telemetry.Recorder.Awaits`, `Telemetry.Session.Awaits` — how far the recording of some trees has
  got.

## Main results

* `Telemetry.Recorder.Awaits.enter`, `Telemetry.Recorder.Awaits.leave` — **opening and closing** a
  span on any thread.
* `Telemetry.Recorder.Awaits.current_eq` — the innermost span of a thread.
* `Telemetry.Recorder.Awaits.records` — what has been recorded in the end.
* `Telemetry.Session.Awaits.leaves` — requests that contain no other ones.
-/

namespace NullLint.Telemetry

open SpanTree

/-- What has been recorded are some trees: no span is open, there are as many spans as in the trees,
and they make up the trees but for the order of siblings. -/
structure Recorder.Records (r : Recorder) (trees : List SpanTree) : Prop where
  none_open : ∀ thread, r.attached thread = []
  length_ended : r.ended.length = sizes trees
  forest : AlikeForests r.forest trees

/-- The spans that a recorder has seen are those of a plan. The ones that are open are listed with
their threads, those of the same thread from the innermost one outwards. -/
structure Recorder.Follows (r : Recorder) (plan : Plan) (active : List (Nat × Span)) : Prop where
  nodup : plan.ids.Nodup
  lt : ∀ i ∈ plan.ids, i < r.opened
  attached : ∀ thread, r.attached thread = (active.filter fun a => a.1 == thread).map (·.2)
  spans : (r.ended ++ active.map (·.2)).Perm (plan.spans none)

/-- How far the recording of some trees has got: which spans are open on which threads, those of the
same thread from the innermost one outwards, and which trees are still to be opened, with the
numbers of their parents. -/
def Recorder.Awaits (r : Recorder) (trees : List SpanTree) (active : List (Nat × Span))
    (todos : List (Option Nat × SpanTree)) : Prop :=
  ∃ plan : Plan, plan.trees = trees ∧ r.Follows plan active ∧ (plan.todos none).Perm todos

namespace Recorder.Awaits

variable {r : Recorder} {trees : List SpanTree} {active before after : List (Nat × Span)}
  {todos todos' : List (Option Nat × SpanTree)}

/-- Before anything is recorded all trees are to be opened. -/
theorem start (trees : List SpanTree) :
    ({} : Recorder).Awaits trees [] (trees.map fun t => (none, t)) := by
  refine ⟨Plan.ofTrees trees, Plan.trees_ofTrees trees, ⟨?_, ?_, fun _ => rfl, ?_⟩, ?_⟩
  · rw [← Plan.map_id_spans _ none, Plan.spans_ofTrees]
    exact List.nodup_nil
  · rw [← Plan.map_id_spans _ none, Plan.spans_ofTrees]
    simp
  · rw [Plan.spans_ofTrees]
    exact List.Perm.refl _
  · rw [Plan.todos_ofTrees]

theorem perm (h : r.Awaits trees active todos) (hp : todos.Perm todos') :
    r.Awaits trees active todos' := by
  obtain ⟨plan, htrees, hfollows, htodos⟩ := h
  exact ⟨plan, htrees, hfollows, htodos.trans hp⟩

/-- **Opening a span.** If a tree is still to be opened and its outermost span is opened, what is
still to be opened are the trees below it. -/
theorem enter {thread : Nat} {parent : Option Nat} {name : String} {attributes : Attributes}
    {ts : List SpanTree}
    (h : r.Awaits trees active
      ((parent, .node name (attributes.take maxAttributes) ts) :: todos)) :
    (r.enter thread parent name attributes).Awaits trees
      ((thread, ⟨r.opened, parent, name, attributes.take maxAttributes⟩) :: active)
      (ts.map (fun t => (some r.opened, t)) ++ todos) := by
  obtain ⟨plan, htrees, hfollows, htodos⟩ := h
  obtain ⟨plan', rest, htrees', hspans, hrest, htodos'⟩ :=
    Plan.exists_open r.opened (htodos.mem_iff.mpr List.mem_cons_self)
  have hids : plan'.ids.Perm (r.opened :: plan.ids) := by
    have hmap := hspans.map (·.id)
    rwa [List.map_cons, Plan.map_id_spans, Plan.map_id_spans] at hmap
  refine ⟨plan', htrees'.trans htrees, ⟨?_, ?_, ?_, ?_⟩, ?_⟩
  · refine hids.nodup_iff.mpr (List.nodup_cons.mpr ⟨fun hmem => ?_, hfollows.nodup⟩)
    exact absurd (hfollows.lt _ hmem) (Nat.lt_irrefl _)
  · intro i hi
    rcases List.mem_cons.mp (hids.mem_iff.mp hi) with rfl | hi
    · exact Nat.lt_succ_self _
    · exact Nat.lt_succ_of_lt (hfollows.lt i hi)
  · intro t
    by_cases ht : t = thread
    · subst ht
      simp [Recorder.enter, withAttached, hfollows.attached t]
    · have ht' : (thread == t) = false := by simpa using Ne.symm ht
      simp [Recorder.enter, withAttached, ht, ht', hfollows.attached t]
  · exact (List.perm_middle.trans (hfollows.spans.cons _)).trans hspans.symm
  · exact htodos'.trans ((hrest.symm.trans htodos).cons_inv.append_left _)

/-- **Closing a span.** The innermost span of a thread is no longer open; what is still to be opened
stays the same. -/
theorem leave {thread : Nat} {span : Span}
    (h : r.Awaits trees (before ++ (thread, span) :: after) todos)
    (hbefore : ∀ a ∈ before, a.1 ≠ thread) :
    (r.leave thread).Awaits trees (before ++ after) todos := by
  obtain ⟨plan, htrees, hfollows, htodos⟩ := h
  have hnone : before.filter (fun a => a.1 == thread) = [] :=
    List.filter_eq_nil_iff.mpr fun a ha heq => hbefore a ha (eq_of_beq heq)
  have hattached : r.attached thread =
      span :: (after.filter fun a => a.1 == thread).map (·.2) := by
    rw [hfollows.attached, List.filter_append, hnone]
    simp
  have hleave : r.leave thread =
      { r.withAttached thread ((after.filter fun a => a.1 == thread).map (·.2)) with
        ended := r.ended ++ [span] } := by
    rw [Recorder.leave, hattached]
  refine ⟨plan, htrees, ⟨hfollows.nodup, ?_, ?_, ?_⟩, htodos⟩
  · rw [hleave]
    exact hfollows.lt
  · intro t
    rw [hleave]
    by_cases ht : t = thread
    · subst ht
      simp [withAttached, hnone]
    · have ht' : (thread == t) = false := by simpa using Ne.symm ht
      simp [withAttached, ht, ht', hfollows.attached t]
  · rw [hleave]
    refine List.Perm.trans ?_ hfollows.spans
    rw [List.map_append, List.map_append, List.map_cons, List.append_assoc,
      List.singleton_append]
    exact List.perm_middle.symm.append_left _

/-- The innermost span of a thread is the first one of the thread in the list of open spans. -/
theorem current_eq (h : r.Awaits trees active todos) (thread : Nat) :
    r.current thread = (active.find? fun a => a.1 == thread).map (·.2.id) := by
  obtain ⟨plan, -, hfollows, -⟩ := h
  rw [current, hfollows.attached, List.head?_map, List.head?_filter, Option.map_map]
  rfl

/-- The innermost span of a thread has not ended. -/
theorem current_not_ended (h : r.Awaits trees active todos) {thread i : Nat}
    (hi : r.current thread = some i) : ∀ s ∈ r.ended, s.id ≠ i := by
  rw [h.current_eq] at hi
  obtain ⟨a, ha, rfl⟩ := Option.map_eq_some_iff.mp hi
  obtain ⟨plan, -, hfollows, -⟩ := h
  -- The spans that have ended and those that are open have different numbers.
  have hnodup := (hfollows.spans.map (·.id)).nodup_iff.mpr (by
    rw [Plan.map_id_spans]
    exact hfollows.nodup)
  rw [List.map_append, List.nodup_append] at hnodup
  intro s hs
  refine hnodup.2.2 _ (List.mem_map_of_mem hs) _ ?_
  rw [List.map_map]
  exact List.mem_map_of_mem (f := (·.id) ∘ fun a : Nat × Span => a.2) (List.mem_of_find?_eq_some ha)

/-- What has been recorded when no span is open and nothing is left to be opened. -/
theorem records (h : r.Awaits trees [] []) : r.Records trees := by
  obtain ⟨plan, rfl, hfollows, htodos⟩ := h
  have htodos := htodos.eq_nil
  have hspans := hfollows.spans
  rw [List.map_nil, List.append_nil] at hspans
  exact ⟨fun thread => hfollows.attached thread,
    hspans.length_eq.trans (Plan.length_spans htodos),
    Plan.alikeForests_treesBelow hspans hfollows.nodup htodos⟩

end Recorder.Awaits

/-! ## Sessions -/

/-- How far the recorder of a session has got with some trees. -/
def Session.Awaits (s : Session) (trees : List SpanTree) (active : List (Nat × Span))
    (todos : List (Option Nat × SpanTree)) : Prop :=
  ∃ r, s.recorder = some r ∧ r.Awaits trees active todos

namespace Session.Awaits

variable {s : Session} {trees : List SpanTree} {active before after : List (Nat × Span)}
  {todos todos' : List (Option Nat × SpanTree)}

/-- Before anything is recorded all trees are to be opened. -/
theorem start (trees : List SpanTree) :
    Session.Awaits { recorder := some {} } trees [] (trees.map fun t => (none, t)) :=
  ⟨{}, rfl, Recorder.Awaits.start trees⟩

/-- What has been recorded when no span is open and nothing is left to be opened. -/
theorem records (h : s.Awaits trees [] []) : ∃ r, s.recorder = some r ∧ r.Records trees := by
  obtain ⟨r, hr, h⟩ := h
  exact ⟨r, hr, h.records⟩

theorem perm (h : s.Awaits trees active todos) (hp : todos.Perm todos') :
    s.Awaits trees active todos' := by
  obtain ⟨r, hr, h⟩ := h
  exact ⟨r, hr, h.perm hp⟩

theorem count (h : s.Awaits trees active todos) : s.count.Awaits trees active todos := h

theorem startThread (h : s.Awaits trees active todos) :
    s.startThread.Awaits trees active todos := h

theorem current_eq (h : s.Awaits trees active todos) (thread : Nat) :
    s.current thread = (active.find? fun a => a.1 == thread).map (·.2.id) := by
  obtain ⟨r, hr, h⟩ := h
  rw [Session.current, hr]
  exact h.current_eq thread

theorem enterBelow (thread : Nat) (name : String) (attributes : Attributes) {parent : Option Nat}
    {ts : List SpanTree}
    (h : s.Awaits trees active
      ((parent, .node name (attributes.take Recorder.maxAttributes) ts) :: todos)) :
    ∃ span, (s.enterBelow thread parent name attributes).Awaits trees ((thread, span) :: active)
      (ts.map (fun t => (some span.id, t)) ++ todos) := by
  obtain ⟨r, hr, h⟩ := h
  refine ⟨_, r.enter thread parent name attributes, ?_, h.enter⟩
  rw [Session.enterBelow, hr]
  rfl

theorem leave {thread : Nat} {span : Span}
    (h : s.Awaits trees (before ++ (thread, span) :: after) todos)
    (hbefore : ∀ a ∈ before, a.1 ≠ thread) :
    (s.leave thread).Awaits trees (before ++ after) todos := by
  obtain ⟨r, hr, h⟩ := h
  refine ⟨r.leave thread, ?_, h.leave hbefore⟩
  rw [Session.leave, hr]
  rfl

theorem leave_innermost {thread : Nat} {span : Span}
    (h : s.Awaits trees ((thread, span) :: active) todos) :
    (s.leave thread).Awaits trees active todos :=
  h.leave (List.forall_mem_nil _)

/-- A request that is done where it is asked for and contains no other ones. -/
theorem leaf {thread : Nat} {name : String} {attributes : Attributes}
    (h : s.Awaits trees active
      ((s.current thread, .node name (attributes.take Recorder.maxAttributes) []) :: todos)) :
    ((Request.span name attributes false []).perform thread s).Awaits trees active todos := by
  obtain ⟨span, hentered⟩ := h.count.enterBelow thread name attributes
  rw [Request.perform, performAll]
  exact hentered.leave_innermost

/-- Requests that are done where they are asked for, one after the other, and contain no other
ones. -/
theorem leaves {ι : Type} {thread : Nat} {parent : Option Nat} (items : List ι)
    (name : ι → String) (attributes : ι → Attributes)
    (hparent : (active.find? fun a => a.1 == thread).map (·.2.id) = parent)
    (h : s.Awaits trees active (items.map (fun x =>
      (parent, .node (name x) ((attributes x).take Recorder.maxAttributes) [])) ++ todos)) :
    (performAll thread (items.map fun x => .span (name x) (attributes x) false []) s).Awaits trees
      active todos := by
  induction items generalizing s with
  | nil => exact h
  | cons x items ih =>
    rw [List.map_cons, performAll]
    refine ih (leaf ?_)
    rw [h.current_eq, hparent]
    exact h

end Session.Awaits

end NullLint.Telemetry
