import NullLint.Proofs.Telemetry.Crew

set_option autoImplicit false
set_option relaxedAutoImplicit false

/-!
# The forest of recorded spans

Requests that are done one after the other are done by a crew whose threads wait for each other. So
what holds of crews holds of them: their spans are recorded as they are asked for, and the same work
is done if nothing is recorded.

## Main results

* `Telemetry.Crew.reaches_performRoots` — doing requests one after the other is the work of a crew.
* `Telemetry.Crew.records_requests` — **requests are recorded as they are asked for**, whoever does
  them and when.
* `Telemetry.Crew.forest_crowded` — a span does not keep all of its attributes.
-/

namespace NullLint.Telemetry.Crew

/-! ## One after the other -/

section

variable {session done : Session} {roots rest children : List Request} {thread : Nat}
  {frames : List (Nat × List Request)} {handed : List (Option Nat × Request)}
  {begun begun' : List Request} {name : String} {attributes : Attributes}

/-- A thread does a request by beginning it, doing those inside it, and closing its span. -/
theorem Reaches.inside
    (h : Reaches ⟨session.count.enter thread name attributes, roots,
        (thread, children) :: (thread, rest) :: frames, handed,
        .span name attributes false children :: begun⟩
      ⟨done, roots, (thread, []) :: (thread, rest) :: frames, handed, begun'⟩) :
    Reaches ⟨session, roots, (thread, .span name attributes false children :: rest) :: frames,
        handed, begun⟩
      ⟨done.leave thread, roots, (thread, rest) :: frames, handed, begun'⟩ :=
  Relation.ReflTransGen.head (Step.inside [] frames rfl (List.forall_mem_nil _))
    (Relation.ReflTransGen.tail h
      (Step.leave [] ((thread, rest) :: frames) rfl (List.forall_mem_nil _)))

/-- A request that is done apart is done by a thread that is started for it. -/
theorem Reaches.apart
    (h : Reaches ⟨session.startThread.enterBelow session.threads (session.current thread) "thread"
          [], roots, (session.threads, [.span name attributes false children]) ::
        (thread, rest) :: frames, handed, begun⟩
      ⟨done, roots, (session.threads, []) :: (thread, rest) :: frames, handed, begun'⟩) :
    Reaches ⟨session, roots, (thread, .span name attributes true children :: rest) :: frames,
        handed, begun⟩
      ⟨done.leave session.threads, roots, (thread, rest) :: frames, handed, begun'⟩ := by
  have hover : Step ⟨session, roots,
        (thread, .span name attributes true children :: rest) :: frames, handed, begun⟩
      ⟨session, roots, (thread, rest) :: frames,
        (session.current thread, .span name attributes true children) :: handed, begun⟩ :=
    Step.handOver [] frames rfl (List.forall_mem_nil _)
  have htake := Step.takeOver (c := ⟨session, roots, (thread, rest) :: frames,
      (session.current thread, .span name attributes true children) :: handed, begun⟩)
    session.threads session.startThread [] handed (Or.inr rfl) rfl
  exact Relation.ReflTransGen.head hover (Relation.ReflTransGen.head htake
    (Relation.ReflTransGen.tail h
      (Step.leave [] ((thread, rest) :: frames) rfl (List.forall_mem_nil _))))

end

mutual

/-- Doing a request inside the innermost span of a thread takes a crew some steps.

**Proof sketch.** Recursion over the request, together with that over lists of requests. -/
theorem reaches_perform (q : Request) (thread : Nat) (session : Session)
    (roots rest : List Request) (frames : List (Nat × List Request))
    (handed : List (Option Nat × Request)) (begun : List Request) :
    ∃ begun', Reaches ⟨session, roots, (thread, q :: rest) :: frames, handed, begun⟩
      ⟨q.perform thread session, roots, (thread, rest) :: frames, handed, begun'⟩ := by
  match q with
  | .span name attributes false children =>
    obtain ⟨begun', hchildren⟩ := reaches_performAll children thread
      (session.count.enter thread name attributes) roots ((thread, rest) :: frames) handed
      (.span name attributes false children :: begun)
    rw [Request.perform]
    exact ⟨begun', hchildren.inside⟩
  | .span name attributes true children =>
    let started := session.startThread.enterBelow session.threads (session.current thread)
      "thread" []
    obtain ⟨begun', hchildren⟩ := reaches_performAll children session.threads
      (started.count.enter session.threads name attributes) roots
      ((session.threads, []) :: (thread, rest) :: frames) handed
      (.span name attributes false children :: begun)
    rw [Request.perform]
    exact ⟨begun', hchildren.inside.apart⟩

/-- Doing the requests inside the innermost span of a thread takes a crew some steps. -/
theorem reaches_performAll (qs : List Request) (thread : Nat) (session : Session)
    (roots : List Request) (frames : List (Nat × List Request))
    (handed : List (Option Nat × Request)) (begun : List Request) :
    ∃ begun', Reaches ⟨session, roots, (thread, qs) :: frames, handed, begun⟩
      ⟨performAll thread qs session, roots, (thread, []) :: frames, handed, begun'⟩ := by
  match qs with
  | [] => exact ⟨begun, Relation.ReflTransGen.refl⟩
  | q :: qs =>
    obtain ⟨begun₁, hfirst⟩ := reaches_perform q thread session roots qs frames handed begun
    obtain ⟨begun₂, hrest⟩ := reaches_performAll qs thread (q.perform thread session) roots frames
      handed begun₁
    rw [performAll]
    exact ⟨begun₂, hfirst.trans hrest⟩

end

/-- Doing requests one after the other, all of them on the first thread, is the work of a crew. -/
theorem reaches_performRoots (roots : List Request) (session : Session) (begun : List Request) :
    ∃ begun', Reaches ⟨session, roots, [], [], begun⟩
      ⟨performRoots roots session, [], [], [], begun'⟩ := by
  induction roots generalizing session begun with
  | nil => exact ⟨begun, Relation.ReflTransGen.refl⟩
  | cons q roots ih =>
    obtain ⟨name, attributes, apart, children⟩ := q
    obtain ⟨begun₁, hchildren⟩ := reaches_performAll children 0
      (session.count.enter 0 name attributes) roots [] []
      (.span name attributes false children :: begun)
    obtain ⟨begun₂, hrest⟩ := ih
      ((performAll 0 children (session.count.enter 0 name attributes)).leave 0) begun₁
    have hroot : Step ⟨session, .span name attributes apart children :: roots, [], [], begun⟩
        ⟨session.count.enter 0 name attributes, roots, [(0, children)], [],
          .span name attributes false children :: begun⟩ :=
      Step.root rfl (List.forall_mem_nil _)
    have hleave := Step.leave (c := ⟨performAll 0 children (session.count.enter 0 name attributes),
      roots, [(0, [])], [], begun₁⟩) [] [] rfl (List.forall_mem_nil _)
    rw [performRoots, List.map_cons, performAll, Request.here, Request.perform]
    exact ⟨begun₂, Relation.ReflTransGen.head hroot
      (hchildren.trans (Relation.ReflTransGen.head hleave hrest))⟩

/-! ## At any time, and in the end -/

variable {c c' : Crew}

/-- What every step keeps holds of all that a crew can get to. -/
theorem Reaches.induction {motive : Crew → Prop} (h : Reaches c c')
    (step : ∀ c c', Step c c' → motive c → motive c') (hc : motive c) : motive c' := by
  induction h with
  | refl => exact hc
  | tail _ hstep ih => exact step _ _ hstep ih

theorem Reaches.follows {trees : List SpanTree} (h : Reaches c c') (hc : c.Follows trees) :
    c'.Follows trees :=
  h.induction (fun _ _ hstep => hstep.follows) hc

theorem Reaches.works (h : Reaches c c') :
    (c'.begun ++ c'.unbegun).Perm (c.begun ++ c.unbegun) :=
  h.induction (motive := fun d => (d.begun ++ d.unbegun).Perm (c.begun ++ c.unbegun))
    (fun _ _ hstep hworks => hstep.works.trans hworks) (List.Perm.refl _)

theorem Reaches.performed (h : Reaches c c') (hc : c.session.performed = c.begun.length) :
    c'.session.performed = c'.begun.length :=
  h.induction (fun _ _ hstep => hstep.performed) hc

theorem Reaches.unwatched (h : Reaches c c') (hc : c.session.recorder = none) :
    c'.session.recorder = none :=
  h.induction (fun _ _ hstep => hstep.unwatched) hc

/-- A crew that has finished has recorded the trees of spans. -/
theorem Follows.records {trees : List SpanTree} (h : c.Follows trees) (hc : c.IsFinished) :
    ∃ r, c.session.recorder = some r ∧ r.Records trees := by
  obtain ⟨working, hworking, hawaits⟩ := h
  rw [hc.frames, List.map_eq_nil_iff] at hworking
  rw [hworking, hc.roots, hc.handed] at hawaits
  exact hawaits.records

/-- A crew that has finished has begun all pieces of work. -/
theorem IsFinished.unbegun (hc : c.IsFinished) : c.unbegun = [] := by
  rw [Crew.unbegun, hc.roots, hc.frames, hc.handed]
  rfl

/-- **Requests are recorded as they are asked for.** Consider any requests, and a crew of threads
that does them in any way. At any time the innermost span of a thread, to which the next request
there belongs, is not one that has ended. In the end the recorded spans make up the trees that the
requests ask for. Without a recorder nothing is recorded. With or without it the crew comes to an
end, and each piece of work has then been begun once. Doing the requests one after the other is a
way for a crew to do them.

**Proof sketch.** Each step of a crew opens a span that is still to be opened, or closes the
innermost span of a thread, or leaves the spans as they are. Each step begins a piece of work that
was not begun, or none. -/
theorem records_requests (requests : List Request) :
    (∀ c, (start (some {}) requests).Reaches c → ∃ r, c.session.recorder = some r ∧
      (∀ thread i, r.current thread = some i → ∀ s ∈ r.ended, s.id ≠ i) ∧
      (c.IsFinished → r.Records (requests.map fun q => q.here.recorded))) ∧
    (∀ c, (start none requests).Reaches c → c.session.recorder = none) ∧
    (∀ recorder c, (start recorder requests).Reaches c →
      c.session.performed = c.begun.length ∧
      (c.IsFinished → c.begun.Perm (worksOf requests)) ∧
      (¬c.IsFinished → ∃ c', Step c c')) ∧
    (WellFounded fun c' c => Step c c') ∧
    ∀ recorder, ∃ c, (start recorder requests).Reaches c ∧ c.IsFinished ∧
      c.session = performRoots requests { recorder := recorder } := by
  refine ⟨fun c h => ?_, fun c h => h.unwatched rfl, fun recorder c h => ⟨h.performed rfl, ?_,
    exists_step⟩, wellFounded_step, fun recorder => ?_⟩
  · have hfollows := h.follows (follows_start requests)
    obtain ⟨working, -, r, hr, hawaits⟩ := id hfollows
    refine ⟨r, hr, fun thread i hi => hawaits.current_not_ended hi, fun hc => ?_⟩
    obtain ⟨r', hr', hrecords⟩ := hfollows.records hc
    rw [hr] at hr'
    exact Option.some.inj hr' ▸ hrecords
  · intro hc
    have hworks := h.works
    rw [hc.unbegun, List.append_nil] at hworks
    have hstart : (start recorder requests).begun ++ (start recorder requests).unbegun =
        worksOf requests := by
      simp [start, unbegun]
    rwa [hstart] at hworks
  · obtain ⟨begun, hreaches⟩ := reaches_performRoots requests { recorder := recorder } []
    exact ⟨_, hreaches, ⟨rfl, rfl, rfl⟩, rfl⟩

/-- More attributes than a span keeps. -/
def crowdedAttributes : Attributes :=
  (List.range 129).map fun i => ("k" ++ toString (1000 + i), "")

/-- A span does not keep all of its attributes. -/
theorem forest_crowded : ∃ r, (performRoots [.span "crowded" crowdedAttributes false []]
      { recorder := some {} }).recorder = some r ∧
    ¬SpanTree.AlikeForests r.forest [.node "crowded" crowdedAttributes []] := by
  obtain ⟨r, hr, hforest⟩ : ∃ r, (performRoots [.span "crowded" crowdedAttributes false []]
      { recorder := some {} }).recorder = some r ∧
      r.forest = [.node "crowded" (crowdedAttributes.take 128) []] :=
    ⟨_, rfl, rfl⟩
  refine ⟨r, hr, ?_⟩
  rintro ⟨us, hperm, halike⟩
  rw [hforest] at hperm
  rw [List.perm_singleton.mp hperm.symm, List.forall₂_cons] at halike
  obtain ⟨vs, heq⟩ := halike.1.exists_node
  injection heq with _ hattributes
  have hlength := congrArg List.length hattributes
  rw [List.length_take, crowdedAttributes, List.length_map, List.length_range] at hlength
  exact absurd hlength (by decide)

end NullLint.Telemetry.Crew
