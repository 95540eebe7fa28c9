import Mathlib.Data.Fintype.Card
import Mathlib.Data.List.Nodup
import NullLint.Proofs.Rule.Nested

set_option autoImplicit false
set_option relaxedAutoImplicit false

/-!
# The declarations that are judged

Applying the rule to a tree judges one declaration after the other: the subjects of the nodes that
the rule is shown. A parameter is judged when its method or constructor is visited, and lies on the
walk a second time, but no declaration is judged twice, since a node has one parent and that has
one.

## Main definitions

* `NullAnnotations.candidates` — the subjects of all nodes that are shown.
* `NullAnnotations.Classifier.judged` — those that come to be judged.
* `NullAnnotations.Classifier.report?` — what is reported about a declaration.

## Main results

* `NullAnnotations.Classifier.dispatch_eq_mapM_judge` — applying the rule judges the candidates one
  after the other.
* `NullAnnotations.subjects_disjoint`, `NullAnnotations.nodup_candidates` — no declaration is a
  candidate twice.
* `NullAnnotations.Classifier.judged_once` — which declarations are judged, and what comes of it.
-/

namespace NullLint.NullAnnotations

open Syntax Tree

/-- The subjects of the nodes whose kind is among the tokens. -/
def candidates (tokens : KindSet) (t : Tree) : List t.Node :=
  ((descendants t.root).filter fun n => tokens.holds (kind n)).flatMap subjects

/-- A declaration that the rule is about: a field, a method, a constructor, or a declaration
directly in the first list of parameters of a method or a constructor that is not native. -/
inductive IsSubject {t : Tree} (s : t.Node) : Prop
  | field (h : IsField s)
  | callable (h : IsCallable s)
  | parameter (m p : t.Node) (hm : IsCallable m) (hn : .isNative ∉ (declaration m).modifiers)
    (hp : IsFirstParameters m p) (hs : parent? s = some p) (hk : kind s = .parameterDef)

namespace Classifier

variable (c : Classifier)

/-- The declarations that are judged when the rule is applied to a tree, in their order. The first
one that lacks a part is the last. -/
def judged (tokens : KindSet) (t : Tree) : List t.Node :=
  through (fun s => !(c.judge s).isOk) (candidates tokens t)

/-- What is reported about a declaration. -/
def report? {t : Tree} (s : t.Node) : Option Diagnostic :=
  (c.judge s).toOption.join.map c.names.diagnostic

/-- Applying the rule judges the candidates one after the other. -/
theorem dispatch_eq_mapM_judge (tokens : KindSet) (t : Tree) :
    (c.shownTo tokens).dispatch t =
      (((candidates tokens t).mapM c.judge).map fun found =>
        found.reduceOption.map c.names.diagnostic).mapError fun cause =>
          ⟨info.id, t.path, cause⟩ := by
  have hvisit : (fun n : t.Node => (visitor c t n).result) = fun n =>
      ((subjects n).mapM c.judge).map fun found => found.reduceOption.map c.names.diagnostic := by
    funext n
    exact c.result_visitor n
  change Except.mapError _ (Except.map _ (List.mapM (fun n => (visitor c t n).result) _)) = _
  rw [hvisit, mapM_map_eq_map_mapM, candidates, mapM_flatMap]
  change _ = Except.mapError _ (Except.map _ (Except.map _ (List.mapM _
    ((c.shownTo tokens).shown t))))
  cases ((c.shownTo tokens).shown t).mapM fun n => (subjects n).mapM c.judge with
  | error m => rfl
  | ok found =>
    simp [Except.map, Except.mapError, List.reduceOption, List.filterMap_flatten,
      List.map_flatten, Function.comp_def]

/-- If all candidates are judged, each of them is reported about once or not at all. -/
theorem filterMap_report? {t : Tree} {ss : List t.Node} {found : List (Option Finding)}
    (h : List.Forall₂ (fun s v => c.judge s = .ok v) ss found) :
    ss.filterMap c.report? = found.reduceOption.map c.names.diagnostic := by
  induction h with
  | nil => rfl
  | @cons s v ss found hv _ ih =>
    have hs : c.report? s = v.map c.names.diagnostic := by
      rw [report?, hv]
      rfl
    rw [List.filterMap_cons, hs, ih]
    cases v <;> rfl

/-- If the rule succeeds on a tree, all candidates were judged. -/
theorem judged_of_ok {tokens : KindSet} {t : Tree} {ds : List Diagnostic}
    (h : (c.shownTo tokens).dispatch t = .ok ds) :
    c.judged tokens t = candidates tokens t ∧ ds = (candidates tokens t).filterMap c.report? := by
  rw [dispatch_eq_mapM_judge, mapError_eq_ok_iff, map_eq_ok_iff] at h
  obtain ⟨found, hfound, rfl⟩ := h
  refine ⟨through_eq_self fun s hs => ?_, (c.filterMap_report? (mapM_eq_ok_iff.mp hfound)).symm⟩
  obtain ⟨v, hv⟩ := exists_mapM_eq_ok_iff.mp ⟨found, hfound⟩ s hs
  rw [hv]
  rfl

/-- If the rule fails on a tree, the last declaration that was judged is to blame. -/
theorem judged_of_error {tokens : KindSet} {t : Tree} {e : DispatchError}
    (h : (c.shownTo tokens).dispatch t = .error e) :
    ∃ before s cause, c.judged tokens t = before ++ [s] ∧ (∀ x ∈ before, (c.judge x).isOk = true) ∧
      c.judge s = .error cause ∧ e = ⟨info.id, t.path, cause⟩ := by
  rw [dispatch_eq_mapM_judge, mapError_eq_error_iff] at h
  obtain ⟨cause, hcause, rfl⟩ := h
  rw [map_eq_error_iff, mapM_eq_error_iff] at hcause
  obtain ⟨before, s, after, hs, hb, hc⟩ := hcause
  refine ⟨before, s, cause, ?_, hb, hc, rfl⟩
  rw [judged, hs]
  refine through_of_first_stop (fun x hx => ?_) ?_
  · rw [hb x hx]
    rfl
  · rw [hc]
    rfl

end Classifier

section Dump

variable (dump : Dump)

/-- The subjects of two nodes have none in common.

**Proof sketch.** A field, a method or a constructor is a subject of itself only. A parameter is a
subject of the parent of its parent. -/
theorem subjects_disjoint {m n s : (ofDump dump).Node} (hm : s ∈ subjects m)
    (hn : s ∈ subjects n) : m = n := by
  have hkind : ∀ {q : (ofDump dump).Node}, IsField q ∨ IsCallable q →
      kind q ≠ .parameterDef := by
    rintro q (hq | hq | hq)
    · simp [hq.1]
    · simp [hq]
    · simp [hq]
  rcases mem_subjects_iff.mp hm with ⟨rfl, hs⟩ | ⟨-, -, p, hp, hs, hk⟩
  · rcases mem_subjects_iff.mp hn with ⟨h, -⟩ | ⟨-, -, q, -, -, hk⟩
    · exact h
    · exact absurd hk (hkind hs)
  · rcases mem_subjects_iff.mp hn with ⟨rfl, hs'⟩ | ⟨-, -, q, hq, hs', -⟩
    · exact absurd hk (hkind hs')
    · have hpq : p = q := by
        rw [mem_children_iff] at hs hs'
        exact Option.some.inj (hs.symm.trans hs')
      subst hpq
      obtain ⟨-, before, after, hm', -⟩ := hp
      obtain ⟨-, before', after', hn', -⟩ := hq
      have hpm : p ∈ children m := by simp [hm']
      have hpn : p ∈ children n := by simp [hn']
      rw [mem_children_iff] at hpm hpn
      exact Option.some.inj (hpm.symm.trans hpn)

/-- No declaration is a subject of a node twice. -/
theorem nodup_subjects (n : (ofDump dump).Node) : (subjects n).Nodup := by
  obtain ⟨ss, hss⟩ : ∃ ss, ss = subjects n := ⟨_, rfl⟩
  rw [← hss]
  cases subjectList_iff.mpr hss with
  | field h => exact List.nodup_singleton n
  | localVariable h hf => exact List.nodup_nil
  | native h hn => exact List.nodup_singleton n
  | withoutParameters h hp => exact List.nodup_singleton n
  | withParameters h hn p hp =>
    refine List.nodup_cons.mpr ⟨fun hmem => ?_, (nodup_children dump p).filter _⟩
    have hk : kind n = .parameterDef := by simpa using (List.mem_filter.mp hmem).2
    rw [IsCallable, hk] at h
    simp at h
  | other h hc => exact List.nodup_nil

/-- No declaration is a candidate twice. -/
theorem nodup_candidates (tokens : KindSet) : (candidates tokens (ofDump dump)).Nodup := by
  rw [candidates, descendants_root, List.nodup_flatMap]
  refine ⟨fun n _ => nodup_subjects dump n, ?_⟩
  have hnodes : ((ofDump dump).nodes.filter fun n => tokens.holds (kind n)).Nodup :=
    (List.nodup_finRange _).filter _
  refine hnodes.imp fun {m n} hne => ?_
  intro s hm hn
  exact hne (subjects_disjoint dump hm hn)

/-- The candidates are the subjects of the nodes whose kind is among the tokens. -/
theorem mem_candidates_iff {tokens : KindSet} {s : (ofDump dump).Node} :
    s ∈ candidates tokens (ofDump dump) ↔ ∃ n, kind n ∈ tokens ∧ s ∈ subjects n := by
  rw [candidates, descendants_root]
  simp only [nodes, List.mem_flatMap, List.mem_filter, List.mem_finRange, true_and]
  exact Iff.rfl

/-- The candidates for the tokens that the rule has by default. -/
theorem mem_candidates_default_iff {s : (ofDump dump).Node} :
    s ∈ candidates (KindSet.ofList rule.defaultTokens) (ofDump dump) ↔ IsSubject s := by
  rw [mem_candidates_iff]
  constructor
  · rintro ⟨n, -, hs⟩
    rcases mem_subjects_iff.mp hs with ⟨rfl, hs | hs⟩ | ⟨hn, hnative, p, hp, hs, hk⟩
    · exact IsSubject.field hs
    · exact IsSubject.callable hs
    · exact IsSubject.parameter n p hn hnative hp ((mem_children_iff dump).mp hs) hk
  · intro h
    cases h with
    | field h => exact ⟨s, by rw [h.1]; decide, mem_subjects_iff.mpr (Or.inl ⟨rfl, Or.inl h⟩)⟩
    | callable h =>
      refine ⟨s, ?_, mem_subjects_iff.mpr (Or.inl ⟨rfl, Or.inr h⟩)⟩
      rcases h with h | h <;> rw [h] <;> decide
    | parameter m p hm hn hp hs hk =>
      refine ⟨m, ?_, mem_subjects_iff.mpr (Or.inr ⟨hm, hn, p, hp, ?_, hk⟩)⟩
      · rcases hm with h | h <;> rw [h] <;> decide
      · exact (mem_children_iff dump).mpr hs

end Dump

/-- **No declaration is judged twice.** Whatever the tokens are and whether the rule succeeds or
fails on the tree of a dump, applying the rule judges the candidates one after the other, and does
not get beyond those that are called judged. Each node is judged at most once. If the rule succeeds,
at most one thing is reported about each declaration that was judged, and so at most as many as the
dump has nodes; with the tokens that the rule has by default the declarations that were judged are
the fields, the methods, the constructors and the parameters of those that are not native. If it
fails, the declaration that was judged last is to blame, and no other one that was judged is. -/
theorem Classifier.judged_once (c : Classifier) (tokens : KindSet) (dump : Dump) :
    (∀ ss ∈ [candidates tokens (ofDump dump), c.judged tokens (ofDump dump)],
      (c.shownTo tokens).dispatch (ofDump dump) =
        ((ss.mapM c.judge).map fun found =>
          found.reduceOption.map c.names.diagnostic).mapError fun cause =>
            ⟨info.id, dump.path, cause⟩) ∧
      c.judged tokens (ofDump dump) <+: candidates tokens (ofDump dump) ∧
      (c.judged tokens (ofDump dump)).Nodup ∧
      (∀ ds, (c.shownTo tokens).dispatch (ofDump dump) = .ok ds →
        ds = (c.judged tokens (ofDump dump)).filterMap c.report? ∧ ds.length ≤ dump.root.size) ∧
      (∀ e, (c.shownTo tokens).dispatch (ofDump dump) = .error e → ∃ before s cause,
        c.judged tokens (ofDump dump) = before ++ [s] ∧
          (∀ x ∈ before, (c.judge x).isOk = true) ∧ c.judge s = .error cause ∧
          e = ⟨info.id, dump.path, cause⟩) ∧
      ∀ ds, (c.shownTo (KindSet.ofList rule.defaultTokens)).dispatch (ofDump dump) = .ok ds →
        ∀ s, s ∈ c.judged (KindSet.ofList rule.defaultTokens) (ofDump dump) ↔ IsSubject s := by
  refine ⟨?_, prefix_through _ _, ?_, fun ds h => ?_, fun e h => c.judged_of_error h,
    fun ds h s => ?_⟩
  · intro ss hss
    rcases List.mem_pair.mp hss with rfl | rfl
    · exact c.dispatch_eq_mapM_judge tokens _
    · rw [judged, mapM_through_eq_mapM]
      exact c.dispatch_eq_mapM_judge tokens _
  · exact (nodup_candidates dump tokens).sublist (prefix_through _ _).sublist
  · obtain ⟨hj, hds⟩ := c.judged_of_ok h
    refine ⟨by rw [hj, hds], ?_⟩
    calc ds.length ≤ (candidates tokens (ofDump dump)).length := by
          rw [hds]
          exact List.length_filterMap_le _ _
      _ ≤ Fintype.card (ofDump dump).Node := (nodup_candidates dump tokens).length_le_card
      _ = dump.root.size := by rw [Fintype.card_fin, size_entries_ofDump]
  · rw [(c.judged_of_ok h).1, mem_candidates_default_iff]

end NullLint.NullAnnotations
