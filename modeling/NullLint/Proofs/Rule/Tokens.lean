import NullLint.Proofs.Engine.Analyze
import NullLint.Proofs.Rule.Nested

set_option autoImplicit false
set_option relaxedAutoImplicit false

/-!
# Fewer tokens

A rule that is shown fewer kinds of nodes reports less, but nothing else: the visit of a node does
not depend on the other nodes that are shown. So what is left of the diagnostics is what comes of
the visits that are left, in the same order. A fault may be passed over, but none is added.

## Main definitions

* `Interleaves` — a list is made of two others, each in its order.
* `ConfiguredRule.reportsAt` — what a rule reports, with the nodes at which it is reported.
* `ConfiguredRule.FailsAt` — the first node in pre-order at which a rule fails.
* `ConfiguredRule.Narrows` — a rule is shown fewer kinds of nodes.

## Main results

* `ConfiguredRule.dispatch_eq_error_iff` — a rule fails on a tree where it fails first.
* `ConfiguredRule.Narrows.reportsAt_eq` — what is left of the diagnostics.
* `NullAnnotations.Classifier.dispatch_narrowed` — **fewer tokens**, for the rule about null
  annotations.
-/

namespace NullLint

open Syntax Tree

/-! ## Lists made of two others -/

section Lists

variable {ε α β : Type}

/-- A list is made of the items of two others, each in its order. -/
inductive Interleaves : List α → List α → List α → Prop
  | nil : Interleaves [] [] []
  | left {as bs cs : List α} (a : α) (h : Interleaves as bs cs) : Interleaves (a :: as) bs (a :: cs)
  | right {as bs cs : List α} (b : α) (h : Interleaves as bs cs) :
    Interleaves as (b :: bs) (b :: cs)

/-- A list is made of the items with a property and of those without it. -/
theorem interleaves_filter (p : α → Bool) (as : List α) :
    Interleaves (as.filter p) (as.filter fun a => !p a) as := by
  induction as with
  | nil => exact Interleaves.nil
  | cons a as ih =>
    cases h : p a with
    | true =>
      rw [List.filter_cons_of_pos h, List.filter_cons_of_neg (by simp [h])]
      exact Interleaves.left a ih
    | false =>
      rw [List.filter_cons_of_neg (by simp [h]), List.filter_cons_of_pos (by simp [h])]
      exact Interleaves.right a ih

theorem Interleaves.map (f : α → β) {as bs cs : List α} (h : Interleaves as bs cs) :
    Interleaves (as.map f) (bs.map f) (cs.map f) := by
  induction h with
  | nil => exact Interleaves.nil
  | left a _ ih => exact Interleaves.left (f a) ih
  | right b _ ih => exact Interleaves.right (f b) ih

/-- What comes of the items with a property is found among what comes of all items. -/
theorem flatMap_filter_eq (p : α → Bool) (f : α → List β) (as : List α) :
    ((as.filter p).flatMap fun a => (f a).map fun b => (a, b)) =
      (as.flatMap fun a => (f a).map fun b => (a, b)).filter fun x => p x.1 := by
  induction as with
  | nil => rfl
  | cons a as ih =>
    rw [List.flatMap_cons, List.filter_append, ← ih]
    cases h : p a with
    | true =>
      have hkeep : ((f a).map fun b => (a, b)).filter (fun x => p x.1) =
          (f a).map fun b => (a, b) := by
        simp [List.filter_map, Function.comp_def, h]
      rw [List.filter_cons_of_pos h, List.flatMap_cons, hkeep]
    | false =>
      have hdrop : ((f a).map fun b => (a, b)).filter (fun x => p x.1) = [] := by
        simp [List.filter_map, Function.comp_def, h]
      rw [List.filter_cons_of_neg (by simp [h]), hdrop, List.nil_append]

/-- Attempts on the items with a property fail at the first of them that fails. -/
theorem mapM_filter_eq_error_iff {f : α → Except ε β} {p : α → Bool} {as : List α} {e : ε} :
    (as.filter p).mapM f = .error e ↔ ∃ before a after, as = before ++ a :: after ∧
      (∀ x ∈ before, p x = true → (f x).isOk = true) ∧ p a = true ∧ f a = .error e := by
  rw [mapM_eq_error_iff]
  constructor
  · rintro ⟨shown, a, rest, hfilter, hshown, ha⟩
    obtain ⟨first, second, rfl, rfl, hsecond⟩ := List.filter_eq_append_iff.mp hfilter
    obtain ⟨passed, after, rfl, hpassed, hp, -⟩ := List.filter_eq_cons_iff.mp hsecond
    refine ⟨first ++ passed, a, after, (List.append_assoc _ _ _).symm, fun x hx hpx => ?_, hp, ha⟩
    rcases List.mem_append.mp hx with hx | hx
    · exact hshown x (List.mem_filter.mpr ⟨hx, hpx⟩)
    · exact absurd hpx (hpassed x hx)
  · rintro ⟨before, a, after, rfl, hbefore, hp, ha⟩
    refine ⟨before.filter p, a, after.filter p, ?_, fun x hx => ?_, ha⟩
    · rw [List.filter_append, List.filter_cons_of_pos hp]
    · exact hbefore x (List.mem_filter.mp hx).1 (List.mem_filter.mp hx).2

end Lists

/-! ## Rules that are shown fewer kinds of nodes -/

namespace ConfiguredRule

variable (rule : ConfiguredRule) (t : Tree)

/-- What a rule reports about a tree, each diagnostic with the node at whose visit it is
reported. -/
def reportsAt : List (t.Node × Diagnostic) :=
  (rule.shown t).flatMap fun n => (((rule.visit t n).result.toOption).getD []).map fun d => (n, d)

/-- The first node at which a rule fails is that of a number in pre-order, and it fails with an
error. -/
structure FailsAt (i : Nat) (e : DispatchError) : Prop where
  node : ∃ n cause, (descendants t.root)[i]? = some n ∧ kind n ∈ rule.tokens ∧
    (rule.visit t n).result = .error cause ∧ e = ⟨rule.info.id, t.path, cause⟩
  before : ∀ j < i, ∀ m, (descendants t.root)[j]? = some m → kind m ∈ rule.tokens →
    (rule.visit t m).result.isOk = true

variable {rule t}

theorem map_snd_reportsAt : (rule.reportsAt t).map (·.2) = rule.reports t := by
  simp only [reportsAt, reports, List.map_flatMap, List.map_map, Function.comp_def, List.map_id']

/-- A rule fails on a tree where it fails first. -/
theorem dispatch_eq_error_iff {e : DispatchError} :
    rule.dispatch t = .error e ↔ ∃ i, rule.FailsAt t i e := by
  rw [dispatch, mapError_eq_error_iff]
  simp only [map_eq_error_iff, shown, mapM_filter_eq_error_iff]
  constructor
  · rintro ⟨cause, ⟨before, n, after, hsplit, hbefore, hn, hcause⟩, rfl⟩
    refine ⟨before.length, ⟨n, cause, by simp [hsplit], hn, hcause, rfl⟩, fun j hj m hm hk => ?_⟩
    rw [hsplit, List.getElem?_append_left hj] at hm
    exact hbefore m (List.mem_of_getElem? hm) hk
  · rintro ⟨i, ⟨n, cause, hn, hk, hcause, rfl⟩, hbefore⟩
    obtain ⟨hi, hget⟩ := List.getElem?_eq_some_iff.mp hn
    refine ⟨cause, ⟨(descendants t.root).take i, n, (descendants t.root).drop (i + 1), ?_,
      fun m hm hkm => ?_, hk, hcause⟩, rfl⟩
    · rw [← hget, ← List.drop_eq_getElem_cons hi, List.take_append_drop]
    · obtain ⟨j, hj, rfl⟩ := List.getElem_of_mem hm
      rw [List.length_take, lt_min_iff] at hj
      rw [List.getElem_take] at hkm ⊢
      exact hbefore j hj.1 _ (List.getElem?_eq_getElem hj.2) hkm

/-- A rule succeeds on a tree if it succeeds on all nodes that it is shown. -/
theorem exists_dispatch_eq_ok_iff :
    (∃ ds, rule.dispatch t = .ok ds) ↔
      ∀ n ∈ descendants t.root, kind n ∈ rule.tokens → ∃ ds, (rule.visit t n).result = .ok ds := by
  constructor
  · rintro ⟨ds, h⟩ n hn hk
    obtain ⟨dss, hdss, -⟩ := map_eq_ok_iff.mp (mapError_eq_ok_iff.mp h)
    exact exists_mapM_eq_ok_iff.mp ⟨dss, hdss⟩ n (List.mem_filter.mpr ⟨hn, hk⟩)
  · intro h
    have hshown : ∀ n ∈ rule.shown t, ∃ ds, (rule.visit t n).result = .ok ds := fun n hn =>
      h n (List.mem_filter.mp hn).1 (List.mem_filter.mp hn).2
    obtain ⟨dss, hdss⟩ := exists_mapM_eq_ok_iff.mpr hshown
    exact ⟨dss.flatten, mapError_eq_ok_iff.mpr (map_eq_ok_iff.mpr ⟨dss, hdss, rfl⟩)⟩

/-- A rule is the same as another one but shown fewer kinds of nodes. -/
structure Narrows (few many : ConfiguredRule) : Prop where
  info : few.info = many.info
  visit : few.visit = many.visit
  tokens : ∀ k ∈ few.tokens, k ∈ many.tokens

namespace Narrows

variable {few many : ConfiguredRule}

/-- A rule that is shown fewer kinds reports what the other one reports at the nodes of these
kinds. -/
theorem reportsAt_eq (h : few.Narrows many) :
    few.reportsAt t = (many.reportsAt t).filter fun x => few.tokens.holds (kind x.1) := by
  have hshown : few.shown t = (many.shown t).filter fun n => few.tokens.holds (kind n) := by
    rw [shown, shown, List.filter_filter]
    refine List.filter_congr fun n _ => ?_
    have htokens := h.tokens (kind n)
    change (few.tokens.holds (kind n) = true → many.tokens.holds (kind n) = true) at htokens
    cases hfew : few.tokens.holds (kind n) with
    | false => rfl
    | true => rw [htokens hfew]; rfl
  rw [reportsAt, reportsAt, hshown, h.visit]
  exact flatMap_filter_eq _ _ _

/-- If a rule succeeds, so does the one that is shown fewer kinds. -/
theorem exists_dispatch_eq_ok (h : few.Narrows many) (hok : ∃ ds, many.dispatch t = .ok ds) :
    ∃ ds, few.dispatch t = .ok ds := by
  rw [exists_dispatch_eq_ok_iff] at hok ⊢
  intro n hn hk
  rw [h.visit]
  exact hok n hn (h.tokens _ hk)

/-- If the rule that is shown fewer kinds fails, so does the other one, at the same node or before
it. -/
theorem exists_failsAt (h : few.Narrows many) {j : Nat} {e : DispatchError}
    (hfew : few.FailsAt t j e) :
    ∃ i e', many.dispatch t = .error e' ∧ many.FailsAt t i e' ∧ i ≤ j ∧ (i = j → e' = e) := by
  obtain ⟨n, cause, hn, hk, hcause, rfl⟩ := hfew.node
  rw [h.visit] at hcause
  cases hmany : many.dispatch t with
  | ok ds =>
    obtain ⟨ds', hds'⟩ := exists_dispatch_eq_ok_iff.mp ⟨ds, hmany⟩ n (List.mem_of_getElem? hn)
      (h.tokens _ hk)
    rw [hcause] at hds'
    cases hds'
  | error e' =>
    obtain ⟨i, hi⟩ := dispatch_eq_error_iff.mp hmany
    refine ⟨i, e', rfl, hi, ?_, ?_⟩
    · by_contra hlt
      have hok := hi.before j (by omega) n hn (h.tokens _ hk)
      rw [hcause] at hok
      cases hok
    · rintro rfl
      obtain ⟨n', cause', hn', -, hcause', rfl⟩ := hi.node
      obtain rfl := Option.some.inj (hn.symm.trans hn')
      rw [hcause] at hcause'
      cases hcause'
      rw [h.info]

end Narrows

end ConfiguredRule

/-! ## The rule about null annotations -/

namespace NullAnnotations.Classifier

variable (c : Classifier)

theorem narrows_shownTo {few many : KindSet} (h : ∀ k ∈ few, k ∈ many) :
    (c.shownTo few).Narrows (c.shownTo many) :=
  ⟨rfl, rfl, h⟩

/-- If the rule succeeds on a tree with some tokens, it succeeds with fewer of them and reports what
comes of visiting nodes of these kinds. -/
theorem dispatch_of_fewer {t : Tree} {few many : KindSet} {ds : List Diagnostic}
    (h : ∀ k ∈ few, k ∈ many) (hds : (c.shownTo many).dispatch t = .ok ds) :
    (c.shownTo few).dispatch t =
      .ok ((((c.shownTo many).reportsAt t).filter fun x => few.holds (kind x.1)).map (·.2)) := by
  have hok := (c.narrows_shownTo h).exists_dispatch_eq_ok ⟨ds, hds⟩
  rw [ConfiguredRule.dispatch_eq_reports hok, ← ConfiguredRule.map_snd_reportsAt,
    (c.narrows_shownTo h).reportsAt_eq]
  rfl

/-- If the rule succeeds on a tree with some tokens and with some others, it succeeds with all of
them. -/
theorem exists_dispatch_union {t : Tree} {these those all : KindSet}
    (hall : ∀ k, k ∈ all ↔ k ∈ these ∨ k ∈ those)
    (hthese : ∃ ds, (c.shownTo these).dispatch t = .ok ds)
    (hthose : ∃ ds, (c.shownTo those).dispatch t = .ok ds) :
    ∃ ds, (c.shownTo all).dispatch t = .ok ds := by
  rw [ConfiguredRule.exists_dispatch_eq_ok_iff] at hthese hthose ⊢
  intro n hn hk
  rcases (hall (kind n)).mp hk with hk | hk
  · exact hthese n hn hk
  · exact hthose n hn hk

/-- What the rule reports with some tokens and with the others makes up what it reports with all of
them. -/
theorem interleaves_dispatch {t : Tree} {these those all : KindSet} {ds ds₁ ds₂ : List Diagnostic}
    (hall : ∀ k, k ∈ all ↔ k ∈ these ∨ k ∈ those) (hdisjoint : ∀ k ∈ these, k ∉ those)
    (h : (c.shownTo all).dispatch t = .ok ds) (h₁ : (c.shownTo these).dispatch t = .ok ds₁)
    (h₂ : (c.shownTo those).dispatch t = .ok ds₂) : Interleaves ds₁ ds₂ ds := by
  rw [c.dispatch_of_fewer (fun k hk => (hall k).mpr (Or.inl hk)) h] at h₁
  rw [c.dispatch_of_fewer (fun k hk => (hall k).mpr (Or.inr hk)) h] at h₂
  rw [ConfiguredRule.dispatch_eq_reports ⟨ds, h⟩, ← ConfiguredRule.map_snd_reportsAt] at h
  obtain rfl := Except.ok.inj h
  obtain rfl := Except.ok.inj h₁
  obtain rfl := Except.ok.inj h₂
  -- A node at which something is reported is of one of these kinds or of one of those.
  have hothers : ((c.shownTo all).reportsAt t).filter (fun x => those.holds (kind x.1)) =
      ((c.shownTo all).reportsAt t).filter fun x => !these.holds (kind x.1) := by
    refine List.filter_congr fun x hx => ?_
    obtain ⟨n, hn, hx⟩ := List.mem_flatMap.mp hx
    obtain ⟨d, -, rfl⟩ := List.mem_map.mp hx
    have hk : kind n ∈ all := (List.mem_filter.mp hn).2
    have hnot : kind n ∈ these → kind n ∉ those := hdisjoint (kind n)
    rw [hall] at hk
    change these.holds (kind n) = true ∨ those.holds (kind n) = true at hk
    change these.holds (kind n) = true → ¬those.holds (kind n) = true at hnot
    by_cases hthese : these.holds (kind n) = true
    · simp [hthese, hnot hthese]
    · simp [hthese, hk.resolve_left hthese]
  rw [hothers]
  exact (interleaves_filter _ _).map _

/-- **Fewer tokens.** If the rule succeeds on a tree with some tokens, then it succeeds with fewer
of them, and what it reports is what comes of visiting the nodes of these kinds, unchanged and in
the same order. If it fails with fewer tokens, then it fails with more of them, at the same node
with the same error or at a node before it. So the diagnostics with the tokens of two sets without
a common one are made of the diagnostics with either set, each in its order, and the rule succeeds
with both if it succeeds with each.

**Proof sketch.** Visiting a node does not depend on the tokens, and the nodes that are shown are
those of the walk whose kind is among them. -/
theorem dispatch_narrowed (t : Tree) :
    (∀ few many : KindSet, (∀ k ∈ few, k ∈ many) →
      (∀ ds, (c.shownTo many).dispatch t = .ok ds →
        ds = ((c.shownTo many).reportsAt t).map (·.2) ∧
        (c.shownTo few).dispatch t =
          .ok ((((c.shownTo many).reportsAt t).filter fun x => few.holds (kind x.1)).map (·.2))) ∧
      ∀ e, (c.shownTo few).dispatch t = .error e →
        ∃ i j e', (c.shownTo few).FailsAt t j e ∧ (c.shownTo many).dispatch t = .error e' ∧
          (c.shownTo many).FailsAt t i e' ∧ i ≤ j ∧ (i = j → e' = e)) ∧
    ∀ these those all : KindSet, (∀ k, k ∈ all ↔ k ∈ these ∨ k ∈ those) →
      (∀ k ∈ these, k ∉ those) →
      ((∃ ds, (c.shownTo all).dispatch t = .ok ds) ↔
        (∃ ds, (c.shownTo these).dispatch t = .ok ds) ∧
          ∃ ds, (c.shownTo those).dispatch t = .ok ds) ∧
      ∀ ds ds₁ ds₂, (c.shownTo all).dispatch t = .ok ds →
        (c.shownTo these).dispatch t = .ok ds₁ → (c.shownTo those).dispatch t = .ok ds₂ →
        Interleaves ds₁ ds₂ ds := by
  refine ⟨fun few many h => ⟨fun ds hds => ⟨?_, c.dispatch_of_fewer h hds⟩, fun e he => ?_⟩,
    fun these those all hall hdisjoint => ⟨⟨?_, ?_⟩, ?_⟩⟩
  · rw [ConfiguredRule.dispatch_eq_reports ⟨ds, hds⟩] at hds
    rw [ConfiguredRule.map_snd_reportsAt]
    exact (Except.ok.inj hds).symm
  · obtain ⟨j, hj⟩ := ConfiguredRule.dispatch_eq_error_iff.mp he
    obtain ⟨i, e', hmany, hi, hle, heq⟩ := (c.narrows_shownTo h).exists_failsAt hj
    exact ⟨i, j, e', hj, hmany, hi, hle, heq⟩
  · rintro ⟨ds, hds⟩
    exact ⟨⟨_, c.dispatch_of_fewer (fun k hk => (hall k).mpr (Or.inl hk)) hds⟩,
      ⟨_, c.dispatch_of_fewer (fun k hk => (hall k).mpr (Or.inr hk)) hds⟩⟩
  · rintro ⟨hthese, hthose⟩
    exact c.exists_dispatch_union hall hthese hthose
  · intro ds ds₁ ds₂ h h₁ h₂
    exact c.interleaves_dispatch hall hdisjoint h h₁ h₂

end NullAnnotations.Classifier

end NullLint
