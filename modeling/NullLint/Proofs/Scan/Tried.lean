import NullLint.Proofs.Scan.Load

set_option autoImplicit false
set_option relaxedAutoImplicit false

/-!
# The dumps that a scan comes to

A scan loads the tree dumps of its input one after the other. If all of them can be loaded it comes
to all of them; otherwise it comes to those up to and including the first one that cannot be loaded,
unless there is a directory before it that cannot be listed: then it comes to the dumps before that
directory.

## Main definitions

* `Scan.Passes` — a scan gets past some items.
* `Scan.FailsAfter` — a scan fails, after it has come to some dumps.

## Main results

* `Scan.triedPaths_of_loadAll` — the dumps that a scan that succeeds comes to.
* `Scan.failsAfter_triedPaths` — the dumps that a scan that fails comes to.
-/

namespace NullLint.Scan

variable {fs : FileSystem} {input : String}

/-- A scan gets past some items: the dumps among them can be loaded, and each directory can be
listed. -/
def Passes (items : List Item) : Prop :=
  (∀ path content, Item.dump path content ∈ items → ∃ l, load path content = .ok l) ∧
    ∀ path fault, Item.closed path fault ∉ items

/-- A scan fails, after it has come to some dumps. The input is no directory and not the file of a
dump; or one dump cannot be loaded; or one directory cannot be listed. The scan gets past all that
comes before. -/
inductive FailsAfter (fs : FileSystem) (input : String) : List String → Error → Prop
  | unsupported (hnode : ∀ entries limits, fs.node input ≠ .ok (.directory entries limits))
      (hpath : isDumpPath input = false) : FailsAfter fs input [] (.unsupported input)
  | dump {before after : List Item} {path : String} {content : Content} {cause : Error}
      (hitems : items fs input = .ok (before ++ .dump path content :: after))
      (hbefore : Passes before) (hload : load path content = .error cause) :
      FailsAfter fs input ((dumpsOf before).map (·.1) ++ [path]) cause
  | closed {before after : List Item} {path : String} {fault : FileSystem.ListFault}
      (hitems : items fs input = .ok (before ++ .closed path fault :: after))
      (hbefore : Passes before) :
      FailsAfter fs input ((dumpsOf before).map (·.1)) (.unlisted path fault)

/-- There is nothing to look at only if the input is no directory and not the file of a dump. -/
theorem items_eq_error_iff {e : Error} :
    items fs input = .error e ↔
      (∀ entries limits, fs.node input ≠ .ok (.directory entries limits)) ∧
        isDumpPath input = false ∧ .unsupported input = e := by
  rw [items]
  split
  · next entries limits hnode => simp [hnode]
  · next hnode =>
    cases isDumpPath input
    · simpa using fun _ => hnode
    · simp

theorem passes_iff {items : List Item} :
    Passes items ↔ ∀ item ∈ items, item.load?.isOk = true := by
  constructor
  · rintro ⟨hdumps, hlisted⟩ item hitem
    cases item with
    | other path => rfl
    | closed path fault => exact absurd hitem (hlisted path fault)
    | dump path content =>
      obtain ⟨l, hl⟩ := hdumps path content hitem
      rw [Item.load?, hl]
      rfl
  · intro h
    refine ⟨fun path content hitem => ?_, fun path fault hitem => ?_⟩
    · have hok := h _ hitem
      rw [Item.load?, isOk_map] at hok
      cases hl : load path content with
      | ok l => exact ⟨l, rfl⟩
      | error e =>
        rw [hl] at hok
        cases hok
    · cases h _ hitem

theorem tried_of_items {found : List Item} (h : items fs input = .ok found) :
    tried fs input = through (fun t => !t.2.isOk) (found.map fun item => (item, item.load?)) := by
  rw [tried, h]

/-- The dumps among the items that a scan comes to. -/
theorem triedPaths_of_tried {found : List Item}
    (h : tried fs input = found.map fun item => (item, item.load?)) :
    triedPaths fs input = (dumpsOf found).map (·.1) := by
  rw [triedPaths, h, List.filterMap_map, dumpsOf, List.map_filterMap]
  refine List.filterMap_congr fun item _ => ?_
  cases item <;> rfl

/-- A scan comes to all dumps among items that it gets past. -/
theorem triedPaths_of_passes {found : List Item} (hitems : items fs input = .ok found)
    (h : Passes found) : triedPaths fs input = (dumpsOf found).map (·.1) := by
  apply triedPaths_of_tried
  rw [tried_of_items hitems, through_eq_self]
  intro t ht
  obtain ⟨item, hitem, rfl⟩ := List.mem_map.mp ht
  rw [passes_iff.mp h item hitem]
  rfl

/-- A scan comes to the dumps before the first item that it does not get past, and to that item if
it is a dump. -/
theorem triedPaths_of_first {before after : List Item} {item : Item} {cause : Error}
    (hitems : items fs input = .ok (before ++ item :: after)) (hbefore : Passes before)
    (h : item.load? = .error cause) :
    triedPaths fs input = (dumpsOf (before ++ [item])).map (·.1) := by
  apply triedPaths_of_tried
  rw [tried_of_items hitems, List.map_append, List.map_append, List.map_cons]
  refine through_of_first_stop (fun t ht => ?_) ?_
  · obtain ⟨passed, hpassed, rfl⟩ := List.mem_map.mp ht
    rw [passes_iff.mp hbefore passed hpassed]
    rfl
  · rw [h]
    rfl

/-- The path of a dump that was loaded. -/
theorem path_of_load {path : String} {content : Content} {l : Loaded}
    (h : load path content = .ok l) : l.path = path := by
  obtain ⟨bytes, tree, -, -, rfl⟩ := load_eq_ok_iff.mp h
  rfl

/-- A scan that succeeds loads all dumps among its items. -/
theorem paths_of_loadAll {ls : List Loaded} {found : List Item} (h : loadAll fs input = .ok ls)
    (hitems : items fs input = .ok found) : ls.map (·.path) = (dumpsOf found).map (·.1) := by
  obtain ⟨found', hitems', hloads⟩ := loads_of_loadAll h
  obtain rfl := Except.ok.inj (hitems.symm.trans hitems')
  symm
  rw [← List.forall₂_eq_eq_eq, List.forall₂_map_left_iff, List.forall₂_map_right_iff]
  exact hloads.imp fun d l hl => (path_of_load hl).symm

/-- A scan that succeeds comes to all dumps that it loads. -/
theorem triedPaths_of_loadAll {ls : List Loaded} (h : loadAll fs input = .ok ls) :
    triedPaths fs input = ls.map (·.path) := by
  obtain ⟨found, hitems, -⟩ := loads_of_loadAll h
  have hpasses : Passes found := by
    rw [passes_iff]
    rw [loadAll, hitems] at h
    obtain ⟨os, hos, -⟩ := map_eq_ok_iff.mp h
    intro item hitem
    obtain ⟨o, ho⟩ := exists_mapM_eq_ok_iff.mp ⟨os, hos⟩ item hitem
    rw [ho]
    rfl
  rw [triedPaths_of_passes hitems hpasses, paths_of_loadAll h hitems]

/-- A scan that fails comes to the dumps up to and including the first one that cannot be loaded, or
to those before the first directory that cannot be listed.

**Proof sketch.** Either there is nothing to look at, or there is a first item that does not load.
By what kind of item it is. -/
theorem failsAfter_triedPaths {cause : Error} (h : loadAll fs input = .error cause) :
    FailsAfter fs input (triedPaths fs input) cause := by
  cases hitems : items fs input with
  | error e =>
    obtain ⟨hnode, hpath, rfl⟩ := items_eq_error_iff.mp hitems
    rw [loadAll, hitems] at h
    cases h
    rw [triedPaths, tried, hitems]
    exact FailsAfter.unsupported hnode hpath
  | ok found =>
    rw [loadAll, hitems, map_eq_error_iff, mapM_eq_error_iff] at h
    obtain ⟨before, item, after, rfl, hbefore, hload⟩ := h
    rw [← passes_iff] at hbefore
    rw [triedPaths_of_first hitems hbefore hload, dumpsOf, List.filterMap_append]
    cases item with
    | other path => cases hload
    | dump path content =>
      rw [List.map_append]
      exact FailsAfter.dump hitems hbefore (map_eq_error_iff.mp hload)
    | closed path fault =>
      cases hload
      rw [List.filterMap_cons, List.filterMap_nil, List.append_nil]
      exact FailsAfter.closed hitems hbefore

end NullLint.Scan
