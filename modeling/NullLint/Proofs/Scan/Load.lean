import NullLint.Proofs.Progress
import NullLint.Scan

set_option autoImplicit false
set_option relaxedAutoImplicit false

/-!
# Loading the dumps of an input

A scan loads the dumps that it comes to one after the other. A dump is loaded if its bytes are a
text, and the text is that of a tree; otherwise it fails for the first of these that does not hold,
and the error names its path. A directory that cannot be listed stands in the way like a dump that
cannot be read.

## Main definitions

* `Scan.Found` — a file with what reading it comes to, or a directory that cannot be listed.
* `Scan.dumpsOf`, `Scan.trialsOf` — the dumps among some items, and these together with the
  directories that cannot be listed.
* `Scan.IsDumpText` — bytes are the text of a tree.
* `Scan.Fails`, `Scan.IsHeading` — why a scan fails at what it finds, and the first words for
  it.

## Main results

* `Scan.loadFound_eq_ok_iff`, `Scan.loadFound_eq_error_iff` — what loading comes to.
* `Scan.loadAll_eq_of_items` — a scan loads the dumps among its items, one after the other.
-/

namespace NullLint

namespace FileSystem

/-- Bytes are a text if they are the bytes of that text. -/
theorem textOf_eq_ok_iff {content : ByteArray} {text : String} :
    textOf content = .ok text ↔ text.toUTF8 = content := by
  constructor
  · intro h
    by_cases hvalid : content.IsValidUTF8
    · rw [textOf, String.fromUTF8?, dif_pos hvalid] at h
      cases h
      rfl
    · rw [textOf, String.fromUTF8?, dif_neg hvalid] at h
      cases h
  · rintro rfl
    have hvalid : text.toUTF8.IsValidUTF8 := text.isValidUTF8
    rw [textOf, String.fromUTF8?, dif_pos hvalid]
    rfl

/-- Bytes are no text if they are the bytes of none. -/
theorem textOf_eq_error_iff {content : ByteArray} {fault : Fault} :
    textOf content = .error fault ↔ fault = .notText ∧ ∀ text : String, text.toUTF8 ≠ content := by
  have hnone : (∀ text : String, text.toUTF8 ≠ content) ↔ String.fromUTF8? content = none := by
    constructor
    · intro h
      rw [String.fromUTF8?, dif_neg fun hvalid => h (String.fromUTF8 content hvalid) rfl]
    · rintro h text rfl
      have hvalid : text.toUTF8.IsValidUTF8 := text.isValidUTF8
      rw [String.fromUTF8?, dif_pos hvalid] at h
      cases h
  rw [hnone, textOf]
  cases String.fromUTF8? content with
  | none => simp [eq_comm]
  | some text => simp

/-- The bytes of a text are read back as that text. -/
theorem bind_textOf (text : String) :
    (Except.ok text.toUTF8 : Except Fault ByteArray).bind textOf = .ok text :=
  textOf_eq_ok_iff.mpr rfl

end FileSystem

namespace Scan

open Syntax

/-- The content of a file, or why it cannot be read. -/
abbrev Content := Except FileSystem.Fault ByteArray

/-- What a scan finds: a file with its content, or a directory whose entries cannot be listed. -/
inductive Found where
  | file (content : Content)
  | closed (fault : FileSystem.ListFault)

/-- What loading comes to where a scan finds something. -/
def loadFound (path : String) : Found → Except Error Loaded
  | .file content => load path content
  | .closed fault => .error (.unlisted path fault)

/-- Bytes are the text of a dump, and its tree. -/
def IsDumpText (bytes : ByteArray) (tree : Tree) : Prop :=
  ∃ text : String, text.toUTF8 = bytes ∧ parseTree text = .ok tree

/-- What is found can be loaded: it is a file that can be read, and its content is the text of a
dump. -/
def IsLoadable (found : Found) : Prop :=
  ∃ bytes tree, found = .file (.ok bytes) ∧ IsDumpText bytes tree

/-- Why a scan fails at what is found at a path: a directory cannot be listed, or a file cannot be
read, its bytes are no text, or the text is not that of a dump. -/
inductive Fails (path : String) : Found → Error → Prop
  | unlisted (fault : FileSystem.ListFault) : Fails path (.closed fault) (.unlisted path fault)
  | unreadable (fault : FileSystem.Fault) :
    Fails path (.file (.error fault)) (.unreadable path fault)
  | notText (bytes : ByteArray) (h : ∀ text : String, text.toUTF8 ≠ bytes) :
    Fails path (.file (.ok bytes)) (.unreadable path .notText)
  | malformed (text : String) (cause : Dump.Error) (h : parseTree text = .error cause) :
    Fails path (.file (.ok text.toUTF8)) (.malformed path cause)

/-- The first words for the reason for which a scan fails at what is found at a path. -/
inductive IsHeading (path : String) : Found → String → Prop
  | directory (fault : FileSystem.Fault) :
    IsHeading path (.closed (.opening fault)) ("failed to read directory " ++ path)
  | entry (fault : FileSystem.Fault) :
    IsHeading path (.closed (.entry fault)) ("failed to read entry under " ++ path)
  | file {content : Content} (h : ∀ text : String, content ≠ .ok text.toUTF8) :
    IsHeading path (.file content) ("failed to read " ++ path)
  | text {text : String} (h : ∀ tree, parseTree text ≠ .ok tree) :
    IsHeading path (.file (.ok text.toUTF8)) ("failed to parse " ++ path)

variable {path : String} {content : Content} {found : Found}

/-- A file is loaded if it can be read and its bytes are the text of a dump. -/
theorem load_eq_ok_iff {l : Loaded} :
    load path content = .ok l ↔
      ∃ bytes tree, content = .ok bytes ∧ IsDumpText bytes tree ∧ l = ⟨path, bytes.size, tree⟩ := by
  rw [load]
  constructor
  · intro h
    split at h
    · cases h
    · next text htext =>
      obtain ⟨bytes, rfl, hbytes⟩ := bind_eq_ok_iff.mp htext
      rw [FileSystem.textOf_eq_ok_iff] at hbytes
      split at h
      · cases h
      · next tree htree =>
        cases h
        refine ⟨bytes, tree, rfl, ⟨text, hbytes, htree⟩, ?_⟩
        rw [← hbytes]
        rfl
  · rintro ⟨bytes, tree, rfl, ⟨text, rfl, htree⟩, rfl⟩
    simp only [FileSystem.bind_textOf, htree]
    rfl

/-- A file is not loaded for the first reason there is. -/
theorem load_eq_error_iff {e : Error} :
    load path content = .error e ↔ Fails path (.file content) e := by
  rw [load]
  constructor
  · intro h
    -- The file cannot be read or is no text, or else there is a text that is judged.
    split at h
    · next fault hfault =>
      cases h
      rcases bind_eq_error_iff.mp hfault with rfl | ⟨bytes, rfl, hbytes⟩
      · exact Fails.unreadable fault
      · obtain ⟨rfl, hnone⟩ := FileSystem.textOf_eq_error_iff.mp hbytes
        exact Fails.notText bytes hnone
    · next text htext =>
      obtain ⟨bytes, rfl, hbytes⟩ := bind_eq_ok_iff.mp htext
      obtain rfl := FileSystem.textOf_eq_ok_iff.mp hbytes
      split at h
      · next cause hcause =>
        cases h
        exact Fails.malformed text cause hcause
      · cases h
  · intro h
    cases h with
    | unreadable fault => rfl
    | notText bytes h =>
      have htext : (Except.ok bytes : Content).bind FileSystem.textOf = .error .notText :=
        FileSystem.textOf_eq_error_iff.mpr ⟨rfl, h⟩
      simp only [htext]
    | malformed text cause h =>
      simp only [FileSystem.bind_textOf, h]

/-- What is found is loaded if it is a file that can be. -/
theorem loadFound_eq_ok_iff {l : Loaded} :
    loadFound path found = .ok l ↔ ∃ bytes tree, found = .file (.ok bytes) ∧
      IsDumpText bytes tree ∧ l = ⟨path, bytes.size, tree⟩ := by
  cases found with
  | file content => simp only [loadFound, load_eq_ok_iff, Found.file.injEq]
  | closed fault => simp [loadFound]

/-- What is found is not loaded for the first reason there is. -/
theorem loadFound_eq_error_iff {e : Error} :
    loadFound path found = .error e ↔ Fails path found e := by
  cases found with
  | file content => exact load_eq_error_iff
  | closed fault =>
    constructor
    · rintro ⟨⟩
      exact Fails.unlisted fault
    · rintro ⟨⟩
      rfl

/-- An error starts with the words for what stands in the way. -/
theorem Fails.exists_isHeading {e : Error} (h : Fails path found e) :
    ∃ heading, IsHeading path found heading ∧ e.chain.head? = some heading := by
  cases h with
  | unlisted fault =>
    cases fault with
    | opening fault => exact ⟨_, IsHeading.directory fault, rfl⟩
    | entry fault => exact ⟨_, IsHeading.entry fault, rfl⟩
  | unreadable fault => exact ⟨_, IsHeading.file fun _ => nofun, rfl⟩
  | notText bytes h =>
    exact ⟨_, IsHeading.file fun text htext => h text (Except.ok.inj htext).symm, rfl⟩
  | malformed text cause h =>
    refine ⟨_, IsHeading.text fun tree htree => ?_, rfl⟩
    rw [h] at htree
    cases htree

theorem isLoadable_iff (path : String) : IsLoadable found ↔ ∃ l, loadFound path found = .ok l := by
  constructor
  · rintro ⟨bytes, tree, hcontent, htext⟩
    exact ⟨_, loadFound_eq_ok_iff.mpr ⟨bytes, tree, hcontent, htext, rfl⟩⟩
  · rintro ⟨l, hl⟩
    obtain ⟨bytes, tree, hcontent, htext, -⟩ := loadFound_eq_ok_iff.mp hl
    exact ⟨bytes, tree, hcontent, htext⟩

theorem isOk_loadFound_iff : (loadFound path found).isOk = true ↔ IsLoadable found := by
  rw [isLoadable_iff path]
  cases loadFound path found <;> simp [Except.isOk, Except.toBool]

/-! ## The items of a scan -/

/-- The dumps among some items, each with its path. -/
def dumpsOf (items : List Item) : List (String × Content) :=
  items.filterMap fun
    | .dump path content => some (path, content)
    | _ => none

/-- The dumps among some items and the directories that cannot be listed, each with its path. -/
def trialsOf (items : List Item) : List (String × Found) :=
  items.filterMap fun
    | .dump path content => some (path, .file content)
    | .other _ => none
    | .closed path fault => some (path, .closed fault)

/-- Only the dumps among some items are loaded, and the directories that cannot be listed stand in
the way. -/
theorem mapM_load?_eq (items : List Item) :
    ((items.mapM Item.load?).map fun found => found.filterMap id) =
      (trialsOf items).mapM fun t => loadFound t.1 t.2 := by
  induction items with
  | nil => rfl
  | cons item items ih =>
    cases item with
    | other path =>
      have htrials : trialsOf (.other path :: items) = trialsOf items := rfl
      rw [htrials, ← ih, mapM_cons_of_ok items (show (Item.other path).load? = .ok none from rfl)]
      cases items.mapM Item.load? <;> rfl
    | closed path fault =>
      have htrials : trialsOf (.closed path fault :: items) =
          (path, .closed fault) :: trialsOf items := rfl
      rw [htrials, mapM_cons_of_error items
        (show (Item.closed path fault).load? = .error (.unlisted path fault) from rfl),
        mapM_cons_of_error (trialsOf items)
          (show loadFound path (.closed fault) = .error (.unlisted path fault) from rfl)]
      rfl
    | dump path content =>
      have htrials : trialsOf (.dump path content :: items) =
          (path, .file content) :: trialsOf items := rfl
      have hload : (Item.dump path content).load? =
          (loadFound path (.file content)).map some := rfl
      rw [htrials]
      cases h : loadFound path (.file content) with
      | error e =>
        rw [h] at hload
        rw [mapM_cons_of_error items hload, mapM_cons_of_error (trialsOf items) h]
        rfl
      | ok l =>
        rw [h] at hload
        rw [mapM_cons_of_ok items hload, mapM_cons_of_ok (trialsOf items) h, ← ih]
        cases items.mapM Item.load? <;> rfl

/-- A scan loads the dumps among its items, one after the other. -/
theorem loadAll_eq_of_items {fs : FileSystem} {input : String} {found : List Item}
    (h : items fs input = .ok found) :
    loadAll fs input = (trialsOf found).mapM fun t => loadFound t.1 t.2 := by
  rw [loadAll, h]
  exact mapM_load?_eq found

/-- If all goes well among some items, it is their dumps that are loaded. -/
theorem forall₂_dumpsOf {items : List Item} {ls : List Loaded}
    (h : List.Forall₂ (fun t l => loadFound t.1 t.2 = .ok l) (trialsOf items) ls) :
    List.Forall₂ (fun d l => load d.1 d.2 = .ok l) (dumpsOf items) ls := by
  induction items generalizing ls with
  | nil =>
    cases h
    exact List.Forall₂.nil
  | cons item items ih =>
    cases item with
    | other path => exact ih h
    | closed path fault =>
      cases h with
      | cons hclosed => cases hclosed
    | dump path content =>
      cases h with
      | cons hload h => exact List.Forall₂.cons hload (ih h)

/-- If a scan loads anything, it loads all dumps among its items, in their order. -/
theorem loads_of_loadAll {fs : FileSystem} {input : String} {ls : List Loaded}
    (h : loadAll fs input = .ok ls) :
    ∃ found, items fs input = .ok found ∧
      List.Forall₂ (fun d l => load d.1 d.2 = .ok l) (dumpsOf found) ls := by
  cases hitems : items fs input with
  | error e =>
    rw [loadAll, hitems] at h
    cases h
  | ok found =>
    rw [loadAll_eq_of_items hitems] at h
    exact ⟨found, rfl, forall₂_dumpsOf (mapM_eq_ok_iff.mp h)⟩

end Scan

end NullLint
