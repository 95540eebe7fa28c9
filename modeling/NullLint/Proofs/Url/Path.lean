import NullLint.Proofs.Text.Cut
import NullLint.Proofs.Url.Percent

set_option autoImplicit false
set_option relaxedAutoImplicit false

/-!
# The segments of a path

A path is followed segment by segment. What is left of it are segments that can be written down and
read again: they hold no separator and nothing that is encoded in a path, and none of them stands
for a directory. The last point is not clear at once, because a segment is encoded after it has been
compared with those that stand for a directory.

## Main definitions

* `Url.IsSegment` — a segment that is left as it is when a path is read.
* `Url.pathChars` — segments as they are written.

## Main results

* `Url.isSegment_segmentText` — a segment that stands for no directory still stands for none when it
  is encoded.
* `Url.isSegment_of_mem_segmentsOf`, `Url.segmentsOf_pathChars` — what is left of a path, and that
  nothing of it is lost when it is written and read again.
* `Url.exists_segment_of_pathChars` — the last segments of a path can be seen in its text.
-/

namespace NullLint.Url

/-- A segment that is left as it is when a path is read. -/
structure IsSegment (s : String) : Prop where
  written : Free pathSet s.toList
  solid : Free (isSlash true) s.toList
  single : isSingleDot s.toList = false
  double : isDoubleDot s.toList = false

instance (s : String) : Decidable (IsSegment s) :=
  decidable_of_iff
    (Free pathSet s.toList ∧ Free (isSlash true) s.toList ∧ isSingleDot s.toList = false ∧
      isDoubleDot s.toList = false)
    ⟨fun ⟨h₁, h₂, h₃, h₄⟩ => ⟨h₁, h₂, h₃, h₄⟩, fun h => ⟨h.written, h.solid, h.single, h.double⟩⟩

/-! ## Segments that stand for a directory -/

/-- The segments that stand for a directory. -/
def dots : List String :=
  [".", "%2e", "%2E", "..", "%2e%2e", "%2e%2E", "%2E%2e", "%2E%2E", "%2e.", "%2E.", ".%2e", ".%2E"]

theorem ofList_mem_dots_iff {cs : List Char} :
    String.ofList cs ∈ dots ↔ isSingleDot cs = true ∨ isDoubleDot cs = true := by
  simp [isSingleDot, isDoubleDot, dots, or_assoc]

/-- The only byte that is encoded in a segment that stands for a directory is the point. -/
theorem eq_point_of_code_infix {s : String} (hs : s ∈ dots) {b : UInt8}
    (hb : encodeByte b <:+: s.toList) : b.toNat = 0x2E := by
  have hall : ∀ s ∈ dots, ∀ m < 16, ∀ n < 16,
      ['%', hexDigit m, hexDigit n] <:+: s.toList → m = 2 ∧ n = 14 := by decide +kernel
  have hlt : b.toNat < 256 := b.toNat_lt
  have := hall s hs _ (by omega) _ (by omega) hb
  omega

/-- A text whose encoding stands for a directory is not changed by the encoding. -/
theorem free_of_encode_mem_dots {cs : List Char} (h : String.ofList (encode pathSet cs) ∈ dots) :
    Free pathSet cs := by
  intro c hc
  by_contra hset
  have hset : pathSet c = true := by simpa using hset
  obtain ⟨b, hinfix, hb⟩ := exists_code_infix hc hset
  have hpoint := eq_point_of_code_infix h (by rwa [String.toList_ofList])
  have hc : c = '.' := Char.toNat_inj.mp ((hb (by omega)).symm.trans hpoint)
  rw [hc] at hset
  exact absurd hset (by decide)

/-- **What is written for a segment that stands for no directory stands for none.** -/
theorem isSegment_segmentText {cs : List Char} (hsolid : Free (isSlash true) cs)
    (hsingle : isSingleDot cs = false) (hdouble : isDoubleDot cs = false) :
    IsSegment (segmentText cs) := by
  have hdots : String.ofList (encode pathSet cs) ∉ dots := by
    intro h
    have hfree := free_of_encode_mem_dots h
    rw [encode_of_free hfree, ofList_mem_dots_iff, hsingle, hdouble] at h
    simp at h
  rw [ofList_mem_dots_iff, not_or, Bool.not_eq_true, Bool.not_eq_true] at hdots
  rw [segmentText]
  constructor <;> rw [String.toList_ofList]
  · exact free_encode leavesCodes_pathSet fun _ _ => id
  · exact free_encode (by decide) fun c hc _ => hsolid c hc
  · exact hdots.1
  · exact hdots.2

/-- A segment is written as it is. -/
theorem IsSegment.segmentText_eq {s : String} (h : IsSegment s) : segmentText s.toList = s := by
  rw [segmentText, encode_of_free h.written, String.ofList_toList]

theorem IsSegment.withoutGaps_eq {s : String} (h : IsSegment s) :
    withoutGaps s.toList = s.toList :=
  withoutGaps_of_free (h.written.mono fun _ => isMargin_of_pathSet)

/-! ## Cutting a path -/

section Cut

variable {special : Bool} {s cs : List Char}

theorem rawSegments_ne_nil (cs : List Char) : rawSegments special cs ≠ [] := by
  cases cs with
  | nil => exact List.cons_ne_nil _ _
  | cons c cs =>
    rw [rawSegments]
    split
    · exact List.cons_ne_nil _ _
    · split <;> exact List.cons_ne_nil _ _

/-- A text without separators in front of a path belongs to its first segment. -/
theorem rawSegments_append (h : Free (isSlash special) s) {t : List Char} {ts : List (List Char)}
    (hcs : rawSegments special cs = t :: ts) :
    rawSegments special (s ++ cs) = (s ++ t) :: ts := by
  induction s with
  | nil => exact hcs
  | cons c s ih =>
    obtain ⟨hc, hs⟩ := free_cons.mp h
    rw [List.cons_append, rawSegments, hc, if_neg Bool.false_ne_true, ih hs]
    rfl

/-- No segment of a path holds a separator. -/
theorem free_of_mem_rawSegments (h : s ∈ rawSegments special cs) : Free (isSlash special) s := by
  induction cs generalizing s with
  | nil =>
    rw [List.mem_singleton.mp h]
    exact free_nil
  | cons c cs ih =>
    rw [rawSegments] at h
    split at h
    · rcases List.mem_cons.mp h with rfl | h
      · exact free_nil
      · exact ih h
    · next hc =>
      have hc : isSlash special c = false := Bool.eq_false_iff.mpr hc
      cases hraw : rawSegments special cs with
      | nil => exact absurd hraw (rawSegments_ne_nil cs)
      | cons t ts =>
        rw [hraw] at h ih
        rcases List.mem_cons.mp h with rfl | h
        · exact free_cons.mpr ⟨hc, ih List.mem_cons_self⟩
        · exact ih (List.mem_cons_of_mem t h)

/-- Segments as they are written, each after a separator. -/
def pathChars (segments : List String) : List Char :=
  segments.flatMap fun s => '/' :: s.toList

theorem toList_text_segments (segments : List String) :
    (Target.segments segments).text.toList = pathChars segments := by
  simp [Target.text, pathChars, String.toList_join, List.flatMap_map]

theorem pathChars_cons (s : String) (ss : List String) :
    pathChars (s :: ss) = '/' :: (s.toList ++ pathChars ss) :=
  List.flatMap_cons

theorem pathChars_singleton (s : String) : pathChars [s] = '/' :: s.toList := by
  rw [pathChars_cons, pathChars, List.flatMap_nil, List.append_nil]

theorem pathChars_append (front back : List String) :
    pathChars (front ++ back) = pathChars front ++ pathChars back :=
  List.flatMap_append

/-- What is written for some segments is cut into these segments. -/
theorem rawSegments_pathChars {segments : List String} (hne : segments ≠ [])
    (h : ∀ s ∈ segments, Free (isSlash true) s.toList) :
    rawSegments true (afterSeparator true (pathChars segments)) =
      segments.map String.toList := by
  have hcut : ∀ (ss : List String), (∀ s ∈ ss, Free (isSlash true) s.toList) →
      rawSegments true (pathChars ss) = [] :: ss.map String.toList := by
    intro ss
    induction ss with
    | nil => exact fun _ => rfl
    | cons s ss ih =>
      intro h
      obtain ⟨hs, hss⟩ := List.forall_mem_cons.mp h
      have := rawSegments_append hs (ih hss)
      rw [List.append_nil] at this
      rw [pathChars_cons, rawSegments, if_pos (by decide), this, List.map_cons]
  cases segments with
  | nil => exact absurd rfl hne
  | cons s ss =>
    obtain ⟨hs, hss⟩ := List.forall_mem_cons.mp h
    have := rawSegments_append hs (hcut ss hss)
    rw [List.append_nil] at this
    rw [pathChars_cons, afterSeparator, if_pos (by decide), this, List.map_cons]

end Cut

/-! ## Following a path -/

namespace Walk

variable {w : Walk}

/-- Going up keeps only segments that were kept before. -/
theorem mem_of_mem_up {s : String} (h : s ∈ w.up.kept) : s ∈ w.kept := by
  unfold up at h
  split at h
  · exact h
  · split at h
    · exact h
    · exact List.dropLast_subset _ h

/-- What is kept while a path is followed are segments that can be written. -/
theorem isSegment_of_mem_follow {ss : List (List Char)} (hw : ∀ s ∈ w.kept, IsSegment s)
    (hss : ∀ s ∈ ss, Free (isSlash true) s) :
    ∀ s ∈ (follow false w ss).kept, IsSegment s := by
  have hrest : ∀ w : Walk, (∀ s ∈ w.kept, IsSegment s) → ∀ s ∈ w.rest.kept, IsSegment s := by
    intro w hw s hs
    rcases List.mem_append.mp hs with hs | hs
    · exact hw s hs
    · rw [List.mem_singleton.mp hs]
      decide
  induction ss generalizing w with
  | nil => exact hw
  | cons t ss ih =>
    obtain ⟨ht, hss⟩ := List.forall_mem_cons.mp hss
    have hup : ∀ s ∈ w.up.kept, IsSegment s := fun s hs => hw s (mem_of_mem_up hs)
    rw [follow]
    split
    · refine ih ?_ hss
      split
      · exact hrest _ hup
      · exact hup
    · next hdouble =>
      split
      · refine ih ?_ hss
        split
        · exact hrest _ hw
        · exact hw
      · next hsingle =>
        refine ih (fun s hs => ?_) hss
        rcases List.mem_append.mp hs with hs | hs
        · exact hw s hs
        · rw [List.mem_singleton.mp hs]
          refine isSegment_segmentText (fun c hc => ht c (List.mem_of_mem_filter hc)) ?_ ?_
          · exact Bool.eq_false_iff.mpr hsingle
          · exact Bool.eq_false_iff.mpr hdouble

/-- Something is left of a path that has been followed. -/
theorem kept_follow_ne_nil {ss : List (List Char)} (h : ss ≠ []) :
    (follow false w ss).kept ≠ [] := by
  have hend : ∀ (kept : List String) (s : String), kept ++ [s] ≠ [] := by simp
  induction ss generalizing w with
  | nil => exact absurd rfl h
  | cons t ss ih =>
    rw [follow]
    cases ss with
    | nil =>
      split
      · exact hend w.up.kept ""
      · split
        · exact hend w.kept ""
        · exact hend w.kept (segmentText (withoutGaps t))
    | cons t' ss =>
      split
      · exact ih (List.cons_ne_nil t' ss)
      · split <;> exact ih (List.cons_ne_nil t' ss)

/-- Segments that can be written are all kept. -/
theorem kept_follow_map_toList {ss : List String} (h : ∀ s ∈ ss, IsSegment s) :
    (follow false w (ss.map String.toList)).kept = w.kept ++ ss := by
  induction ss generalizing w with
  | nil => exact (List.append_nil _).symm
  | cons s ss ih =>
    obtain ⟨hs, hss⟩ := List.forall_mem_cons.mp h
    rw [List.map_cons, follow, hs.withoutGaps_eq, hs.double, hs.single, if_neg Bool.false_ne_true,
      if_neg Bool.false_ne_true, ih hss, down]
    simp [hs.withoutGaps_eq, hs.segmentText_eq]

end Walk

section SegmentsOf

variable {scheme : String} (hspecial : isSpecial scheme = true) (hfile : (scheme == "file") = false)
include hspecial hfile

theorem segmentsOf_eq_kept (cs : List Char) :
    segmentsOf scheme cs =
      (Walk.follow false {} (rawSegments true (afterSeparator true cs))).kept := by
  rw [segmentsOf, hspecial, hfile]
  rfl

/-- **What is left of a path** are segments that can be written. -/
theorem isSegment_of_mem_segmentsOf {cs : List Char} {s : String}
    (h : s ∈ segmentsOf scheme cs) : IsSegment s := by
  rw [segmentsOf_eq_kept hspecial hfile] at h
  exact Walk.isSegment_of_mem_follow (fun s hs => absurd hs List.not_mem_nil)
    (fun _ => free_of_mem_rawSegments) s h

theorem segmentsOf_ne_nil (cs : List Char) : segmentsOf scheme cs ≠ [] := by
  rw [segmentsOf_eq_kept hspecial hfile]
  exact Walk.kept_follow_ne_nil (rawSegments_ne_nil _)

/-- **What is written for segments is read as these segments.** -/
theorem segmentsOf_pathChars {segments : List String} (hne : segments ≠ [])
    (h : ∀ s ∈ segments, IsSegment s) : segmentsOf scheme (pathChars segments) = segments := by
  rw [segmentsOf_eq_kept hspecial hfile, rawSegments_pathChars hne fun s hs => (h s hs).solid,
    Walk.kept_follow_map_toList h]
  rfl

end SegmentsOf

/-! ## The end of a path -/

/-- If a path ends in a separator and a segment, that is its last segment.

**Proof sketch.** A text that holds no separator and has one in front of it is what follows the last
separator of the path. There is only one such text. -/
theorem exists_segment_of_pathChars {segments : List String} {before : List Char} {last : String}
    (hsegments : ∀ s ∈ segments, Free (isSlash true) s.toList)
    (hlast : Free (isSlash true) last.toList)
    (h : pathChars segments = before ++ '/' :: last.toList) :
    ∃ front, segments = front ++ [last] ∧ pathChars front = before := by
  rcases List.eq_nil_or_concat' segments with rfl | ⟨front, s, rfl⟩
  · exact absurd h (by simp [pathChars])
  rw [pathChars_append, pathChars_singleton] at h
  have hs : Free (isSlash true) s.toList := hsegments s (by simp)
  have hcut : ∀ (front : List Char) {x : String}, Free (isSlash true) x.toList →
      Text.afterLastChars '/' (front ++ '/' :: x.toList) = x.toList := fun _ _ hx =>
    Text.afterLastChars_eq_iff.mpr ⟨hx.notMem (by decide), Or.inr ⟨_, rfl⟩⟩
  have heq : s.toList = last.toList := by
    rw [← hcut (pathChars front) hs, ← hcut before hlast, h]
  rw [heq] at h
  exact ⟨front, by rw [String.toList_inj.mp heq], List.append_cancel_right h⟩

end NullLint.Url
