import NullLint.Proofs.Url.Parse
import NullLint.Telemetry.Endpoint

set_option autoImplicit false
set_option relaxedAutoImplicit false

/-!
# The endpoint for spans

Spans are sent to a URL that differs from the given one in its path only. The new path is read back
as it is written, because it ends in two segments that are left as they are and starts with segments
of the given path. Neither the path of the endpoint for logs nor the empty path is left, so that the
endpoint for spans is its own endpoint for spans.

## Main results

* `Telemetry.tracePath_tracePath` — the path for spans is not changed again.
* `Telemetry.isValid_traceUrl` — the URL for spans is one that is read.
* `Telemetry.endpoint_reads_back` — **the endpoint for spans** of a URL of the web.
-/

namespace NullLint.Telemetry

open Url

/-! ## The path for spans -/

/-- What is before an ending. -/
theorem dropEnding?_eq_some_iff {ending s before : String} :
    dropEnding? ending s = some before ↔ s = before ++ ending := by
  have hcut : dropEnding? ending s =
      if s.toList.drop (s.toList.length - ending.toList.length) = ending.toList then
        some (String.ofList (s.toList.take (s.toList.length - ending.toList.length)))
      else none := by
    rw [String.length_toList]
    rfl
  rw [hcut]
  constructor
  · intro h
    split at h
    · next hdrop =>
      cases h
      have hsplit := List.take_append_drop (s.toList.length - ending.toList.length) s.toList
      rw [hdrop] at hsplit
      rw [← String.toList_inj, String.toList_append, String.toList_ofList, hsplit]
    · cases h
  · rintro rfl
    rw [String.toList_append, List.length_append, Nat.add_sub_cancel, List.drop_left, if_pos rfl,
      List.take_left, String.ofList_toList]

theorem tracePath_root : tracePath "/" = "/v1/traces" :=
  rfl

/-- No text ends in the path of the endpoint for spans and in that of the endpoint for logs. -/
theorem append_traces_ne (before before' : String) :
    before ++ "/v1/traces" ≠ before' ++ "/v1/logs" := by
  intro h
  have := congrArg (fun s => s.toList.reverse.take 2) h
  simp at this

theorem append_ne_root (before : String) {ending : String}
    (hlast : ending.toList.getLast? = some 's') : before ++ ending ≠ "/" := by
  intro h
  have := congrArg (fun s => s.toList.getLast?) h
  simp [hlast] at this

theorem tracePath_append (before : String) :
    tracePath (before ++ "/v1/logs") = before ++ "/v1/traces" := by
  have hne : before ++ "/v1/logs" ≠ "/" := append_ne_root before (by decide)
  have hdrop : dropEnding? logsPath (before ++ "/v1/logs") = some before :=
    dropEnding?_eq_some_iff.mpr rfl
  rw [tracePath, if_neg hne, hdrop]
  rfl

theorem tracePath_of_ne {path : String} (hroot : path ≠ "/")
    (hlogs : ∀ before, path ≠ before ++ "/v1/logs") : tracePath path = path := by
  rw [tracePath, if_neg hroot]
  split
  · next before h => exact absurd (dropEnding?_eq_some_iff.mp h) (hlogs before)
  · rfl

/-- The three kinds of paths. -/
theorem tracePath_cases (path : String) :
    (path = "/" ∧ tracePath path = "/v1/traces") ∨
      (∃ before, path = before ++ "/v1/logs" ∧ tracePath path = before ++ "/v1/traces") ∨
      (path ≠ "/" ∧ (∀ before, path ≠ before ++ "/v1/logs") ∧ tracePath path = path) := by
  by_cases hroot : path = "/"
  · exact Or.inl ⟨hroot, hroot ▸ tracePath_root⟩
  · by_cases hlogs : ∃ before, path = before ++ "/v1/logs"
    · obtain ⟨before, rfl⟩ := hlogs
      exact Or.inr (Or.inl ⟨before, rfl, tracePath_append before⟩)
    · have hlogs : ∀ before, path ≠ before ++ "/v1/logs" := fun before h => hlogs ⟨before, h⟩
      exact Or.inr (Or.inr ⟨hroot, hlogs, tracePath_of_ne hroot hlogs⟩)

theorem tracePath_ne_root (path : String) : tracePath path ≠ "/" := by
  rcases tracePath_cases path with ⟨-, h⟩ | ⟨before, -, h⟩ | ⟨hroot, -, h⟩ <;> rw [h]
  · decide
  · exact append_ne_root before (by decide)
  · exact hroot

theorem tracePath_ne_append (path before : String) : tracePath path ≠ before ++ "/v1/logs" := by
  rcases tracePath_cases path with ⟨-, h⟩ | ⟨before', -, h⟩ | ⟨-, hlogs, h⟩ <;> rw [h]
  · exact append_traces_ne "" before
  · exact append_traces_ne before' before
  · exact hlogs before

/-- **The path for spans is not changed again.** -/
theorem tracePath_tracePath (path : String) : tracePath (tracePath path) = tracePath path :=
  tracePath_of_ne (tracePath_ne_root path) (tracePath_ne_append path)

/-! ## The URL for spans -/

/-- The path for spans consists of segments that are left as they are.

**Proof sketch.** If the path of the given URL ends in that of the endpoint for logs, its last two
segments are those of that path. They are replaced, and the segments before them stay. -/
theorem exists_pathChars_tracePath {segments : List String} (hne : segments ≠ [])
    (hall : ∀ s ∈ segments, IsSegment s) :
    ∃ found : List String, found ≠ [] ∧ (∀ s ∈ found, IsSegment s) ∧
      pathChars found = (tracePath (Target.segments segments).text).toList := by
  rcases tracePath_cases (Target.segments segments).text with
    ⟨-, h⟩ | ⟨before, htext, h⟩ | ⟨-, -, h⟩ <;> rw [h]
  · exact ⟨["v1", "traces"], by decide, by decide, by decide⟩
  · have hsolid : ∀ s ∈ segments, Free (isSlash true) s.toList := fun s hs => (hall s hs).solid
    have hchars : pathChars segments =
        (before.toList ++ '/' :: "v1".toList) ++ '/' :: "logs".toList := by
      rw [← toList_text_segments, htext, String.toList_append, List.append_assoc]
      rfl
    obtain ⟨front, rfl, hfront⟩ := exists_segment_of_pathChars hsolid (by decide) hchars
    obtain ⟨front, rfl, hbefore⟩ := exists_segment_of_pathChars
      (fun s hs => hsolid s (List.mem_append_left _ hs)) (by decide) hfront
    refine ⟨front ++ ["v1", "traces"], by simp, fun s hs => ?_, ?_⟩
    · rcases List.mem_append.mp hs with hs | hs
      · exact hall s (by simp [hs])
      · have hnew : ∀ s ∈ ["v1", "traces"], IsSegment s := by decide
        exact hnew s hs
    · rw [pathChars_append, hbefore, String.toList_append]
      rfl
  · exact ⟨segments, hne, hall, (toList_text_segments segments).symm⟩

/-- **The URL for spans** differs from the given one in the path only, and is one that is read. -/
theorem isValid_traceUrl {u : Url} (h : u.IsValid) :
    (traceUrl u).IsValid ∧ (traceUrl u).path = tracePath u.path ∧
      (traceUrl u).scheme = u.scheme ∧ (traceUrl u).authority = u.authority ∧
      (traceUrl u).query = u.query ∧ (traceUrl u).fragment = u.fragment := by
  obtain ⟨segments, htarget, hne, hall⟩ := h.target
  obtain ⟨found, hfound, hsegments, hchars⟩ := exists_pathChars_tracePath hne hall
  have hpath : u.path = (Target.segments segments).text := by rw [Url.path, htarget]
  rw [← hpath] at hchars
  unfold traceUrl
  split
  · next hsame => exact ⟨h, hsame.symm, rfl, rfl, rfl, rfl⟩
  · have hwith : u.withPath (tracePath u.path) = { u with target := .segments found } := by
      rw [Url.withPath, htarget, ← hchars,
        segmentsOf_pathChars h.scheme.isSpecial h.scheme.ne_file hfound hsegments]
    rw [hwith]
    refine ⟨⟨h.scheme, h.authority, ⟨found, rfl, hfound, hsegments⟩, h.query, h.fragment⟩, ?_, rfl,
      rfl, rfl, rfl⟩
    rw [Url.path, ← String.toList_inj, toList_text_segments, hchars]

/-- The URL for spans is its own URL for spans. -/
theorem traceUrl_traceUrl {u : Url} (h : u.IsValid) : traceUrl (traceUrl u) = traceUrl u := by
  obtain ⟨-, hpath, -⟩ := isValid_traceUrl h
  exact if_pos (by rw [hpath, tracePath_tracePath])

/-- **The endpoint for spans** of a URL of the web is written as a text that is read as a URL with
the same scheme, credentials, host, port, query and fragment. Its path is that of the given URL
unless that is empty or ends in the path of the endpoint for logs, which the path of the endpoint
for spans takes the place of. Neither is left, and the endpoint for spans of the text is the text.

A domain name has to be left as it is when it is read again, which is what it takes for the given
URL to be read back from its own text (`Url.IsValid.parse_text_iff`). Addresses are read back in any
case.

**Proof sketch.** The given URL is valid because it has been read. The URL for spans has its host
and segments that are left as they are, so that it is valid and read back as well; its path is not
changed again. -/
theorem endpoint_reads_back {s : String} {u : Url} (hparse : Url.parse s = .ok u)
    (hweb : u.scheme = "http" ∨ u.scheme = "https")
    (hname : ∀ a name, u.authority = some a → a.host = .domain name →
      Domain.ascii? name.toList = some name.toList) :
    ∃ t v, (endpoint s).map Url.text = .ok t ∧ Url.parse t = .ok v ∧
      v.scheme = u.scheme ∧ v.authority = u.authority ∧ v.query = u.query ∧
      v.fragment = u.fragment ∧
      (u.path = "/" → v.path = "/v1/traces") ∧
      (∀ before, u.path = before ++ "/v1/logs" → v.path = before ++ "/v1/traces") ∧
      (u.path ≠ "/" → (∀ before, u.path ≠ before ++ "/v1/logs") → v.path = u.path) ∧
      v.path ≠ "/" ∧ (∀ before, v.path ≠ before ++ "/v1/logs") ∧
      (endpoint t).map Url.text = .ok t := by
  have hvalid := isValid_of_parse hparse hweb
  obtain ⟨htrace, hpath, hscheme, hauthority, hquery, hfragment⟩ := isValid_traceUrl hvalid
  have hback : Url.parse (traceUrl u).text = .ok (traceUrl u) := by
    rw [htrace.parse_text_iff, hauthority]
    exact hname
  have htext : (endpoint s).map Url.text = .ok (traceUrl u).text := by
    rw [endpoint, hparse]
    rfl
  have hagain : (endpoint (traceUrl u).text).map Url.text = .ok (traceUrl u).text := by
    rw [endpoint, hback]
    change Except.ok (traceUrl (traceUrl u)).text = _
    rw [traceUrl_traceUrl hvalid]
  refine ⟨(traceUrl u).text, traceUrl u, htext, hback, hscheme, hauthority, hquery, hfragment, ?_⟩
  rw [hpath]
  refine ⟨?_, ?_, tracePath_of_ne, tracePath_ne_root u.path, tracePath_ne_append u.path, hagain⟩
  · intro hroot
    rw [hroot, tracePath_root]
  · intro before hlogs
    rw [hlogs, tracePath_append]

/-- The URL of an endpoint for logs, with all parts that a URL can have. -/
def logsEndpoint : Url where
  scheme := "http"
  authority := some ⟨"User", some "p%40w", .domain "collector", some 4318⟩
  target := .segments ["v1", "logs"]
  query := some "x=1"
  fragment := some "top"

theorem endpoint_reads_back_logsEndpoint :
    Url.parse "http://User:p@w@Collector:4318/a/../v1/logs?x=1#top" = .ok logsEndpoint ∧
      ∃ t v, (endpoint "http://User:p@w@Collector:4318/a/../v1/logs?x=1#top").map Url.text = .ok t ∧
        Url.parse t = .ok v ∧ v.authority = logsEndpoint.authority ∧ v.path = "/v1/traces" ∧
        v.query = some "x=1" ∧ v.fragment = some "top" ∧ (endpoint t).map Url.text = .ok t := by
  have hparse : Url.parse "http://User:p@w@Collector:4318/a/../v1/logs?x=1#top" =
      .ok logsEndpoint := by decide +kernel
  have hname : ∀ a name, logsEndpoint.authority = some a → a.host = .domain name →
      Domain.ascii? name.toList = some name.toList := by
    rintro a name ⟨⟩ ⟨⟩
    decide +kernel
  obtain ⟨t, v, ht, hv, -, hauthority, hquery, hfragment, -, hlogs, -, -, -, hagain⟩ :=
    endpoint_reads_back hparse (Or.inl rfl) hname
  exact ⟨hparse, t, v, ht, hv, hauthority, hlogs "" (by decide), hquery, hfragment, hagain⟩

end NullLint.Telemetry
