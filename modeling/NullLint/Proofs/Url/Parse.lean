import NullLint.Proofs.Url.Authority
import NullLint.Proofs.Url.Path

set_option autoImplicit false
set_option relaxedAutoImplicit false

/-!
# URLs of the web are read back

What is written for a URL of the web is read as the same URL, if its host is read as the same host.
Every part of the URL is written in such a way that it ends where the next part starts.

## Main definitions

* `Url.IsWeb` — the schemes of the web.
* `Url.IsValid` — the URLs with these schemes that are read.

## Main results

* `Url.isValid_of_parse` — what is read is valid.
* `Url.IsValid.parse_text` — what is read of the text of a valid URL.
* `Url.IsValid.parse_text_iff` — when a URL is read back.
-/

namespace NullLint.Url

/-- The schemes of the web. -/
def IsWeb (scheme : String) : Prop :=
  scheme = "http" ∨ scheme = "https"

theorem IsWeb.isSpecial {scheme : String} (h : IsWeb scheme) : isSpecial scheme = true := by
  rcases h with rfl | rfl <;> decide

theorem IsWeb.ne_file {scheme : String} (h : IsWeb scheme) : (scheme == "file") = false := by
  rcases h with rfl | rfl <;> decide

/-- The URLs of the web that are read. -/
structure IsValid (u : Url) : Prop where
  scheme : IsWeb u.scheme
  authority : ∃ a, u.authority = some a ∧ a.IsValid u.scheme
  target : ∃ segments, u.target = .segments segments ∧ segments ≠ [] ∧
    ∀ s ∈ segments, IsSegment s
  query : ∀ q, u.query = some q → Free (querySet true) q.toList
  fragment : ∀ f, u.fragment = some f → Free fragmentSet f.toList

/-! ## What follows a path -/

section Suffix

variable {special : Bool}

variable (special) in
/-- The query and the fragment are encoded. -/
theorem free_splitSuffix (cs : List Char) :
    (∀ q, (splitSuffix special cs).2.1 = some q → Free (querySet special) q.toList) ∧
      ∀ f, (splitSuffix special cs).2.2 = some f → Free fragmentSet f.toList := by
  have hfree : ∀ {set : Char → Bool} (ds : List Char), LeavesCodes set →
      Free set (String.ofList (encode set ds)).toList := by
    intro set ds hset
    rw [String.toList_ofList]
    exact free_encode hset fun _ _ => id
  unfold splitSuffix
  dsimp only
  split
  · constructor
    · rintro q ⟨⟩
      exact hfree _ (leavesCodes_querySet special)
    · intro f hf
      dsimp only at hf
      split at hf
      · cases hf
        exact hfree _ leavesCodes_fragmentSet
      · cases hf
  · refine ⟨nofun, fun f hf => ?_⟩
    dsimp only at hf
    split at hf
    · cases hf
      exact hfree _ leavesCodes_fragmentSet
    · cases hf

/-- The query and the fragment as they are written. -/
def suffixChars (query fragment : Option String) : List Char :=
  (query.map fun q => '?' :: q.toList).getD [] ++ (fragment.map fun f => '#' :: f.toList).getD []

/-- What is written in a query or a fragment is left as it is. -/
theorem encode_withoutGaps_of_free {set : Char → Bool} {s : String} (h : Free set s.toList)
    (hmargin : ∀ c, set c = false → isMargin c = false) :
    String.ofList (encode set (withoutGaps s.toList)) = s := by
  rw [withoutGaps_of_free (h.mono hmargin), encode_of_free h, String.ofList_toList]

/-- **The query and the fragment are read back.** -/
theorem splitSuffix_append {path : List Char} {query fragment : Option String}
    (hpath : Free pathSet path) (hquery : ∀ q, query = some q → Free (querySet special) q.toList)
    (hfragment : ∀ f, fragment = some f → Free fragmentSet f.toList) :
    splitSuffix special (path ++ suffixChars query fragment) = (path, query, fragment) := by
  have hset : (fun c : Char => c != '?' && c != '#') = fun c => !(c == '?' || c == '#') := by
    funext c
    rw [Bool.not_or]
    rfl
  have hbefore : (path ++ suffixChars query fragment).takeWhile (fun c => c != '?' && c != '#') =
      path := by
    rw [hset]
    refine takeWhile_of_free (hpath.mono fun c hc => ?_) ?_
    · rw [Bool.or_eq_false_iff, beq_eq_false_iff_ne, beq_eq_false_iff_ne]
      exact ⟨ne_of_set hc (by decide), ne_of_set hc (by decide)⟩
    · cases query <;> cases fragment <;> simp [suffixChars]
  unfold splitSuffix
  dsimp only
  rw [hbefore, List.drop_left]
  have hread : ∀ f, fragment = some f →
      String.ofList (encode fragmentSet (withoutGaps f.toList)) = f := fun f hf =>
    encode_withoutGaps_of_free (hfragment f hf) fun _ => isMargin_of_fragmentSet
  cases query with
  | none =>
    cases fragment with
    | none => rfl
    | some f =>
      change (path, none, some (String.ofList (encode fragmentSet (withoutGaps f.toList)))) = _
      rw [hread f rfl]
  | some q =>
    have hq := hquery q rfl
    have hquery : ∀ ds : List Char, (∀ c ∈ ds.head?, c = '#') →
        (q.toList ++ ds).takeWhile (· != '#') = q.toList := by
      intro ds hds
      refine takeWhile_of_free (hq.mono fun c hc => ?_) fun c hc => beq_iff_eq.mpr (hds c hc)
      exact beq_eq_false_iff_ne.mpr (ne_of_set hc (by cases special <;> decide))
    rw [suffixChars, Option.map_some, Option.getD_some, List.cons_append]
    change (path, some (String.ofList (encode (querySet special) (withoutGaps
      ((q.toList ++ _).takeWhile (· != '#'))))), _) = _
    rw [hquery, List.drop_left, encode_withoutGaps_of_free hq fun _ => isMargin_of_querySet]
    · cases fragment with
      | none => rfl
      | some f =>
        change (path, some q, some (String.ofList (encode fragmentSet (withoutGaps f.toList)))) = _
        rw [hread f rfl]
    · cases fragment with
      | none => exact fun c hc => nomatch hc
      | some f =>
        rintro c ⟨⟩
        rfl

end Suffix

/-! ## What is read is valid -/

theorem scheme_of_fileUrl {cs : List Char} {u : Url} (h : fileUrl cs = .ok u) :
    u.scheme = "file" := by
  have hhost : ∀ cs, fileWithHost cs = .ok u → u.scheme = "file" := by
    intro cs h
    unfold fileWithHost at h
    dsimp only at h
    split at h
    · cases h
      rfl
    · split at h
      · cases h
        rfl
      · split at h
        · cases h
        · split at h <;> cases h <;> rfl
  unfold fileUrl at h
  split at h
  · cases h
    rfl
  · split at h
    · cases h
      rfl
    · exact hhost _ h

theorem scheme_of_withAuthority {scheme : String} {cs : List Char} {u : Url}
    (h : withAuthority scheme cs = .ok u) : u.scheme = scheme := by
  unfold withAuthority at h
  split at h
  · cases h
  · cases h
    rfl

theorem scheme_withoutAuthority (scheme : String) (cs : List Char) :
    (withoutAuthority scheme cs).scheme = scheme := by
  unfold withoutAuthority
  split
  split <;> rfl

/-- What is read of a URL with a host. -/
theorem isValid_of_withAuthority {scheme : String} (hweb : IsWeb scheme) {cs : List Char} {u : Url}
    (h : withAuthority scheme cs = .ok u) : u.IsValid := by
  unfold withAuthority at h
  rw [hweb.isSpecial] at h
  split at h
  · cases h
  · next a rest ha =>
    cases h
    obtain ⟨hquery, hfragment⟩ := free_splitSuffix true rest
    refine ⟨hweb, ⟨a, rfl, Authority.isValid_of_authorityOf hweb.isSpecial ha⟩, ⟨_, rfl, ?_⟩,
      hquery, hfragment⟩
    rw [Bool.not_true, Bool.and_false, if_neg Bool.false_ne_true]
    exact ⟨segmentsOf_ne_nil hweb.isSpecial hweb.ne_file _,
      fun s hs => isSegment_of_mem_segmentsOf hweb.isSpecial hweb.ne_file hs⟩

/-- **What is read as a URL of the web is valid.** -/
theorem isValid_of_parse {s : String} {u : Url} (h : parse s = .ok u) (hweb : IsWeb u.scheme) :
    u.IsValid := by
  unfold parse at h
  dsimp only at h
  split at h
  · cases h
  · next scheme rest hscheme =>
    split at h
    · have hfile := hweb.ne_file
      rw [scheme_of_fileUrl h] at hfile
      exact absurd hfile (by decide)
    · split at h
      · rw [scheme_of_withAuthority h] at hweb
        exact isValid_of_withAuthority hweb h
      · next hspecial =>
        have hscheme : u.scheme = scheme := by
          split at h
          · exact scheme_of_withAuthority h
          · cases h
            exact scheme_withoutAuthority scheme rest
        rw [hscheme] at hweb
        exact absurd hweb.isSpecial hspecial

/-! ## What is written is read -/

/-- A text without margins is not trimmed. -/
theorem trimmed_of_free {s : String} (h : Free isMargin s.toList) : trimmed s = s.toList := by
  have hdrop : ∀ {cs : List Char}, Free isMargin cs → cs.dropWhile isMargin = cs := by
    intro cs hcs
    cases cs with
    | nil => rfl
    | cons c cs => rw [List.dropWhile_cons_of_neg (by simp [(free_cons.mp hcs).1])]
  have hreverse : Free isMargin s.toList.reverse := fun c hc => h c (List.mem_reverse.mp hc)
  rw [trimmed, hdrop h, hdrop hreverse, List.reverse_reverse]

theorem splitScheme_of_isWeb {scheme : String} (h : IsWeb scheme) (cs : List Char) :
    splitScheme (scheme.toList ++ ':' :: cs) = some (scheme, cs) := by
  rcases h with rfl | rfl <;> rfl

/-- A URL that leads to a host, as it is written. -/
theorem toList_text {u : Url} {a : Authority} {segments : List String}
    (ha : u.authority = some a) (hsegments : u.target = .segments segments) :
    u.text.toList = u.scheme.toList ++ ':' :: '/' :: '/' ::
      (a.text.toList ++ (pathChars segments ++ suffixChars u.query u.fragment)) := by
  have hpath : u.path.toList = pathChars segments := by
    rw [path, hsegments, toList_text_segments]
  have hbefore : u.beforePath = "//" ++ a.text := by
    rw [beforePath, ha]
  have hquery : ((u.query.map fun q => "?" ++ q).getD "").toList =
      (u.query.map fun q => '?' :: q.toList).getD [] := by
    cases u.query <;> simp
  have hfragment : ((u.fragment.map fun f => "#" ++ f).getD "").toList =
      (u.fragment.map fun f => '#' :: f.toList).getD [] := by
    cases u.fragment <;> simp
  simp [text, pathAndQuery, hpath, hbefore, hquery, hfragment, suffixChars]

namespace IsValid

variable {u : Url} {a : Authority} {segments : List String}

theorem free_pathChars (h : ∀ s ∈ segments, IsSegment s) : Free pathSet (pathChars segments) := by
  intro c hc
  obtain ⟨s, hs, hc⟩ := List.mem_flatMap.mp hc
  rcases List.mem_cons.mp hc with rfl | hc
  · decide
  · exact (h s hs).written c hc

/-- The text of a URL has no margins. -/
theorem free_text (h : u.IsValid) : Free isMargin u.text.toList := by
  obtain ⟨a, ha, hvalid⟩ := h.authority
  obtain ⟨segments, hsegments, -, hall⟩ := h.target
  have hscheme : Free isMargin u.scheme.toList := by
    rcases h.scheme with hs | hs <;> rw [hs] <;> decide
  have hquery : Free isMargin ((u.query.map fun q => '?' :: q.toList).getD []) := by
    cases hq : u.query with
    | none => exact free_nil
    | some q => exact free_cons.mpr ⟨by decide, (h.query q hq).mono fun _ => isMargin_of_querySet⟩
  have hfragment : Free isMargin ((u.fragment.map fun f => '#' :: f.toList).getD []) := by
    cases hf : u.fragment with
    | none => exact free_nil
    | some f =>
      exact free_cons.mpr ⟨by decide, (h.fragment f hf).mono fun _ => isMargin_of_fragmentSet⟩
  have hauthority : Free isMargin a.text.toList :=
    hvalid.free_text.mono fun c hc => (Bool.or_eq_false_iff.mp hc).2
  have hpath : Free isMargin (pathChars segments) :=
    (free_pathChars hall).mono fun _ => isMargin_of_pathSet
  rw [toList_text ha hsegments]
  simp only [free_append, free_cons, suffixChars]
  exact ⟨hscheme, by decide, by decide, by decide, hauthority, hpath, hquery, hfragment⟩

/-- **What is written after the scheme is read back**, as far as the host is. -/
theorem withAuthority_text (h : u.IsValid) (ha : u.authority = some a)
    (hsegments : u.target = .segments segments) :
    withAuthority u.scheme
        (a.text.toList ++ (pathChars segments ++ suffixChars u.query u.fragment)) =
      ((parseHost a.host.text.toList).mapError Fault.host).map fun host =>
        { u with authority := some { a with host } } := by
  obtain ⟨a', ha', hvalid⟩ := h.authority
  cases ha'.symm.trans ha
  obtain ⟨segments', hsegments', hne, hall⟩ := h.target
  cases hsegments'.symm.trans hsegments
  have hspecial := h.scheme.isSpecial
  have hafter : ∀ c ∈ (pathChars segments ++ suffixChars u.query u.fragment).head?,
      endsAuthority true c = true := by
    obtain ⟨s, ss, rfl⟩ := List.exists_cons_of_ne_nil hne
    rw [pathChars_cons]
    rintro c ⟨⟩
    rfl
  have hsuffix := splitSuffix_append (free_pathChars hall) h.query h.fragment
  unfold withAuthority
  rw [hvalid.authorityOf_text hspecial hafter]
  cases parseHost a.host.text.toList with
  | error fault => rfl
  | ok host =>
    dsimp only [Except.mapError, Except.map]
    rw [hspecial, hsuffix]
    dsimp only
    rw [Bool.not_true, Bool.and_false, if_neg Bool.false_ne_true,
      segmentsOf_pathChars hspecial h.scheme.ne_file hne hall, ← hsegments]

/-- **A URL of the web is read back**, as far as its host is.

**Proof sketch.** Nothing is dropped at the ends of the text or within it. The two separators after
the scheme are followed by what leads to the host, which starts with something else. -/
theorem parse_text (h : u.IsValid) (ha : u.authority = some a) :
    parse u.text =
      ((parseHost a.host.text.toList).mapError Fault.host).map fun host =>
        { u with authority := some { a with host } } := by
  obtain ⟨a', ha', hvalid⟩ := h.authority
  cases ha'.symm.trans ha
  obtain ⟨segments, hsegments, -, -⟩ := h.target
  have hfile : u.scheme ≠ "file" := beq_eq_false_iff_ne.mp h.scheme.ne_file
  have hdrop : ∀ ds : List Char,
      ('/' :: '/' :: (a.text.toList ++ ds)).dropWhile (isSlash true) = a.text.toList ++ ds := by
    intro ds
    obtain ⟨c, cs, hcs⟩ := List.exists_cons_of_ne_nil hvalid.toList_text_ne_nil
    have hfree : isSlash true c = false := by
      have hc : (endsAuthority true c || isMargin c) = false :=
        hvalid.free_text c (hcs ▸ List.mem_cons_self)
      rw [endsAuthority, Bool.or_eq_false_iff, Bool.or_eq_false_iff, Bool.or_eq_false_iff] at hc
      exact hc.1.1.1
    rw [List.dropWhile_cons_of_pos (by decide), List.dropWhile_cons_of_pos (by decide), hcs,
      List.cons_append, List.dropWhile_cons_of_neg (by simp [hfree])]
  unfold parse
  dsimp only
  rw [trimmed_of_free h.free_text, withoutGaps_of_free h.free_text, toList_text ha hsegments,
    splitScheme_of_isWeb h.scheme]
  dsimp only
  rw [if_neg hfile, if_pos h.scheme.isSpecial, hdrop, h.withAuthority_text ha hsegments]

/-- **A URL of the web is read back** if it leads to an address, or to a domain name that is left as
it is. -/
theorem parse_text_iff (h : u.IsValid) :
    parse u.text = .ok u ↔ ∀ a name, u.authority = some a → a.host = .domain name →
      Domain.ascii? name.toList = some name.toList := by
  obtain ⟨a, ha, hvalid⟩ := h.authority
  have hsame : ∀ host, { u with authority := some { a with host } } = u ↔ host = a.host := by
    intro host
    constructor
    · intro heq
      have hauthority := congrArg Url.authority heq
      rw [ha] at hauthority
      exact congrArg Authority.host (Option.some.inj hauthority)
    · rintro rfl
      rw [← ha]
  rw [h.parse_text ha, map_eq_ok_iff]
  simp only [mapError_eq_ok_iff, hsame, exists_eq_right, hvalid.host.parseHost_text_iff]
  constructor
  · intro hread a' name ha' hname
    cases ha'.symm.trans ha
    exact hread name hname
  · exact fun hread name hname => hread a name ha hname

end IsValid

end NullLint.Url
