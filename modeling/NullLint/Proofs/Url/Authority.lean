import NullLint.Proofs.Text.Cut
import NullLint.Proofs.Url.Host

set_option autoImplicit false
set_option relaxedAutoImplicit false

/-!
# Credentials, hosts and ports as they are written

What is written before the path of a URL is cut at its last at-sign, at the colon of the
credentials and at the colon after the host. The credentials are encoded, so that they hold none of
these signs, and the host holds none outside of its brackets. Each part is therefore read back.

## Main definitions

* `Url.Authority.IsValid` — what is read before a path.
* `Url.Authority.credentialChars`, `Url.Authority.portChars` — the parts of it as they are written.

## Main results

* `Url.Authority.isValid_of_authorityOf` — what is read is valid.
* `Url.Authority.IsValid.authorityOf_text` — what is read of the text of something valid.
-/

namespace NullLint.Url

/-- A host, its port and the credentials for it as they are read in a URL of a scheme. -/
structure Authority.IsValid (scheme : String) (a : Authority) : Prop where
  username : Free userinfoSet a.username.toList
  password : ∀ p, a.password = some p → p.toList ≠ [] ∧ Free userinfoSet p.toList
  host : a.host.IsValid
  port : ∀ n, a.port = some n → n ≤ 65535 ∧ defaultPort? scheme ≠ some n

/-! ## What is read -/

theorem isValid_credentialsOf (cs : List Char) :
    Free userinfoSet (credentialsOf cs).1.toList ∧
      ∀ p, (credentialsOf cs).2 = some p → p.toList ≠ [] ∧ Free userinfoSet p.toList := by
  have hfree : ∀ ds, Free userinfoSet (String.ofList (encode userinfoSet ds)).toList := by
    intro ds
    rw [String.toList_ofList]
    exact free_encode leavesCodes_userinfoSet fun _ _ => id
  unfold credentialsOf
  split
  · exact ⟨hfree _, fun p hp => nomatch hp⟩
  · exact ⟨hfree _, fun p hp => nomatch hp⟩
  · next password hne hcs =>
    refine ⟨hfree _, ?_⟩
    rintro p ⟨⟩
    refine ⟨?_, hfree _⟩
    rw [String.toList_ofList]
    refine encode_ne_nil ?_
    rintro rfl
    exact hne rfl

theorem port_of_portOf {scheme : String} {cs rest : List Char} {port : Option Nat}
    (h : portOf scheme cs = .ok (port, rest)) {n : Nat} (hn : port = some n) :
    n ≤ 65535 ∧ defaultPort? scheme ≠ some n := by
  unfold portOf at h
  dsimp only at h
  split at h
  · cases h
  · split at h
    · cases h
    · split at h
      · cases h
      · next hle _ =>
        cases h
        split at hn
        · cases hn
        · next hport =>
          cases hn
          simp at hport
          exact ⟨Nat.le_of_not_lt hle, hport.2⟩

theorem port_of_portAfterHost {scheme : String} {host : Host} {cs rest : List Char}
    {port : Option Nat} (h : portAfterHost scheme host cs = .ok (port, rest)) {n : Nat}
    (hn : port = some n) : n ≤ 65535 ∧ defaultPort? scheme ≠ some n := by
  unfold portAfterHost at h
  split at h
  · split at h
    · cases h
    · exact port_of_portOf h hn
  · cases h
    cases hn

/-- **What is read before a path is valid.** -/
theorem Authority.isValid_of_authorityOf {scheme : String} (hspecial : isSpecial scheme = true)
    {cs rest : List Char} {a : Authority} (h : authorityOf scheme cs = .ok (a, rest)) :
    a.IsValid scheme := by
  unfold authorityOf at h
  rw [hspecial] at h
  dsimp only at h
  split at h
  · cases h
  · rw [if_pos rfl] at h
    split at h
    · cases h
    · next host hhost =>
      split at h
      · cases h
      · next port rest' hport =>
        split at h
        · cases h
        · cases h
          obtain ⟨husername, hpassword⟩ := isValid_credentialsOf _
          exact ⟨husername, hpassword, Host.isValid_of_parseHost hhost,
            fun n hn => port_of_portAfterHost hport hn⟩

/-! ## What is written is read -/

/-- What can be written in a user name can be written before a host. -/
theorem isOutside_of_userinfoSet {c : Char} (h : userinfoSet c = false) : isOutside c = false :=
  isOutside_of_set (by decide)
    (fun c hlt => by simp [userinfoSet, pathSet, fragmentSet, controlSet, hlt]) h

namespace Authority

/-- The name and the password as they are written. -/
def credentialChars (a : Authority) : List Char :=
  a.username.toList ++ (a.password.map fun p => ':' :: p.toList).getD []

/-- The port as it is written. -/
def portChars (a : Authority) : List Char :=
  (a.port.map fun n => ':' :: Nat.toDigits 10 n).getD []

theorem toList_text (a : Authority) :
    a.text.toList =
      (if a.credentialChars = [] then [] else a.credentialChars ++ ['@']) ++
        (a.host.text.toList ++ a.portChars) := by
  obtain ⟨username, password, host, port⟩ := a
  have hcredentials : (Authority.mk username password host port).credentials.toList =
      if (Authority.mk username password host port).credentialChars = [] then []
      else (Authority.mk username password host port).credentialChars ++ ['@'] := by
    cases password with
    | none =>
      by_cases hname : username = ""
      · simp [credentials, credentialChars, hname]
      · simp [credentials, credentialChars, hname]
    | some p => simp [credentials, credentialChars]
  have hport : ((port.map fun p => ":" ++ toString p).getD "").toList =
      (Authority.mk username password host port).portChars := by
    cases port <;> simp [portChars]
  rw [text, String.toList_append, String.toList_append, hcredentials, hport, List.append_assoc]

end Authority

/-- The credentials end at the last at-sign. -/
theorem splitCredentials_append {cs host : List Char} (hhost : '@' ∉ host) :
    splitCredentials ((if cs = [] then [] else cs ++ ['@']) ++ host) =
      (if cs = [] then none else some cs, host) := by
  by_cases hcs : cs = []
  · rw [if_pos hcs, if_pos hcs, List.nil_append, splitCredentials,
      Text.afterLastChars_eq_iff.mpr ⟨hhost, Or.inl rfl⟩]
    simp
  · have hlast : Text.afterLastChars '@' (cs ++ '@' :: host) = host :=
      Text.afterLastChars_eq_iff.mpr ⟨hhost, Or.inr ⟨cs, rfl⟩⟩
    have hlength : (cs ++ '@' :: host).length = cs.length + host.length + 1 := by simp; omega
    have hbefore : cs.length + host.length + 1 - host.length - 1 = cs.length := by omega
    rw [if_neg hcs, if_neg hcs, List.append_assoc, List.singleton_append, splitCredentials, hlast,
      hlength, if_pos (by omega), hbefore, List.take_left]

namespace Authority.IsValid

variable {scheme : String} {a : Authority}

/-- The name and the password are read back. -/
theorem credentialsOf_credentialChars (h : a.IsValid scheme) :
    credentialsOf a.credentialChars = (a.username, a.password) := by
  have hname : Free (· == ':') a.username.toList := h.username.mono fun c hc =>
    beq_eq_false_iff_ne.mpr (ne_of_set hc (by decide))
  have hrest : ∀ c ∈ ((a.password.map fun p => ':' :: p.toList).getD []).head?,
      (c == ':') = true := by
    cases a.password with
    | none => exact fun c hc => nomatch hc
    | some p =>
      rintro c ⟨⟩
      rfl
  have hbefore : a.credentialChars.takeWhile (· != ':') = a.username.toList :=
    takeWhile_of_free hname hrest
  have hafter : a.credentialChars.dropWhile (· != ':') =
      (a.password.map fun p => ':' :: p.toList).getD [] := dropWhile_of_free hname hrest
  rw [credentialsOf, hbefore, hafter, encode_of_free h.username, String.ofList_toList]
  cases hpassword : a.password with
  | none => rfl
  | some p =>
    obtain ⟨hne, hfree⟩ := h.password p hpassword
    obtain ⟨c, cs, hp⟩ := List.exists_cons_of_ne_nil hne
    rw [Option.map_some, Option.getD_some, hp]
    dsimp only
    rw [← hp, encode_of_free hfree, String.ofList_toList]

/-- The port is read back. -/
theorem portAfterHost_portChars (h : a.IsValid scheme) {host : Host} (hhost : host ≠ .domain "") :
    portAfterHost scheme host a.portChars = .ok (a.port, []) := by
  unfold portChars
  cases hport : a.port with
  | none => rfl
  | some n =>
    obtain ⟨hle, hdefault⟩ := h.port n hport
    have hdigits : (Nat.toDigits 10 n).takeWhile Char.isDigit = Nat.toDigits 10 n :=
      List.takeWhile_eq_self_iff.mpr fun c hc =>
        Nat.isDigit_of_mem_toDigits (by decide) (by decide) hc
    change (if host = .domain "" then _ else portOf scheme (Nat.toDigits 10 n)) = _
    rw [if_neg hhost, portOf, hdigits, digitsValue?_toDigits (by decide) (by decide)]
    simp [Nat.not_lt.mpr hle, hdefault]

/-- The credentials hold no character at which a host ends. -/
theorem free_credentialChars (h : a.IsValid scheme) : Free isOutside a.credentialChars := by
  refine free_append.mpr ⟨h.username.mono fun _ => isOutside_of_userinfoSet, ?_⟩
  cases hpassword : a.password with
  | none => exact free_nil
  | some p =>
    have hfree := (h.password p hpassword).2.mono fun _ => isOutside_of_userinfoSet
    exact free_cons.mpr ⟨by decide, hfree⟩

theorem head_portChars (a : Authority) : ∀ c ∈ a.portChars.head?, c = ':' := by
  unfold portChars
  cases a.port with
  | none => exact fun c hc => nomatch hc
  | some n =>
    rintro c ⟨⟩
    rfl

/-- The port holds no character at which a host ends. -/
theorem free_portChars (a : Authority) : Free isOutside a.portChars := by
  unfold portChars
  cases a.port with
  | none => exact free_nil
  | some n =>
    refine free_cons.mpr ⟨by decide, fun c hc => isOutside_of_hexValue? ?_⟩
    have hdigits := digitsValue?_toDigits (by decide) (by decide : 10 ≤ 16) n
    rw [isSome_hexValue?_of_digitsValue? hdigits c hc]
    rfl

/-- The part before a path ends before the path. -/
theorem free_text (h : a.IsValid scheme) :
    Free (fun c => endsAuthority true c || isMargin c) a.text.toList := by
  have hmono : ∀ c, isOutside c = false → (endsAuthority true c || isMargin c) = false := by
    intro c hc
    rw [isOutside, Bool.or_eq_false_iff, Bool.or_eq_false_iff] at hc
    rw [hc.1.1, hc.2]
    rfl
  rw [toList_text]
  refine free_append.mpr ⟨?_, free_append.mpr ⟨h.host.free_text.mono hmono,
    (free_portChars a).mono hmono⟩⟩
  split
  · exact free_nil
  · exact free_append.mpr ⟨h.free_credentialChars.mono hmono, by decide⟩

theorem toList_text_ne_nil (h : a.IsValid scheme) : a.text.toList ≠ [] := by
  rw [toList_text]
  refine List.append_ne_nil_of_right_ne_nil _ ?_
  exact List.append_ne_nil_of_left_ne_nil h.host.toList_text_ne_nil _

/-- **What is written before a path is read back**, as far as the host is. -/
theorem authorityOf_text (h : a.IsValid scheme) (hspecial : isSpecial scheme = true)
    {after : List Char} (hafter : ∀ c ∈ after.head?, endsAuthority true c = true) :
    authorityOf scheme (a.text.toList ++ after) =
      ((parseHost a.host.text.toList).mapError Fault.host).map fun host =>
        ({ a with host }, after) := by
  have hpart : (a.text.toList ++ after).takeWhile (fun c => !endsAuthority true c) =
      a.text.toList :=
    takeWhile_of_free (h.free_text.mono fun c hc => (Bool.or_eq_false_iff.mp hc).1) hafter
  have hhost : Free isOutside (a.host.text.toList ++ a.portChars) :=
    free_append.mpr ⟨h.host.free_text, free_portChars a⟩
  have hcredentials : (if a.credentialChars = [] then none else some a.credentialChars).getD [] =
      a.credentialChars := by
    split
    · next hempty => exact hempty.symm
    · rfl
  unfold authorityOf
  rw [hspecial]
  dsimp only
  rw [hpart, List.drop_left, toList_text, splitCredentials_append (hhost.notMem (by decide))]
  dsimp only
  rw [if_neg, if_pos rfl, h.host.takeHost_text (head_portChars a), List.drop_left]
  · cases hread : parseHost a.host.text.toList with
    | error fault => rfl
    | ok host =>
      have hne := (Host.isValid_of_parseHost hread).ne_domain_empty
      dsimp only [Except.mapError, Except.map]
      rw [h.portAfterHost_portChars hne]
      dsimp only
      rw [hcredentials, h.credentialsOf_credentialChars, if_neg (by simp [hne])]
      rfl
  · split
    · simp
    · next hempty => simp [hempty]

end Authority.IsValid

end NullLint.Url
