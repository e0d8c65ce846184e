import BearerGate.Proofs.Net.Url.Authority

/-!
# Addresses are read as they are written

An address without query and fragment that has been written is read part by part as it was: the
scheme up to its colon, the user up to the at-sign, the host up to the colon in front of the port,
and what is left as the path. Each of the four forms in which addresses are kept has a lemma of its
own (`Url.parse_hosted`, `Url.parse_ownFile` and `Url.parse_file`, `Url.parse_rooted` and
`Url.parse_dotted`, `Url.parse_taken`).
-/

namespace BearerGate.Url

open UrlPath (chars dropSlash isSlash)

/-! ## Schemes -/

/-- A text without control characters, and without blanks at its ends, is not cleaned. -/
theorem cleaned_eq_self {text : List Char} (plain : ∀ c ∈ text, Percent.isControl c = false)
    (first : text.head? ≠ some ' ') (last : text.getLast? ≠ some ' ') : cleaned text = text := by
  have solid : ∀ c ∈ text, c ≠ ' ' → ¬ decide (c.toNat ≤ 0x20) = true := by
    intro c found other small
    have wide := plain c found
    have value : c.toNat ≠ 0x20 := fun same => other (Char.toNat_inj.mp same)
    simp [Percent.isControl] at wide small
    omega
  have front : text.dropWhile (fun c => decide (c.toNat ≤ 0x20)) = text := by
    cases text with
    | nil => rfl
    | cons c text =>
      exact List.dropWhile_cons_of_neg
        (solid c List.mem_cons_self fun blank => first (congrArg some blank))
  have back : text.reverse.dropWhile (fun c => decide (c.toNat ≤ 0x20)) = text.reverse := by
    cases turned : text.reverse with
    | nil => rfl
    | cons c rest =>
      have member : c ∈ text := List.mem_reverse.mp (turned ▸ List.mem_cons_self)
      have ends : text.getLast? = some c := by
        rw [← List.head?_reverse, turned]
        rfl
      exact List.dropWhile_cons_of_neg (solid c member fun blank => last (blank ▸ ends))
  have kept : ∀ c ∈ text, (c ≠ '\t' && c ≠ '\n' && c ≠ '\r') = true := by
    intro c found
    have wide := plain c found
    rw [Bool.and_eq_true, Bool.and_eq_true, decide_eq_true_eq, decide_eq_true_eq,
      decide_eq_true_eq]
    refine ⟨⟨?_, ?_⟩, ?_⟩ <;> rintro rfl <;> cases wide
  unfold cleaned
  dsimp only
  rw [front, back, List.reverse_reverse, List.filter_eq_self.mpr kept]

theorem plain_of_isSchemeChar {c : Char} (good : isSchemeChar c = true) :
    Text.lowerAscii c = c ∧ Percent.isControl c = false ∧ c ≠ ':' ∧ c ≠ ' ' := by
  have each : ∀ n < 128, isSchemeChar (Char.ofNat n) = true →
      Text.lowerAscii (Char.ofNat n) = Char.ofNat n ∧ Percent.isControl (Char.ofNat n) = false ∧
        Char.ofNat n ≠ ':' ∧ Char.ofNat n ≠ ' ' := by
    decide +kernel
  have small : c.toNat < 128 := by
    have letter : 'z'.toNat = 122 := rfl
    have digit : '9'.toNat = 57 := rfl
    unfold isSchemeChar at good
    simp only [Bool.or_eq_true, Bool.and_eq_true, decide_eq_true_eq] at good
    rcases good with (((⟨-, high⟩ | ⟨-, high⟩) | rfl) | rfl) | rfl
    · have bound : c.toNat ≤ 'z'.toNat := high
      omega
    · have bound : c.toNat ≤ '9'.toNat := high
      omega
    · decide
    · decide
    · decide
  have here := each c.toNat small
  rw [Char.ofNat_toNat] at here
  exact here good

theorem scheme?_append {scheme : String} (lower : IsScheme scheme) (rest : List Char) :
    scheme? (scheme.toList ++ ':' :: rest) = some (scheme, rest) := by
  have free : ':' ∉ scheme.toList := fun found =>
    (plain_of_isSchemeChar (lower.chars _ found)).2.2.1 rfl
  have same : scheme.toList.map Text.lowerAscii = scheme.toList :=
    (List.map_congr_left fun c found => (plain_of_isSchemeChar (lower.chars c found)).1).trans
      (List.map_id' _)
  obtain ⟨c, head, low, high⟩ := lower.begins
  obtain ⟨others, split⟩ := List.head?_eq_some_iff.mp head
  have chars : others.all isSchemeChar = true := by
    rw [List.all_eq_true]
    exact fun d found => lower.chars d (split ▸ List.mem_cons_of_mem c found)
  unfold scheme?
  rw [Text.splitOnce_eq_some_iff.mpr ⟨rfl, free⟩, Option.bind_eq_bind, Option.bind_some]
  dsimp only
  rw [same, split]
  dsimp only
  rw [decide_eq_true low, decide_eq_true high, chars, ← split, String.ofList_toList]
  rfl

/-- A text that begins with a scheme is read by it. -/
theorem parse_of_scheme {scheme text : String} {rest : List Char} (lower : IsScheme scheme)
    (written : text.toList = scheme.toList ++ ':' :: rest)
    (plain : ∀ c ∈ rest, Percent.isControl c = false) (last : text.toList.getLast? ≠ some ' ') :
    parse text =
      if scheme = "file" then ofFile rest
      else if isSpecial scheme then withAuthority scheme (rest.dropWhile (isSlash true))
      else
        match Text.stripLead ['/', '/'] rest with
        | some rest => withAuthority scheme rest
        | none => .ok (withoutAuthority scheme rest) := by
  have clean : cleaned text.toList = text.toList := by
    refine cleaned_eq_self ?_ ?_ last
    · rw [written]
      intro c found
      rcases List.mem_append.mp found with early | late
      · exact (plain_of_isSchemeChar (lower.chars c early)).2.1
      rcases List.mem_cons.mp late with rfl | late
      · rfl
      · exact plain c late
    · obtain ⟨c, head, -⟩ := lower.begins
      obtain ⟨others, split⟩ := List.head?_eq_some_iff.mp head
      rw [written, split]
      intro blank
      obtain rfl : c = ' ' := Option.some.inj blank
      exact (plain_of_isSchemeChar (lower.chars ' ' (split ▸ List.mem_cons_self))).2.2.2 rfl
  unfold parse
  rewrite [clean, written, scheme?_append lower]
  rfl

/-! ## Addresses with an authority -/

section Hosted

variable {scheme : String} {parts : Authority} {names : List String}

theorem mem_chars {c : Char} (found : c ∈ chars names) :
    c = '/' ∨ ∃ name ∈ names, c ∈ name.toList := by
  obtain ⟨name, member, inside⟩ := List.mem_flatMap.mp found
  rcases List.mem_cons.mp inside with rfl | inside
  · exact .inl rfl
  · exact .inr ⟨name, member, inside⟩

/-- Nothing in a path is a control character or a blank, or ends the path. -/
theorem plain_of_mem_chars {special : Bool}
    (encoded : ∀ name ∈ names, UrlPath.Encoded special name) :
    ∀ c ∈ chars names, Percent.isControl c = false ∧ endsPath c = false ∧ c ≠ ' ' := by
  intro c found
  rcases mem_chars found with rfl | ⟨name, member, inside⟩
  · decide
  · have free := (encoded name member).free c inside
    unfold Percent.inPath Percent.inFragment at free
    simp at free
    simp [endsPath, free]

theorem head?_chars (names : List String) : ∀ c ∈ (chars names).head?, c = '/' := by
  cases names with
  | nil => nofun
  | cons name names =>
    rintro c ⟨⟩
    rfl

/-- An address is read from behind its slashes on as it is written. -/
theorem withAuthority_written (kept : parts.Kept scheme)
    (foreign : isSpecial scheme = true → parts.host.isForeign = true →
      parts.host.StandsForItself)
    (settled : ∀ name ∈ names, UrlPath.Settled (isSpecial scheme) name)
    (rooted : isSpecial scheme = true → names ≠ []) :
    withAuthority scheme (parts.written ++ chars names) =
      .ok ⟨scheme, parts.user, parts.password, some parts.host, parts.port, .segments names, none,
        none⟩ := by
  have front : breakAt (endsAuthority (isSpecial scheme)) (parts.written ++ chars names) =
      (parts.written, chars names) := by
    refine breakAt_append
      (fun c found => endsAuthority_of_inFront (Authority.inFront_of_mem_written kept found)) ?_
    intro c slash
    obtain rfl := head?_chars names c slash
    rfl
  have port : breakAt (isSlash true) parts.portChars = (parts.portChars, []) :=
    breakAt_free fun c found => isSlash_of_inFront (Authority.inFront_of_mem_portChars found).1
  have path : breakAt endsPath (chars names) = (chars names, []) :=
    breakAt_free fun c found =>
      (plain_of_mem_chars (fun name member => (settled name member).toEncoded) c found).2.1
  unfold withAuthority
  dsimp only
  rw [front]
  dsimp only
  rw [Authority.splitUserInfo_written kept]
  dsimp only
  rw [splitPort_host kept.host parts.head?_portChars]
  dsimp only
  rw [port]
  dsimp only
  rw [List.nil_append, Authority.authority_written kept foreign, path]
  change Except.ok (Url.mk scheme parts.user parts.password (some parts.host) parts.port
    (if chars names = [] ∧ isSpecial scheme = false then .segments []
      else .ofText (isSpecial scheme) (chars names)) none none) = _
  have read : (if chars names = [] ∧ isSpecial scheme = false then UrlPath.segments []
      else .ofText (isSpecial scheme) (chars names)) = .segments names := by
    cases names with
    | nil =>
      have other : isSpecial scheme = false :=
        Bool.eq_false_iff.mpr fun special => rooted special rfl
      exact if_pos ⟨rfl, other⟩
    | cons name names =>
      rw [if_neg fun empty => List.cons_ne_nil _ _ empty.1]
      exact UrlPath.ofText_chars settled (List.cons_ne_nil _ _)
  rw [read]

/-- An address with a host is read as it is written. -/
theorem parse_hosted {text : String} (lower : IsScheme scheme) (other : scheme ≠ "file")
    (kept : parts.Kept scheme)
    (foreign : isSpecial scheme = true → parts.host.isForeign = true →
      parts.host.StandsForItself)
    (settled : ∀ name ∈ names, UrlPath.Settled (isSpecial scheme) name)
    (rooted : isSpecial scheme = true → names ≠ [])
    (written : text.toList =
      scheme.toList ++ ':' :: '/' :: '/' :: (parts.written ++ chars names))
    (last : text.toList.getLast? ≠ some ' ') :
    parse text = .ok ⟨scheme, parts.user, parts.password, some parts.host, parts.port,
      .segments names, none, none⟩ := by
  have plain : ∀ c ∈ '/' :: '/' :: (parts.written ++ chars names), Percent.isControl c = false := by
    refine List.forall_mem_cons.mpr ⟨rfl, List.forall_mem_cons.mpr ⟨rfl, ?_⟩⟩
    intro c found
    rcases List.mem_append.mp found with front | path
    · exact (Authority.inFront_of_mem_written kept front).1
    · exact (plain_of_mem_chars (fun name member => (settled name member).toEncoded) c path).1
  have read := withAuthority_written kept foreign settled rooted
  rw [parse_of_scheme lower written plain last, if_neg other]
  split
  · next special =>
    have begins : ('/' :: '/' :: (parts.written ++ chars names)).dropWhile (isSlash true) =
        parts.written ++ chars names := by
      obtain ⟨c, rest, split⟩ := List.exists_cons_of_ne_nil (Authority.written_ne_nil kept special)
      have front := Authority.inFront_of_mem_written kept (split ▸ List.mem_cons_self)
      rw [split, List.dropWhile_cons_of_pos rfl, List.dropWhile_cons_of_pos rfl, List.cons_append,
        List.dropWhile_cons_of_neg (Bool.eq_false_iff.mp (isSlash_of_inFront front))]
    rw [begins, read]
  · exact read

end Hosted

/-! ## Addresses without an authority -/

section Bare

variable {scheme text : String} (lower : IsScheme scheme) (other : isSpecial scheme = false)
  (last : text.toList.getLast? ≠ some ' ')

include lower other last

/-- An address without a host is read as it is written. -/
theorem parse_bare {rest : List Char} (written : text.toList = scheme.toList ++ ':' :: rest)
    (plain : ∀ c ∈ rest, Percent.isControl c = false)
    (single : Text.stripLead ['/', '/'] rest = none) :
    parse text = .ok (withoutAuthority scheme rest) := by
  have unfiled : scheme ≠ "file" := by
    rintro rfl
    cases other
  rw [parse_of_scheme lower written plain last, if_neg unfiled, if_neg (by rw [other]; decide),
    single]

theorem parse_segments {names : List String} (front : List Char)
    (settled : ∀ name ∈ names, UrlPath.Settled false name)
    (written : text.toList = scheme.toList ++ ':' :: (front ++ chars names))
    (plain : ∀ c ∈ front, Percent.isControl c = false ∧ endsPath c = false)
    (single : Text.stripLead ['/', '/'] (front ++ chars names) = none)
    (slash : (front ++ chars names).head? = some '/')
    (read : UrlPath.ofText false (front ++ chars names) = .segments names) :
    parse text = .ok ⟨scheme, "", "", none, none, .segments names, none, none⟩ := by
  have free : ∀ c ∈ front ++ chars names,
      Percent.isControl c = false ∧ endsPath c = false := by
    intro c found
    rcases List.mem_append.mp found with early | late
    · exact plain c early
    · obtain ⟨wide, inside, -⟩ :=
        plain_of_mem_chars (fun name member => (settled name member).toEncoded) c late
      exact ⟨wide, inside⟩
  rw [parse_bare lower other last written (fun c found => (free c found).1) single,
    withoutAuthority, breakAt_free fun c found => (free c found).2]
  dsimp only
  rw [if_pos slash, read]
  rfl

/-- A path of segments is read as it is written, if it does not look like a host. -/
theorem parse_rooted {names : List String} (settled : ∀ name ∈ names, UrlPath.Settled false name)
    (rooted : names ≠ []) (apart : (UrlPath.segments names).looksLikeHost = false)
    (written : text.toList = scheme.toList ++ ':' :: chars names) :
    parse text = .ok ⟨scheme, "", "", none, none, .segments names, none, none⟩ := by
  have slash : (chars names).head? = some '/' := by
    cases names with
    | nil => exact absurd rfl rooted
    | cons name names => rfl
  have single : Text.stripLead ['/', '/'] (chars names) = none := by
    cases names with
    | nil => rfl
    | cons name names =>
      cases first : name.toList with
      | nil =>
        obtain rfl := String.toList_eq_nil_iff.mp first
        cases names with
        | nil => rfl
        | cons next names => cases apart
      | cons c rest =>
        have member : c ∈ name.toList := first ▸ List.mem_cons_self
        have whole : '/' ≠ c := fun same =>
          (settled name List.mem_cons_self).not_mem (same ▸ member)
        change Text.stripLead ['/'] (name.toList ++ chars names) = none
        rw [first, List.cons_append, Text.stripLead, if_neg whole]
  exact parse_segments lower other last [] settled written (List.forall_mem_nil _) single slash
    (UrlPath.ofText_chars settled rooted)

/-- A point in front of a path is left out. -/
theorem parse_dotted {names : List String} (settled : ∀ name ∈ names, UrlPath.Settled false name)
    (rooted : names ≠ [])
    (written : text.toList = scheme.toList ++ ':' :: '/' :: '.' :: chars names) :
    parse text = .ok ⟨scheme, "", "", none, none, .segments names, none, none⟩ :=
  parse_segments lower other last ['/', '.'] settled written
    (List.all_iff_forall_prop.mp (by decide)) rfl rfl (UrlPath.ofText_dot settled rooted)

/-- A path that is not made of segments is read as it is written. -/
theorem parse_taken {name : List Char} (plain : ∀ c ∈ name, Percent.isControl c = false)
    (whole : ∀ c ∈ name, endsPath c = false) (first : name.head? ≠ some '/')
    (written : text.toList = scheme.toList ++ ':' :: name) :
    parse text =
      .ok ⟨scheme, "", "", none, none, .opaquePath (String.ofList name), none, none⟩ := by
  have single : Text.stripLead ['/', '/'] name = none := by
    cases name with
    | nil => rfl
    | cons c rest =>
      have other : '/' ≠ c := fun same => first (congrArg some same.symm)
      rw [Text.stripLead, if_neg other]
  rw [parse_bare lower other last written plain single, withoutAuthority, breakAt_free whole]
  dsimp only
  rw [if_neg first, Percent.encode_eq_self plain]
  rfl

end Bare

/-! ## Files -/

theorem isScheme_file : IsScheme "file" := by
  constructor
  · exact ⟨'f', rfl, by decide⟩
  · exact List.all_eq_true.mp (by decide)

/-- Behind two slashes the host is that of the machine itself if a third one follows. -/
theorem fileHost_own (names : List String) :
    fileHost ('/' :: '/' :: chars names) = .ok (ownHost, chars names) := by
  have behind : dropSlash true (dropSlash true ('/' :: '/' :: chars names)) = chars names := rfl
  have length : ('/' :: '/' :: chars names).length = (chars names).length + 2 := rfl
  have host : breakAt (endsAuthority true) (chars names) = ([], chars names) := by
    rw [← List.nil_append (chars names)]
    refine breakAt_append (List.forall_mem_nil _) ?_
    intro c slash
    obtain rfl := head?_chars names c slash
    rfl
  unfold fileHost
  dsimp only
  rw [behind, if_pos length, host]
  rfl

/-- What does not begin with two slashes is on the machine itself. -/
theorem fileHost_short {name : String} (encoded : UrlPath.Encoded true name) (some : name ≠ "")
    (names : List String) :
    fileHost (chars (name :: names)) = .ok (ownHost, dropSlash true (chars (name :: names))) := by
  obtain ⟨c, rest, split⟩ :=
    List.exists_cons_of_ne_nil fun nothing => some (String.toList_eq_nil_iff.mp nothing)
  have member : c ∈ name.toList := split ▸ List.mem_cons_self
  have single : chars (name :: names) = '/' :: c :: (rest ++ chars names) := by
    change '/' :: (name.toList ++ chars names) = _
    rw [split]
    rfl
  have once : dropSlash true (c :: (rest ++ chars names)) = c :: (rest ++ chars names) :=
    if_neg (Bool.eq_false_iff.mp (encoded.whole c member))
  have twice : dropSlash true (dropSlash true ('/' :: c :: (rest ++ chars names))) =
      c :: (rest ++ chars names) := once
  unfold fileHost
  dsimp only
  rw [single, twice, if_neg (by simp)]

/-- Another host is named behind two slashes. -/
theorem fileHost_named {host : Host} (kept : host.Kept true) (other : host ≠ .name "localhost")
    (foreign : host.isForeign = true → host.StandsForItself) (names : List String) :
    fileHost ('/' :: '/' :: (host.text.toList ++ chars names)) =
      .ok (host, dropSlash true (chars names)) := by
  have front : ∀ c ∈ host.text.toList, Authority.InFront c :=
    fun c found => Authority.inFront_of_inHost (kept.inHost c found)
  obtain ⟨c, rest, split⟩ := List.exists_cons_of_ne_nil kept.text_ne_nil
  have behind : dropSlash true (dropSlash true
      ('/' :: '/' :: (host.text.toList ++ chars names))) = host.text.toList ++ chars names := rfl
  have length : ('/' :: '/' :: (host.text.toList ++ chars names)).length =
      (host.text.toList ++ chars names).length + 2 := rfl
  have broken : breakAt (endsAuthority true) (host.text.toList ++ chars names) =
      (host.text.toList, chars names) := by
    refine breakAt_append (fun c found => endsAuthority_of_inFront (front c found)) ?_
    intro c slash
    obtain rfl := head?_chars names c slash
    rfl
  unfold fileHost
  dsimp only
  rw [behind, if_pos length, broken]
  dsimp only
  rw [if_neg (Bool.eq_false_iff.mp kept.isDrive_eq_false), if_neg kept.text_ne_nil,
    Host.parse_text kept foreign]
  change Except.ok (if host = .name "localhost" then (ownHost, chars names)
    else (host, dropSlash true (chars names))) = _
  rw [if_neg other]

section Files

variable {text : String} {names : List String} (last : text.toList.getLast? ≠ some ' ')
  (encoded : ∀ name ∈ names, UrlPath.Encoded true name)

include last encoded

/-- A file is read by its host and by what stands behind it. -/
theorem parse_inFiles (front : List Char) {behind : List Char} {host : Host}
    (written : text.toList = "file".toList ++ ':' :: (front ++ chars names))
    (plain : ∀ c ∈ front, Percent.isControl c = false)
    (placed : fileHost (front ++ chars names) = .ok (host, behind))
    (part : ∀ c ∈ behind, c ∈ chars names)
    (read : UrlPath.ofFileText behind = (.segments names, false)) :
    parse text = .ok ⟨"file", "", "", some host, none, .segments names, none, none⟩ := by
  have inside := plain_of_mem_chars encoded
  have free : ∀ c ∈ front ++ chars names, Percent.isControl c = false := by
    intro c found
    rcases List.mem_append.mp found with early | late
    · exact plain c early
    · exact (inside c late).1
  rw [parse_of_scheme isScheme_file written free last, if_pos rfl]
  refine bind_eq_ok_iff.mpr ⟨_, placed, ?_⟩
  dsimp only
  rw [breakAt_free fun c found => (inside c (part c found)).2.1]
  dsimp only
  rw [read]
  rfl

omit last encoded in
theorem mem_of_mem_dropSlash {special : Bool} {text : List Char} {c : Char}
    (found : c ∈ dropSlash special text) : c ∈ text := by
  unfold dropSlash at found
  split at found
  · split at found
    · exact List.mem_cons_of_mem _ found
    · exact found
  · exact found

end Files

section Settled

variable {text name : String} {names : List String} (last : text.toList.getLast? ≠ some ' ')
  (settled : ∀ other ∈ name :: names, UrlPath.Settled true other) (filled : name ≠ "")

include last settled filled

/-- A file of the machine itself is read as it is written. -/
theorem parse_ownFile
    (written : text.toList = "file".toList ++ ':' :: '/' :: '/' :: chars (name :: names)) :
    parse text = .ok ⟨"file", "", "", some ownHost, none, .segments (name :: names), none, none⟩ :=
  parse_inFiles last (fun other member => (settled other member).toEncoded) ['/', '/'] written
    (List.all_iff_forall_prop.mp (by decide)) (fileHost_own _) (fun _ found => found)
    (UrlPath.ofFileText_chars settled filled)

/-- The slashes in front of a path may be missing if no drive stands there. -/
theorem parse_shortFile (apart : UrlPath.beginsDrive name.toList = false)
    (written : text.toList = "file".toList ++ ':' :: chars (name :: names)) :
    parse text = .ok ⟨"file", "", "", some ownHost, none, .segments (name :: names), none, none⟩ :=
  parse_inFiles last (fun other member => (settled other member).toEncoded) [] written
    (List.forall_mem_nil _) (fileHost_short (settled name List.mem_cons_self).toEncoded filled _)
    (fun _ found => mem_of_mem_dropSlash found)
    (UrlPath.ofFileText_dropSlash settled filled apart)

/-- A file of another host is read as it is written, if no drive stands in front of its path. -/
theorem parse_file {host : Host} (kept : host.Kept true) (other : host ≠ .name "localhost")
    (foreign : host.isForeign = true → host.StandsForItself)
    (apart : UrlPath.beginsDrive name.toList = false)
    (written : text.toList =
      "file".toList ++ ':' :: '/' :: '/' :: (host.text.toList ++ chars (name :: names))) :
    parse text = .ok ⟨"file", "", "", some host, none, .segments (name :: names), none, none⟩ := by
  have plain : ∀ c ∈ '/' :: '/' :: host.text.toList, Percent.isControl c = false :=
    List.forall_mem_cons.mpr ⟨rfl, List.forall_mem_cons.mpr
      ⟨rfl, fun c found => (kept.inHost c found).1⟩⟩
  exact parse_inFiles last (fun other member => (settled other member).toEncoded)
    ('/' :: '/' :: host.text.toList) written plain
    (fileHost_named kept other foreign _) (fun _ found => mem_of_mem_dropSlash found)
    (UrlPath.ofFileText_dropSlash settled filled apart)

end Settled

end BearerGate.Url
