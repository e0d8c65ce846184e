import BearerGate.Keys.Endpoint
import BearerGate.Proofs.Net.Url.Reading
import BearerGate.Proofs.Net.Url.Slashes

/-!
# Addresses of key sets

The address of a key set is written behind that of its service, without the slashes at the end of
it. Where the address of the service ends in its path, that of the key set is read as one below it
(`Url.parse_keySet`).
-/

namespace BearerGate

open UrlPath (chars dropSlashes dropSlashes_append_of_getLast? dropSlashes_append_of_ne
  dropSlashes_append_of_not_mem dropSlashes_append_slashes trimmed)

/-- The segments of a key set below the path of its service. -/
def keySetNames : List String := ["v1", "jwks"]

theorem toList_jwksEndpoint (text : String) :
    (jwksEndpoint text).toList = dropSlashes text.toList ++ chars keySetNames := by
  unfold jwksEndpoint
  rw [String.toList_append, UrlPath.toList_dropTrailingSlashes]
  rfl

theorem getLast?_jwksEndpoint (text : String) : (jwksEndpoint text).toList.getLast? ≠ some ' ' := by
  have ends : (chars keySetNames).getLast? = some 's' := rfl
  rw [toList_jwksEndpoint, List.getLast?_append, ends]
  exact fun blank => by cases blank

/-- Behind a front that ends in no slash, only the slashes of the path are left out. -/
theorem toList_jwksEndpoint_segments {text : String} {front : List Char} {names : List String}
    (free : ∀ name ∈ names, '/' ∉ name.toList) (written : text.toList = front ++ chars names) :
    (jwksEndpoint text).toList =
      (if trimmed names = [] then dropSlashes front else front) ++
        chars (trimmed names ++ keySetNames) := by
  rw [toList_jwksEndpoint, written, UrlPath.dropSlashes_chars free, UrlPath.chars_append]
  split
  · next bare =>
    rw [bare]
    rfl
  · rw [List.append_assoc]

/-! ## Paths -/

namespace UrlPath

theorem looksLikeHost_of_ne {name : String} (filled : name ≠ "") (names : List String) :
    (segments (name :: names)).looksLikeHost = false := by
  unfold looksLikeHost
  split
  · next same =>
    cases same
    exact absurd rfl filled
  · rfl

theorem chars_injective {names others : List String} (free : ∀ name ∈ names, '/' ∉ name.toList)
    (whole : ∀ name ∈ others, '/' ∉ name.toList) (same : chars names = chars others) :
    names = others := by
  have split := splitOn_chars free [] List.not_mem_nil
  rw [same, splitOn_chars whole [] List.not_mem_nil] at split
  exact (List.map_injective_iff.mpr (fun _ _ => String.toList_inj.mp) (List.cons.inj split).2).symm

/-- A path as it is kept. -/
inductive Kept : UrlPath → Prop
  | segments {names : List String} (free : ∀ name ∈ names, '/' ∉ name.toList) :
    Kept (.segments names)
  | taken {name : List Char} (first : name.head? ≠ some '/') :
    Kept (.opaquePath (String.ofList name))

/-- The path of the key set of a service. -/
def keySet : UrlPath → UrlPath
  | .segments names => .segments (trimmed names ++ keySetNames)
  | .opaquePath name =>
    if name = "" then .segments keySetNames else .opaquePath (jwksEndpoint name)

theorem bare_segments {names : List String} (free : ∀ name ∈ names, '/' ∉ name.toList) :
    Text.dropTrailingSlashes (segments names).text = "" ↔ trimmed names = [] := by
  rw [← String.toList_eq_nil_iff, toList_dropTrailingSlashes, toList_text,
    dropSlashes_segments free]
  cases trimmed names with
  | nil => exact ⟨fun _ => rfl, fun _ => rfl⟩
  | cons name others => exact ⟨nofun, nofun⟩

/-- The path of a key set is that of its service without slashes at the end, and its own behind
it. -/
theorem text_keySet {path : UrlPath} (kept : path.Kept) :
    path.keySet.text = jwksEndpoint path.text := by
  cases kept with
  | segments free =>
    rw [← String.toList_inj, toList_jwksEndpoint, toList_text, dropSlashes_segments free, keySet,
      toList_text, chars_append]
  | taken _ =>
    rw [keySet]
    split
    · next empty =>
      rw [text, empty]
      rfl
    · rfl

theorem keySet_eq_of_taken {names : List String} {name : List Char}
    (free : ∀ name ∈ names, '/' ∉ name.toList) (first : name.head? ≠ some '/')
    (same : dropSlashes (segments names).text.toList =
      dropSlashes (opaquePath (String.ofList name)).text.toList) :
    keySet (.segments names) = keySet (.opaquePath (String.ofList name)) := by
  have begins := head?_dropSlashes first
  rw [toList_text, dropSlashes_segments free, text, String.toList_ofList] at same
  rw [← same] at begins
  cases segments : trimmed names with
  | nil =>
    rw [segments] at begins
    obtain rfl : name = [] := List.head?_eq_none_iff.mp begins.symm
    rw [keySet, keySet, segments, if_pos rfl]
    rfl
  | cons next others =>
    rw [segments] at begins
    exact absurd begins.symm first

/-- The path of a key set does not depend on slashes at the end of that of the service. -/
theorem keySet_congr {path other : UrlPath} (kept : path.Kept) (also : other.Kept)
    (same : Text.dropTrailingSlashes path.text = Text.dropTrailingSlashes other.text) :
    path.keySet = other.keySet := by
  have texts : dropSlashes path.text.toList = dropSlashes other.text.toList := by
    rw [← toList_dropTrailingSlashes, same, toList_dropTrailingSlashes]
  cases kept with
  | @segments names free =>
    cases also with
    | @segments others whole =>
      rw [toList_text, toList_text, dropSlashes_segments free, dropSlashes_segments whole] at texts
      rw [keySet, keySet, chars_injective
        (fun name member => free name (mem_of_mem_trimmed member))
        (fun name member => whole name (mem_of_mem_trimmed member)) texts]
    | @taken name first =>
      exact keySet_eq_of_taken free first texts
  | @taken name first =>
    cases also with
    | @segments others whole => exact (keySet_eq_of_taken whole first texts.symm).symm
    | @taken other initial =>
      have begins : name.head? = other.head? := by
        rw [← head?_dropSlashes first, ← head?_dropSlashes initial]
        rw [text, text, String.toList_ofList, String.toList_ofList] at texts
        rw [texts]
      have empty : String.ofList name = "" ↔ String.ofList other = "" := by
        rw [String.ofList_eq_empty_iff, String.ofList_eq_empty_iff, ← List.head?_eq_none_iff,
          ← List.head?_eq_none_iff, begins]
      have written : jwksEndpoint (String.ofList name) = jwksEndpoint (String.ofList other) :=
        congrArg (· ++ "/v1/jwks") same
      rw [keySet, keySet, written]
      exact if_congr empty rfl rfl

end UrlPath

/-! ## Addresses -/

namespace Url

theorem Kept.path {url : Url} (kept : url.Kept) : url.path.Kept := by
  cases kept with
  | hosted _ _ _ settled _ => exact .segments fun name member => (settled name member).not_mem
  | file _ encoded _ _ => exact .segments fun name member => (encoded name member).not_mem
  | rooted _ _ settled _ => exact .segments fun name member => (settled name member).not_mem
  | taken _ _ _ _ first => exact .taken first

/-- The address of the key set of a service. A host without a name gets lost in front of nothing but
slashes. -/
def keySet (url : Url) : Url :=
  { url with
    host :=
      if url.scheme ≠ "file" ∧ Text.dropTrailingSlashes url.path.text = "" then
        url.host.filter (· ≠ ownHost)
      else url.host
    path := url.path.keySet }

/-- An address that is read as it is written. -/
structure Steady (url : Url) : Prop where
  /-- A domain in another script has a form in ASCII that stands for itself. -/
  foreign : ∀ host ∈ url.host, isSpecial url.scheme = true → host.isForeign = true →
    host.StandsForItself
  /-- Nothing behind the drive of a file means a directory. -/
  followed : url.scheme = "file" → ∀ names, url.path = .segments names →
    ∀ name ∈ names, UrlPath.isDots name = false
  /-- No drive of a file is on a host. -/
  apart : url.scheme = "file" → url.host ≠ some ownHost → ∀ names, url.path = .segments names →
    ∀ name ∈ names.head?, UrlPath.beginsDrive name.toList = false

theorem toList_text {url : Url} (noQuery : url.query = none) (noFragment : url.fragment = none) :
    url.text.toList =
      url.scheme.toList ++ ':' :: (url.authorityText.toList ++ url.path.text.toList) := by
  unfold text
  rw [noQuery, noFragment]
  simp

theorem settled_keySetNames (special : Bool) :
    ∀ name ∈ keySetNames, UrlPath.Settled special name := by
  have settled : ∀ special, ∀ name ∈ keySetNames,
      (name.toList.all fun c => Percent.inPath c = false) = true ∧
        (name.toList.all fun c => UrlPath.isSlash special c = false) = true ∧
          UrlPath.isDots name = false := by
    decide
  intro name member
  obtain ⟨free, whole, plain⟩ := settled special name member
  exact ⟨⟨List.all_iff_forall_prop.mp free, List.all_iff_forall_prop.mp whole⟩, plain⟩

theorem settled_keySet {special : Bool} {names : List String}
    (settled : ∀ name ∈ names, UrlPath.Settled special name) :
    ∀ name ∈ trimmed names ++ keySetNames, UrlPath.Settled special name :=
  List.forall_mem_append.mpr
    ⟨fun name member => settled name (UrlPath.mem_of_mem_trimmed member),
      settled_keySetNames special⟩

theorem keySet_of_bare {url : Url} {names : List String} (path : url.path = .segments names)
    (free : ∀ name ∈ names, '/' ∉ name.toList) (named : url.scheme ≠ "file")
    (bare : trimmed names = []) :
    url.keySet =
      { url with host := url.host.filter (· ≠ ownHost), path := .segments keySetNames } := by
  have nothing := (UrlPath.bare_segments free).mpr bare
  unfold keySet
  rw [path, if_pos ⟨named, nothing⟩, UrlPath.keySet, bare]
  rfl

theorem keySet_of_host {url : Url} {names : List String} (path : url.path = .segments names)
    (free : ∀ name ∈ names, '/' ∉ name.toList)
    (kept : url.scheme ≠ "file" → trimmed names = [] → url.host ≠ some ownHost) :
    url.keySet = { url with path := .segments (trimmed names ++ keySetNames) } := by
  have host : (if url.scheme ≠ "file" ∧ Text.dropTrailingSlashes url.path.text = "" then
      url.host.filter (· ≠ ownHost) else url.host) = url.host := by
    split
    · next bare =>
      have nothing := (UrlPath.bare_segments free).mp (path ▸ bare.2)
      have other := kept bare.1 nothing
      cases named : url.host with
      | none => rfl
      | some host =>
        rw [named] at other
        exact Option.filter_eq_some_iff.mpr
          ⟨rfl, decide_eq_true fun same => other (congrArg some same)⟩
    · rfl
  unfold keySet
  rw [host, path]
  rfl

theorem keySet_of_no_host {url : Url} (unnamed : url.host = none) :
    url.keySet = { url with path := url.path.keySet } := by
  unfold keySet
  rw [unnamed]
  exact congrArg (fun host => { url with host := host, path := url.path.keySet }) (ite_self none)

theorem host_keySet {url : Url} {host : Host} (named : url.host = some host)
    (other : host ≠ ownHost) : url.keySet.host = some host := by
  unfold keySet
  dsimp only
  split
  · rw [named]
    exact Option.filter_eq_some_iff.mpr ⟨rfl, decide_eq_true other⟩
  · exact named

/-- The path of a key set does not begin with two slashes if that of its service does not. -/
theorem exists_keySet_cons {names : List String} (first : names.head? = some "" → names = [""]) :
    ∃ name others, trimmed names ++ keySetNames = name :: others ∧ name ≠ "" := by
  cases kept : trimmed names with
  | nil => exact ⟨"v1", ["jwks"], rfl, by decide⟩
  | cons name others =>
    refine ⟨name, others ++ keySetNames, rfl, ?_⟩
    rintro rfl
    obtain ⟨more, whole⟩ := UrlPath.trimmed_isPrefixOf names
    rw [kept] at whole
    have single := first (whole ▸ rfl)
    rw [single] at kept
    cases kept

/-- No host is seen in the path of a key set where none is seen in that of its service. -/
theorem looksLikeHost_keySet {names : List String}
    (apart : (UrlPath.segments names).looksLikeHost = false) :
    (UrlPath.segments (trimmed names ++ keySetNames)).looksLikeHost = false := by
  have single : names.head? = some "" → names = [""] := by
    cases names with
    | nil => nofun
    | cons name others =>
      rintro ⟨⟩
      cases others with
      | nil => rfl
      | cons next others => cases apart
  obtain ⟨name, others, split, begins⟩ := exists_keySet_cons single
  rw [split]
  exact UrlPath.looksLikeHost_of_ne begins others

/-- No slash is left out in front of the path if anything stands between it and the slashes behind
the scheme. -/
theorem dropSlashes_authority (scheme : String) {authority : List Char} (filled : authority ≠ [])
    (whole : '/' ∉ authority) :
    dropSlashes (scheme.toList ++ ':' :: '/' :: '/' :: authority) =
      scheme.toList ++ ':' :: '/' :: '/' :: authority := by
  have kept := dropSlashes_append_of_not_mem (scheme.toList ++ [':', '/', '/']) filled whole
  rwa [List.append_assoc] at kept

/-! ## Reading -/

theorem written_eq_nil_iff {scheme : String} {parts : Authority} (front : parts.Kept scheme) :
    parts.written = [] ↔ parts.host = ownHost := by
  constructor
  · intro nothing
    have host := (List.append_eq_nil_iff.mp (List.append_eq_nil_iff.mp nothing).2).1
    exact front.host.eq_unnamed host
  · intro unnamed
    obtain ⟨user, password, port⟩ := front.unnamed unnamed
    unfold Authority.written Authority.info? Authority.portChars
    rw [user, password, port, unnamed]
    rfl

/-- The key set of a service with a host is read below it. -/
theorem parse_keySet_hosted {scheme : String} {parts : Authority} {names : List String}
    (lower : IsScheme scheme) (other : scheme ≠ "file") (front : parts.Kept scheme)
    (foreign : isSpecial scheme = true → parts.host.isForeign = true →
      parts.host.StandsForItself)
    (settled : ∀ name ∈ names, UrlPath.Settled (isSpecial scheme) name) {url : Url}
    (form : url = ⟨scheme, parts.user, parts.password, some parts.host, parts.port,
      .segments names, none, none⟩) :
    parse (jwksEndpoint url.text) = .ok url.keySet := by
  have last := getLast?_jwksEndpoint url.text
  have text : url.text.toList =
      (scheme.toList ++ ':' :: '/' :: '/' :: parts.written) ++ chars names := by
    rw [form, toList_text rfl rfl, Authority.toList_authorityText, UrlPath.toList_text]
    simp
  have path : url.path = .segments names := by rw [form]
  have free : ∀ name ∈ names, '/' ∉ name.toList := fun name member => (settled name member).not_mem
  by_cases lost : parts.host = ownHost ∧ trimmed names = []
  · obtain ⟨unnamed, bare⟩ := lost
    have usual : isSpecial scheme = false := by
      refine Bool.eq_false_iff.mpr fun special => ?_
      exact Authority.written_ne_nil front special ((written_eq_nil_iff front).mpr unnamed)
    have written : (jwksEndpoint url.text).toList = scheme.toList ++ ':' :: chars keySetNames := by
      rw [toList_jwksEndpoint_segments free text, if_pos bare, bare,
        (written_eq_nil_iff front).mpr unnamed, dropSlashes_append_slashes, List.append_assoc]
      rfl
    obtain ⟨user, password, port⟩ := front.unnamed unnamed
    rw [parse_rooted lower usual last (settled_keySetNames false) (List.cons_ne_nil _ _) rfl
      written, keySet_of_bare path free (form ▸ other) bare, form, user, password, port, unnamed]
    rfl
  · have written : (jwksEndpoint url.text).toList =
        scheme.toList ++ ':' :: '/' :: '/' ::
          (parts.written ++ chars (trimmed names ++ keySetNames)) := by
      have same : trimmed names = [] →
          dropSlashes (scheme.toList ++ ':' :: '/' :: '/' :: parts.written) =
            scheme.toList ++ ':' :: '/' :: '/' :: parts.written := by
        intro bare
        have filled : parts.written ≠ [] := fun nothing =>
          lost ⟨(written_eq_nil_iff front).mp nothing, bare⟩
        have whole : '/' ∉ parts.written := fun slash =>
          (Authority.inFront_of_mem_written front slash).2 List.mem_cons_self
        exact dropSlashes_authority scheme filled whole
      rw [toList_jwksEndpoint_segments free text]
      split
      · next bare =>
        rw [same bare]
        simp
      · simp
    rw [parse_hosted lower other front foreign (settled_keySet settled)
      (fun _ => List.append_ne_nil_of_right_ne_nil _ (List.cons_ne_nil _ _)) written last,
      keySet_of_host path free ?_, form]
    rw [form]
    intro _ bare unnamed
    exact lost ⟨Option.some.inj unnamed, bare⟩

/-- The key set of a service whose address has a path and no host is read below it. -/
theorem parse_keySet_rooted {scheme : String} {names : List String} (lower : IsScheme scheme)
    (usual : isSpecial scheme = false) (settled : ∀ name ∈ names, UrlPath.Settled false name)
    {url : Url}
    (form : url = ⟨scheme, "", "", none, none, .segments names, none, none⟩) :
    parse (jwksEndpoint url.text) = .ok url.keySet := by
  have last := getLast?_jwksEndpoint url.text
  have free : ∀ name ∈ names, '/' ∉ name.toList := fun name member => (settled name member).not_mem
  have below := settled_keySet settled
  have filled : trimmed names ++ keySetNames ≠ [] :=
    List.append_ne_nil_of_right_ne_nil _ (List.cons_ne_nil _ _)
  have kept : url.keySet =
      ⟨scheme, "", "", none, none, .segments (trimmed names ++ keySetNames), none, none⟩ := by
    rw [form]
    exact keySet_of_host rfl free fun _ _ => nofun
  cases leads : (UrlPath.segments names).looksLikeHost with
  | true =>
    have text : url.text.toList = (scheme.toList ++ [':', '/', '.']) ++ chars names := by
      rw [form, toList_text rfl rfl, UrlPath.toList_text, authorityText]
      dsimp only
      rw [leads]
      simp
    have written : (jwksEndpoint url.text).toList =
        scheme.toList ++ ':' :: '/' :: '.' :: chars (trimmed names ++ keySetNames) := by
      rw [toList_jwksEndpoint_segments free text,
        dropSlashes_append_of_getLast? _ rfl (by decide), ite_self]
      simp
    rw [parse_dotted lower usual last below filled written, kept]
  | false =>
    have text : url.text.toList = (scheme.toList ++ [':']) ++ chars names := by
      rw [form, toList_text rfl rfl, UrlPath.toList_text, authorityText]
      dsimp only
      rw [leads]
      simp
    have written : (jwksEndpoint url.text).toList =
        scheme.toList ++ ':' :: chars (trimmed names ++ keySetNames) := by
      rw [toList_jwksEndpoint_segments free text,
        dropSlashes_append_of_getLast? _ rfl (by decide), ite_self]
      simp
    rw [parse_rooted lower usual last below filled (looksLikeHost_keySet leads) written, kept]

/-- The key set of a service whose path is not made of segments is read behind it. -/
theorem parse_keySet_taken {scheme : String} {name : List Char} (lower : IsScheme scheme)
    (usual : isSpecial scheme = false) (plain : ∀ c ∈ name, Percent.isControl c = false)
    (whole : ∀ c ∈ name, endsPath c = false) (first : name.head? ≠ some '/') {url : Url}
    (form : url = ⟨scheme, "", "", none, none, .opaquePath (String.ofList name), none, none⟩) :
    parse (jwksEndpoint url.text) = .ok url.keySet := by
  have last := getLast?_jwksEndpoint url.text
  have text : url.text.toList = (scheme.toList ++ [':']) ++ name := by
    rw [form, toList_text rfl rfl]
    simp [authorityText, UrlPath.looksLikeHost, UrlPath.text]
  have below : url.keySet = { url with path := url.path.keySet } :=
    keySet_of_no_host (by rw [form])
  by_cases empty : name = []
  · subst empty
    have written : (jwksEndpoint url.text).toList = scheme.toList ++ ':' :: chars keySetNames := by
      rw [toList_jwksEndpoint, text, List.append_nil,
        dropSlashes_append_of_getLast? _ rfl (by decide)]
      simp
    have path : UrlPath.keySet (.opaquePath (String.ofList [])) = .segments keySetNames := by
      rw [UrlPath.keySet, if_pos String.ofList_nil]
    rw [parse_rooted lower usual last (settled_keySetNames false) (List.cons_ne_nil _ _) rfl
      written, below, form, path]
  · have begins := UrlPath.head?_dropSlashes first
    have some : dropSlashes name ≠ [] := by
      intro nothing
      rw [nothing] at begins
      exact empty (List.head?_eq_none_iff.mp begins.symm)
    have written : (jwksEndpoint url.text).toList =
        scheme.toList ++ ':' :: (dropSlashes name ++ chars keySetNames) := by
      rw [toList_jwksEndpoint, text, dropSlashes_append_of_ne _ some]
      simp
    have ends : ∀ c ∈ chars keySetNames, Percent.isControl c = false ∧ endsPath c = false :=
      List.all_iff_forall_prop.mp (by decide)
    have path : UrlPath.keySet (.opaquePath (String.ofList name)) =
        .opaquePath (String.ofList (dropSlashes name ++ chars keySetNames)) := by
      have filled : String.ofList name ≠ "" := by rwa [ne_eq, String.ofList_eq_empty_iff]
      rw [UrlPath.keySet, if_neg filled, UrlPath.opaquePath.injEq, ← String.toList_inj,
        toList_jwksEndpoint, String.toList_ofList, String.toList_ofList]
    rw [parse_taken lower usual last ?plain ?whole ?first written, below, form, path]
    case plain =>
      exact List.forall_mem_append.mpr
        ⟨fun c found => plain c (UrlPath.mem_of_mem_dropSlashes found),
          fun c found => (ends c found).1⟩
    case whole =>
      exact List.forall_mem_append.mpr
        ⟨fun c found => whole c (UrlPath.mem_of_mem_dropSlashes found),
          fun c found => (ends c found).2⟩
    case first =>
      rw [List.head?_append_of_ne_nil _ some, begins]
      exact first

/-- The key set of a file is read below it. -/
theorem parse_keySet_file {host : Host} {names : List String} (place : IsFileHost host)
    (encoded : ∀ name ∈ names, UrlPath.Encoded true name)
    (first : names.head? = some "" → names = [""]) {url : Url}
    (form : url = ⟨"file", "", "", some host, none, .segments names, none, none⟩)
    (steady : url.keySet.Steady) :
    parse (jwksEndpoint url.text) = .ok url.keySet := by
  have last := getLast?_jwksEndpoint url.text
  have free : ∀ name ∈ names, '/' ∉ name.toList := fun name member => (encoded name member).not_mem
  have kept : url.keySet =
      ⟨"file", "", "", some host, none, .segments (trimmed names ++ keySetNames), none, none⟩ := by
    rw [form]
    exact keySet_of_host rfl free fun other => absurd rfl other
  have settled : ∀ name ∈ trimmed names ++ keySetNames, UrlPath.Settled true name := by
    intro name member
    have plain := steady.followed (by rw [kept]) _ (by rw [kept]) name member
    rcases List.mem_append.mp member with early | late
    · exact ⟨encoded name (UrlPath.mem_of_mem_trimmed early), plain⟩
    · exact settled_keySetNames true name late
  obtain ⟨name, others, split, filled⟩ := exists_keySet_cons first
  have apart : host ≠ ownHost → UrlPath.beginsDrive name.toList = false := by
    intro other
    refine steady.apart (by rw [kept]) ?_ _ (by rw [kept]) name (by rw [split]; rfl)
    rw [kept]
    exact fun same => other (Option.some.inj same)
  have text : url.text.toList =
      ("file".toList ++ ':' :: '/' :: '/' :: host.text.toList) ++ chars names := by
    rw [form, toList_text rfl rfl, UrlPath.toList_text]
    simp [authorityText, userInfoText]
  have endpoint := toList_jwksEndpoint_segments free text
  rw [kept]
  rw [split] at settled endpoint ⊢
  by_cases own : host = ownHost
  · subst own
    by_cases bare : trimmed names = []
    · have slashes : "file".toList ++ ':' :: '/' :: '/' :: ownHost.text.toList =
          "file".toList ++ [':', '/', '/'] := rfl
      rw [if_pos bare, slashes, dropSlashes_append_slashes, List.append_assoc] at endpoint
      rw [bare] at split
      cases split
      exact parse_shortFile last settled filled (by decide) endpoint
    · rw [if_neg bare] at endpoint
      exact parse_ownFile last settled filled endpoint
  · obtain ⟨named, other⟩ := place.resolve_left own
    have whole : '/' ∉ host.text.toList := fun slash =>
      (named.inHost _ slash).2 List.mem_cons_self
    have foreign := steady.foreign host (by rw [kept]; rfl) (by rw [kept]; rfl)
    rw [dropSlashes_authority "file" named.text_ne_nil whole, ite_self, List.append_assoc,
      List.cons_append, List.cons_append, List.cons_append] at endpoint
    exact parse_file last settled filled named other foreign (apart own) endpoint

/-! ## Key sets -/

theorem exists_of_path_keySet {path : UrlPath} {below : List String}
    (kept : path.keySet = .segments below) :
    ∃ names, below = trimmed names ++ keySetNames ∧ (path = .segments names ∨ names = []) := by
  cases path with
  | segments names =>
    cases kept
    exact ⟨names, rfl, .inl rfl⟩
  | opaquePath name =>
    rw [UrlPath.keySet] at kept
    split at kept
    · cases kept
      exact ⟨[], rfl, .inr rfl⟩
    · cases kept

/-- If the address of a service is read as it is written, so is that of its key set. -/
theorem Steady.keySet {url : Url} (steady : url.Steady) : url.keySet.Steady := by
  have plain : ∀ name ∈ keySetNames,
      UrlPath.isDots name = false ∧ UrlPath.beginsDrive name.toList = false := by
    decide
  refine ⟨?foreign, ?followed, ?apart⟩
  case foreign =>
    intro host named
    refine steady.foreign host ?_
    change host ∈ (if url.scheme ≠ "file" ∧ Text.dropTrailingSlashes url.path.text = "" then
      url.host.filter (· ≠ ownHost) else url.host) at named
    split at named
    · exact (Option.filter_eq_some_iff.mp named).1
    · exact named
  case followed =>
    intro file below path name member
    obtain ⟨names, rfl, origin⟩ := exists_of_path_keySet path
    rcases List.mem_append.mp member with early | late
    · rcases origin with same | rfl
      · exact steady.followed file names same name (UrlPath.mem_of_mem_trimmed early)
      · cases early
    · exact (plain name late).1
  case apart =>
    intro file other below path name first
    obtain ⟨names, rfl, origin⟩ := exists_of_path_keySet path
    have host : url.keySet.host = url.host := if_neg fun bare => bare.1 file
    rw [host] at other
    cases kept : trimmed names with
    | nil =>
      rw [kept] at first
      exact (plain name (List.mem_of_mem_head? first)).2
    | cons next others =>
      rw [kept] at first
      have begins : names.head? = some name := by
        refine UrlPath.head?_of_head?_trimmed ?_
        rw [kept]
        exact first
      rcases origin with same | rfl
      · exact steady.apart file other names same name begins
      · cases begins

/-- What is written behind the address of a service, without the slashes at its end, is read below
the service. -/
theorem parse_keySet {url : Url} (kept : url.Kept) (noQuery : url.query = none)
    (noFragment : url.fragment = none) (steady : url.keySet.Steady) :
    parse (jwksEndpoint url.text) = .ok url.keySet := by
  obtain ⟨scheme, user, password, host, port, path, query, fragment⟩ := url
  obtain rfl : query = none := noQuery
  obtain rfl : fragment = none := noFragment
  cases kept with
  | @hosted _ parts _ _ _ lower other front settled _ =>
    refine parse_keySet_hosted lower other front ?_ settled rfl
    intro special
    have host := front.host
    rw [special] at host
    have named : parts.host ≠ ownHost := by
      intro unnamed
      rw [unnamed] at host
      exact host.text_ne_nil rfl
    exact steady.foreign parts.host (host_keySet rfl named) special
  | file place encoded _ first => exact parse_keySet_file place encoded first rfl steady
  | rooted lower other settled _ => exact parse_keySet_rooted lower other settled rfl
  | taken lower other plain whole first =>
    exact parse_keySet_taken lower other plain whole first rfl

end Url

end BearerGate
