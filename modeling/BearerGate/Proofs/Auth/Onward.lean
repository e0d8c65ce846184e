import BearerGate.Proofs.Auth.Outcome
import BearerGate.Proofs.Token.Backing

/-!
# Tokens from service to service

A request carries the token that its first authorization field holds, and a service that has
accepted a token hands on that very token.

The field that is read must be plain text (`FieldValue.Carries`), while a field that is written may
hold any byte but a control character. What joins the two is that a token can only be read if it
consists of segments and dots, which are plain (`ReadToken.IsOf.isVisible`). So the token passes on
as it is, and a service with the same keys, clock and leeway accepts it with the same claims.
-/

namespace BearerGate

variable {τ ρ : Type}

/-! ## The token that headers carry -/

/-- `value` is the first authorization field among those given, whose names may be in any case. -/
def FirstAuthorization (fields : List (String × FieldValue)) (value : FieldValue) : Prop :=
  ∃ earlier name later, fields = earlier ++ (name, value) :: later ∧
    Text.lowerText name = "authorization" ∧
    ∀ field ∈ earlier, Text.lowerText field.1 ≠ "authorization"

/-- The value of a field carries a token: it is printable ASCII and tabs, and consists of the word
`bearer` in any case, one space, and the token, which is not empty. -/
structure FieldValue.Carries (value : FieldValue) (token : String) : Prop where
  plain : ∀ b ∈ value, 0x20 ≤ b.toNat ∧ b.toNat ≤ 0x7E ∨ b.toNat = 0x09
  text : ∃ scheme, Text.lowerText scheme = "bearer" ∧
    value = Text.Utf8.encode (scheme ++ " " ++ token)
  notEmpty : token ≠ ""

theorem Headers.first?_ofList_eq_some_iff {fields : List (String × FieldValue)}
    {value : FieldValue} :
    (ofList fields).first? authorizationName = some value ↔ FirstAuthorization fields value := by
  unfold first? ofList
  rw [List.lookup_eq_some_iff]
  constructor
  · rintro ⟨front, back, split, others⟩
    obtain ⟨earlier, rest, rfl, rfl, from_here⟩ := List.map_eq_append_iff.mp split
    obtain ⟨⟨name, value'⟩, later, rfl, here, rfl⟩ := List.map_eq_cons_iff.mp from_here
    obtain ⟨named, rfl⟩ := Prod.mk.inj here
    refine ⟨earlier, name, later, rfl, named, fun field member same => ?_⟩
    have other := others _ (List.mem_map_of_mem member)
    rw [same] at other
    exact bne_iff_ne.mp other rfl
  · rintro ⟨earlier, name, later, rfl, named, others⟩
    refine ⟨_, _, by rw [List.map_append, List.map_cons, named]; rfl, ?_⟩
    intro field member
    obtain ⟨given, among, rfl⟩ := List.mem_map.mp member
    exact bne_iff_ne.mpr fun same => others given among same.symm

theorem FieldValue.isVisible_iff {b : UInt8} :
    isVisible b = true ↔ 0x20 ≤ b.toNat ∧ b.toNat ≤ 0x7E ∨ b.toNat = 0x09 := by
  unfold isVisible
  simp [UInt8.le_iff_toNat_le, ← UInt8.toNat_inj]

theorem FieldValue.visibleText?_eq_some_iff {value : FieldValue} {text : String} :
    value.visibleText? = some text ↔
      (∀ b ∈ value, isVisible b = true) ∧ value = Text.Utf8.encode text := by
  have read (visible : ∀ b ∈ value, isVisible b = true) :
      value = Text.Utf8.encode text ↔ text.toList = value.map Text.Utf8.charOfByte := by
    rw [eq_comm]
    refine Text.Utf8.flatMap_encodeChar_eq_iff fun b member => ?_
    have bounds := isVisible_iff.mp (visible b member)
    omega
  unfold visibleText?
  rw [Option.ite_none_right_eq_some, List.all_eq_true]
  refine and_congr_right fun visible => ?_
  rw [read visible, Option.some_inj, ← String.toList_inj, String.toList_ofList]
  exact eq_comm

theorem Text.blank_not_mem_of_lowerText {scheme : String}
    (lower : lowerText scheme = "bearer") : ' ' ∉ scheme.toList := by
  intro found
  have kept : ' ' ∈ (lowerText scheme).toList := by
    unfold lowerText
    rw [String.toList_ofList]
    exact List.mem_map_of_mem found
  rw [lower] at kept
  exact absurd kept (by decide)

theorem Headers.tokenOfText?_eq_some_iff {text token : String} :
    tokenOfText? text = some token ↔
      token ≠ "" ∧ ∃ scheme, Text.lowerText scheme = "bearer" ∧ text = scheme ++ " " ++ token := by
  unfold tokenOfText?
  constructor
  · intro read
    obtain ⟨⟨scheme, rest⟩, parts, read⟩ := Option.bind_eq_some_iff.mp read
    dsimp only at read
    split at read
    · cases read
    · next fits =>
      cases read
      obtain ⟨written, -⟩ := Text.splitOnce_eq_some_iff.mp parts
      rw [not_or, Decidable.not_not] at fits
      refine ⟨?_, String.ofList scheme, fits.2, ?_⟩
      · intro nothing
        rw [String.ofList_eq_empty_iff] at nothing
        exact fits.1 (List.isEmpty_iff.mpr nothing)
      · rw [← String.toList_inj, written]
        simp
  · rintro ⟨notEmpty, scheme, lower, rfl⟩
    have parts : Text.splitOnce ' ' (scheme ++ " " ++ token).toList =
        some (scheme.toList, token.toList) := by
      rw [Text.splitOnce_eq_some_iff]
      exact ⟨by simp, Text.blank_not_mem_of_lowerText lower⟩
    have fits : ¬ (token.toList.isEmpty = true ∨
        Text.lowerText (String.ofList scheme.toList) ≠ bearerScheme) := by
      rw [String.ofList_toList, List.isEmpty_iff, String.toList_eq_nil_iff]
      exact not_or.mpr ⟨notEmpty, not_not_intro lower⟩
    rw [parts]
    change (if _ then none else some (String.ofList token.toList)) = some token
    rw [if_neg fits, String.ofList_toList]

/-- The token of a request is the one that its first authorization field carries. -/
theorem Headers.bearerToken_eq_ok_iff {fields : List (String × FieldValue)} {token : String} :
    (ofList fields).bearerToken = .ok token ↔
      ∃ value, FirstAuthorization fields value ∧ value.Carries token := by
  have read : (ofList fields).bearerToken = .ok token ↔
      (((ofList fields).first? authorizationName).bind FieldValue.visibleText?).bind tokenOfText? =
        some token := by
    unfold bearerToken
    split
    · next found =>
      rw [found]
      simp
    · next missing =>
      rw [missing]
      simp
  rw [read]
  simp only [Option.bind_eq_some_iff, first?_ofList_eq_some_iff,
    FieldValue.visibleText?_eq_some_iff, tokenOfText?_eq_some_iff]
  constructor
  · rintro ⟨text, ⟨value, first, visible, rfl⟩, notEmpty, scheme, lower, rfl⟩
    exact ⟨_, first, fun b member => FieldValue.isVisible_iff.mp (visible b member),
      ⟨scheme, lower, rfl⟩, notEmpty⟩
  · rintro ⟨value, first, plain, ⟨scheme, lower, rfl⟩, notEmpty⟩
    exact ⟨_, ⟨_, first, fun b member => FieldValue.isVisible_iff.mpr (plain b member), rfl⟩,
      notEmpty, scheme, lower, rfl⟩

/-! ## Tokens that can be read are plain text -/

theorem Base64Url.isVisible_symbol (bits : Nat) : FieldValue.isVisible (symbol bits) = true := by
  by_cases bound : bits < 64
  · revert bits
    decide
  · rw [symbol, if_neg (by omega), if_neg (by omega), if_neg (by omega), if_neg (by omega)]
    decide

open TokenSegments in
theorem ReadToken.IsOf.isVisible {read : ReadToken} {token : String} (reads : read.IsOf token) :
    ∀ b ∈ Text.Utf8.encode token, FieldValue.isVisible b = true := by
  have ofSegment {bytes : List UInt8} {c : Char} (found : c ∈ segmentText bytes) :
      ∀ b ∈ Text.Utf8.encodeChar c, FieldValue.isVisible b = true := by
    obtain ⟨byte, member, rfl⟩ := List.mem_map.mp found
    obtain ⟨bits, rfl⟩ := Base64Url.exists_symbol_of_mem_encode member
    rw [Text.Utf8.encodeChar_charOfByte (Base64Url.symbol_plain bits).1]
    intro b same
    rw [List.mem_singleton.mp same]
    exact Base64Url.isVisible_symbol bits
  have ofDot : ∀ b ∈ Text.Utf8.encodeChar '.', FieldValue.isVisible b = true :=
    List.all_eq_true.mp (by decide)
  intro b member
  obtain ⟨c, among, member⟩ := List.mem_flatMap.mp member
  rw [reads.text, compactText, signedText] at among
  simp only [List.mem_append, List.mem_cons] at among
  rcases among with (header | rfl | payload) | rfl | signature
  · exact ofSegment header b member
  · exact ofDot b member
  · exact ofSegment payload b member
  · exact ofDot b member
  · exact ofSegment signature b member

theorem ReadToken.IsOf.ne_empty {read : ReadToken} {token : String} (reads : read.IsOf token) :
    token ≠ "" := by
  rintro rfl
  have text := reads.text
  simp [TokenSegments.compactText] at text

/-- The value that is handed on carries the token. -/
theorem ReadToken.IsOf.carries {read : ReadToken} {token : String} (reads : read.IsOf token) :
    FieldValue.Carries (Text.Utf8.encode ("Bearer " ++ token)) token := by
  have ofScheme : ∀ b ∈ Text.Utf8.encode "Bearer ", FieldValue.isVisible b = true :=
    List.all_eq_true.mp (by decide)
  refine ⟨fun b member => FieldValue.isVisible_iff.mp ?_, ⟨"Bearer", by decide, rfl⟩,
    reads.ne_empty⟩
  rw [Text.Utf8.encode, String.toList_append, List.flatMap_append] at member
  rcases List.mem_append.mp member with scheme | rest
  · exact ofScheme b scheme
  · exact reads.isVisible b rest

/-- Plain text may be written in a field. -/
theorem FieldValue.Carries.isAllowed {value : FieldValue} {token : String}
    (carries : value.Carries token) : value.all isAllowed = true := by
  refine List.all_eq_true.mpr fun b member => ?_
  have plain := carries.plain b member
  simp only [FieldValue.isAllowed, Bool.or_eq_true, Bool.and_eq_true, decide_eq_true_eq,
    UInt8.le_iff_toNat_le, ne_eq, ← UInt8.toNat_inj]
  change 0x20 ≤ b.toNat ∧ ¬ b.toNat = 0x7F ∨ b.toNat = 0x09
  omega

theorem ReadToken.IsOf.bearerField? {read : ReadToken} {token : String} (reads : read.IsOf token) :
    bearerField? token = some (Text.Utf8.encode ("Bearer " ++ token)) :=
  if_pos reads.carries.isAllowed

/-! ## Handing a token on -/

namespace Authenticator

theorem verify_fst_eq_ok_iff {authenticator : Authenticator} {headers : Headers} {world : World τ}
    {info : AuthInfo} :
    (authenticator.verify headers world).1 = .ok info ↔
      headers.bearerToken = .ok info.token ∧
        authenticator.accessClaims info.token world = .ok info.claims := by
  rw [← records_authenticated_iff, records_iff_eq_verify]
  cases (authenticator.verify headers world).1 with
  | ok found => simp [AuthState.ofResult, eq_comm]
  | error failure => simp [AuthState.ofResult]

/-- Services agree on every token if they have the same clock, leeway and keys. -/
theorem accessClaims_eq_of_alike {authenticator onward : Authenticator} {world : World τ}
    {other : World ρ} (now : other.now = world.now) (leeway : onward.leeway = authenticator.leeway)
    (keys : ∀ id, (World.resolve onward.provider id other).1 =
      (World.resolve authenticator.provider id world).1) (token : String) :
    onward.accessClaims token other = authenticator.accessClaims token world := by
  unfold accessClaims
  rw [now, leeway]
  exact validateToken_fst_congr keys

theorem isOf_of_accessClaims {authenticator : Authenticator} {token : String} {world : World τ}
    {claims : Claims} (accepted : authenticator.accessClaims token world = .ok claims) :
    ∃ read : ReadToken, read.IsOf token := by
  cases validated : validateToken (World.resolve authenticator.provider) world.now.second
      authenticator.leeway token accessTokenType world with
  | mk result after =>
    rw [accessClaims, validated] at accepted
    dsimp only at accepted
    subst accepted
    obtain ⟨names, verdict⟩ := verdict_of_validateToken_eq validated
    cases verdict with
    | accepted asks => exact ⟨_, asks.reads⟩

end Authenticator

theorem Context.outgoingBearer_of_authenticated {context : Context} {info : AuthInfo}
    (carried : context.authState = .authenticated info) {value : FieldValue}
    (written : bearerField? info.token = some value) : context.outgoingBearer = .ok value := by
  unfold outgoingBearer authInfo
  rw [carried]
  simp only [AuthState.result, written]

/-- Headers carry the token that stands in their first authorization field, in plain text behind the
word `bearer` in any case and one space, and no token otherwise. A token that a service accepts is
handed on by every context that tells of it, is read unchanged by the service that it is handed to,
and is accepted there with the same claims if keys, clock and leeway are the same. -/
theorem bearerToken_round_trip :
    (∀ fields token, (Headers.ofList fields).bearerToken = .ok token ↔
      ∃ value, FirstAuthorization fields value ∧ value.Carries token) ∧
    (∀ fields failure, (Headers.ofList fields).bearerToken = .error failure ↔
      failure = .noToken ∧
        ¬ ∃ token value, FirstAuthorization fields value ∧ FieldValue.Carries value token) ∧
    ∀ {τ ρ : Type} (authenticator : Authenticator) (headers : Headers) (world : World τ)
      (info : AuthInfo), (authenticator.verify headers world).1 = .ok info →
      ∃ value,
        (∀ context : Context, context.authState = .authenticated info →
          context.outgoingBearer = .ok value) ∧
        ∀ fields, FirstAuthorization fields value →
          (Headers.ofList fields).bearerToken = .ok info.token ∧
          ∀ (onward : Authenticator) (other : World ρ), other.now = world.now →
            onward.leeway = authenticator.leeway →
            (∀ id, (World.resolve onward.provider id other).1 =
              (World.resolve authenticator.provider id world).1) →
            (onward.verify (Headers.ofList fields) other).1 = .ok info := by
  refine ⟨fun fields token => Headers.bearerToken_eq_ok_iff, ?_, ?_⟩
  · intro fields failure
    constructor
    · intro missing
      refine ⟨Headers.bearerToken_error missing, ?_⟩
      rintro ⟨token, carried⟩
      rw [Headers.bearerToken_eq_ok_iff.mpr carried] at missing
      cases missing
    · rintro ⟨rfl, missing⟩
      cases outcome : (Headers.ofList fields).bearerToken with
      | error failure => rw [Headers.bearerToken_error outcome]
      | ok token => exact (missing ⟨token, Headers.bearerToken_eq_ok_iff.mp outcome⟩).elim
  · intro τ ρ authenticator headers world info accepted
    obtain ⟨-, validated⟩ := Authenticator.verify_fst_eq_ok_iff.mp accepted
    -- Whatever the field held, a token that was accepted could be read, and so is plain.
    obtain ⟨read, reads⟩ := Authenticator.isOf_of_accessClaims validated
    refine ⟨_, fun context carried =>
      context.outgoingBearer_of_authenticated carried reads.bearerField?, ?_⟩
    intro fields first
    have carried := Headers.bearerToken_eq_ok_iff.mpr ⟨_, first, reads.carries⟩
    refine ⟨carried, fun onward other now leeway keys => ?_⟩
    rw [Authenticator.verify_fst_eq_ok_iff, Authenticator.accessClaims_eq_of_alike now leeway keys]
    exact ⟨carried, validated⟩

/-- A world whose only source of keys has the sample key. -/
def sampleWorld : World Unit where
  now := .epoch
  bags := .new fun _ => "id"
  providers := [.fixed (.mk [sampleKey] .empty none) 0]
  endpointAt _ := .drops
  registry := .empty
  log := []
  trace := ()

/-- The fields of a request with two authorization fields, of which the first carries the sample
token. -/
def sampleFields : List (String × FieldValue) :=
  [("Accept", Text.Utf8.encode "*/*"),
    ("AUTHORIZATION", Text.Utf8.encode ("bEARER " ++ sampleToken)),
    ("Authorization", Text.Utf8.encode "Bearer other")]

theorem bearerToken_round_trip_sample :
    ∃ info value,
      ((Authenticator.mk 0 60 Authenticator.annotateIdentity).verify
        (Headers.ofList sampleFields) sampleWorld).1 = .ok info ∧
      ((Context.empty.withAuth (.ok info)).put .status 200).outgoingBearer = .ok value ∧
      ((Authenticator.mk 0 60 Authenticator.annotateIdentity).verify
        (Headers.ofList [("Authorization", value), ("authorization", [])]) sampleWorld).1 =
          .ok info := by
  obtain ⟨-, -, onwards⟩ := bearerToken_round_trip
  have passes : ((Authenticator.mk 0 60 Authenticator.annotateIdentity).verify
      (Headers.ofList sampleFields) sampleWorld).1.isOk = true := by decide +kernel
  obtain ⟨info, accepted⟩ := exists_eq_ok_of_isOk passes
  obtain ⟨value, written, handed⟩ := onwards _ _ _ _ accepted
  obtain ⟨-, again⟩ := handed [("Authorization", value), ("authorization", [])]
    ⟨[], _, _, rfl, by decide, by simp⟩
  exact ⟨info, value, accepted, written _ rfl, again _ sampleWorld rfl rfl fun id => rfl⟩

end BearerGate
