import BearerGate.Auth.Authenticator
import BearerGate.Proofs.Token.Verdict

/-!
# The outcome of authentication

What is recorded about a request depends on its headers, the clock and the sources of keys alone.
There is always an outcome, and it says which of four things happened (`Authenticator.Records`).
-/

namespace BearerGate

variable {τ : Type}

/-! ## Reading the headers -/

theorem Headers.bearerToken_error {headers : Headers} {failure : AuthFailure}
    (missing : headers.bearerToken = .error failure) : failure = .noToken := by
  unfold bearerToken at missing
  split at missing
  · cases missing
  · cases missing
    rfl

/-! ## Validating the token -/

namespace Authenticator

/-- The claims of an access token in a world, or why it is rejected. -/
def accessClaims (authenticator : Authenticator) (token : String) (world : World τ) :
    Except TokenRejection Claims :=
  (validateToken (World.resolve authenticator.provider) world.now.second authenticator.leeway token
    accessTokenType world).1

/-- Worlds with the same clock and the same sources of keys agree on every token. -/
theorem accessClaims_congr {authenticator : Authenticator} {token : String} {world other : World τ}
    (now : other.now = world.now) (providers : other.providers = world.providers) :
    authenticator.accessClaims token other = authenticator.accessClaims token world := by
  unfold accessClaims
  rw [now]
  apply validateToken_fst_congr
  intro id
  simp only [World.resolve, World.provider, now, providers]

/-- A token is rejected for want of keys just when it asks for a key and the source fails, other
than by not knowing the name. -/
theorem accessClaims_eq_keysUnavailable_iff {authenticator : Authenticator} {token : String}
    {world : World τ} {failure : KeyFailure} :
    authenticator.accessClaims token world = .error (.keysUnavailable failure) ↔
      ∃ read algorithm id, AsksFor token accessTokenType read algorithm id ∧
        (World.resolve authenticator.provider id world).1 = .error failure ∧
        ∀ missing, failure ≠ .notFound missing := by
  constructor
  · intro rejected
    cases validated : validateToken (World.resolve authenticator.provider) world.now.second
        authenticator.leeway token accessTokenType world with
    | mk result after =>
      rw [accessClaims, validated] at rejected
      dsimp only at rejected
      subst rejected
      obtain ⟨names, verdict⟩ := verdict_of_validateToken_eq validated
      cases verdict with
      | @unavailable read algorithm id failure after asks failed other =>
        exact ⟨read, algorithm, id, asks, by rw [failed], other⟩
  · rintro ⟨read, algorithm, id, asks, failed, other⟩
    have looked : World.resolve authenticator.provider id world =
        (.error failure, (World.resolve authenticator.provider id world).2) := by
      rw [← failed]
    have verdict : Verdict (World.resolve authenticator.provider) world.now.second
        authenticator.leeway token accessTokenType world _ _ _ := .unavailable asks looked other
    rw [accessClaims, verdict.validateToken_eq]

/-! ## What is recorded -/

/-- The outcome of authentication for a request with the given headers. -/
inductive Records (authenticator : Authenticator) (headers : Headers) (world : World τ) :
    AuthState → Prop
  | noToken (missing : headers.bearerToken = .error .noToken) :
    Records authenticator headers world (.failed .noToken)
  | rejected {token : String} {fault : TokenFault} (carried : headers.bearerToken = .ok token)
    (rejected : authenticator.accessClaims token world = .error (.invalid fault)) :
    Records authenticator headers world (.failed (.invalidToken fault))
  | outage {token : String} {failure : KeyFailure} (carried : headers.bearerToken = .ok token)
    (outage : authenticator.accessClaims token world = .error (.keysUnavailable failure)) :
    Records authenticator headers world (.failed (.keysUnavailable failure))
  | authenticated {token : String} {claims : Claims} (carried : headers.bearerToken = .ok token)
    (accepted : authenticator.accessClaims token world = .ok claims) :
    Records authenticator headers world (.authenticated ⟨token, claims⟩)

variable {authenticator : Authenticator} {headers : Headers} {world other : World τ}

theorem Records.congr {state : AuthState} (now : other.now = world.now)
    (providers : other.providers = world.providers)
    (records : authenticator.Records headers other state) :
    authenticator.Records headers world state := by
  have same : ∀ token,
      authenticator.accessClaims token other = authenticator.accessClaims token world :=
    fun token => accessClaims_congr now providers
  cases records with
  | noToken missing => exact .noToken missing
  | rejected carried rejected => exact .rejected carried (by rw [← same]; exact rejected)
  | outage carried outage => exact .outage carried (by rw [← same]; exact outage)
  | authenticated carried accepted => exact .authenticated carried (by rw [← same]; exact accepted)

theorem Records.ne_notPresent {state : AuthState}
    (records : authenticator.Records headers world state) : state ≠ .notPresent := by
  rintro rfl
  cases records

/-- Claims are recorded just for the token that the headers carry, if it is accepted. -/
theorem records_authenticated_iff {info : AuthInfo} :
    authenticator.Records headers world (.authenticated info) ↔
      headers.bearerToken = .ok info.token ∧
        authenticator.accessClaims info.token world = .ok info.claims := by
  constructor
  · intro records
    cases records with
    | authenticated carried accepted => exact ⟨carried, accepted⟩
  · rintro ⟨carried, accepted⟩
    exact .authenticated carried accepted

/-! ## The recorded outcome is that of the headers -/

theorem verify_fst (authenticator : Authenticator) (headers : Headers) (world : World τ) :
    (authenticator.verify headers world).1 =
      match headers.bearerToken with
      | .error failure => .error failure
      | .ok token =>
        match authenticator.accessClaims token world with
        | .error rejection => .error (.ofRejection rejection)
        | .ok claims => .ok ⟨token, claims⟩ := by
  unfold verify accessClaims
  cases headers.bearerToken with
  | error failure => rfl
  | ok token =>
    dsimp only
    cases validateToken (World.resolve authenticator.provider) world.now.second
        authenticator.leeway token accessTokenType world with
    | mk result after =>
      cases result with
      | ok claims => rfl
      | error rejection => rfl

/-- A request has one outcome, that of verifying its headers. -/
theorem records_iff_eq_verify {state : AuthState} :
    authenticator.Records headers world state ↔
      state = .ofResult (authenticator.verify headers world).1 := by
  rw [verify_fst]
  constructor
  · intro records
    cases records with
    | noToken missing =>
      rw [missing]
      rfl
    | rejected carried rejected =>
      simp only [carried, rejected]
      rfl
    | outage carried outage =>
      simp only [carried, outage]
      rfl
    | authenticated carried accepted =>
      simp only [carried, accepted]
      rfl
  · rintro rfl
    cases carried : headers.bearerToken with
    | error failure =>
      obtain rfl := Headers.bearerToken_error carried
      exact .noToken carried
    | ok token =>
      dsimp only
      cases outcome : authenticator.accessClaims token world with
      | ok claims => exact .authenticated carried outcome
      | error rejection =>
        cases rejection with
        | invalid fault => exact .rejected carried outcome
        | keysUnavailable failure => exact .outage carried outcome

theorem Records.unique {state state' : AuthState}
    (here : authenticator.Records headers world state)
    (there : authenticator.Records headers world state') : state = state' := by
  rw [records_iff_eq_verify] at here there
  rw [here, there]

theorem authenticate_authState (authenticator : Authenticator) (context : Context)
    (headers : Headers) (world : World τ) :
    (authenticator.authenticate context (some headers) world).1.authState =
      .ofResult (authenticator.verify headers world).1 := by
  unfold authenticate
  dsimp only
  cases authenticator.verify headers world with
  | mk result after =>
    cases result with
    | ok info => rfl
    | error failure => rfl

/-- The context that a request goes on with tells the outcome. -/
theorem authenticate_records (authenticator : Authenticator) (context : Context)
    (headers : Headers) (world : World τ) :
    authenticator.Records headers world
      (authenticator.authenticate context (some headers) world).1.authState := by
  rw [records_iff_eq_verify]
  exact authenticator.authenticate_authState context headers world

/-! ## What else becomes of the world -/

theorem verify_snd_registry (authenticator : Authenticator) (headers : Headers)
    (world : World τ) : (authenticator.verify headers world).2.registry = world.registry := by
  unfold verify
  cases headers.bearerToken with
  | error failure => rfl
  | ok token =>
    have kept : (validateToken (World.resolve authenticator.provider) world.now.second
        authenticator.leeway token accessTokenType world).2.registry = world.registry := by
      rw [validateToken_snd]
      split
      · rfl
      · rfl
    dsimp only
    rw [← kept]
    split
    next validated => rw [validated]
    next validated => rw [validated]

theorem authenticate_eq (authenticator : Authenticator) (context : Context) (headers : Headers)
    (world : World τ) :
    ∃ bags, authenticator.authenticate context (some headers) world =
      (context.withAuth (authenticator.verify headers world).1,
        { (authenticator.verify headers world).2 with bags }) := by
  unfold authenticate
  dsimp only
  cases authenticator.verify headers world with
  | mk result after =>
    cases result with
    | ok info => exact ⟨_, rfl⟩
    | error failure => exact ⟨_, rfl⟩

/-- The claims that are verified for a request are those of the world as far as its clock and its
sources of keys go. -/
theorem verify_fst_congr (now : other.now = world.now)
    (providers : other.providers = world.providers) :
    (authenticator.verify headers other).1 = (authenticator.verify headers world).1 := by
  have same : ∀ token,
      authenticator.accessClaims token other = authenticator.accessClaims token world :=
    fun token => accessClaims_congr now providers
  simp only [verify_fst, same]

end Authenticator

end BearerGate
