import BearerGate.Proofs.Token.Forward

/-!
# When a token is in force

The bounds of the time in which claims are in force, and what they mean for a token: one that passes
every other check is accepted at the seconds of one interval and at no others
(`PassesButWindow.validateToken_eq_ok_iff`). The interval goes from the later of the two times from
which the claims count to the time at which they end, and the leeway widens it on both sides.

The bounds are sums of 64 bits that stop at the ends of the range, and they stand for the exact
sums: a bound that stops lies beyond every time that it is compared with. A greater leeway never
moves a bound inwards, and it changes nothing about the other checks
(`validateToken_eq_of_larger_leeway`).
-/

namespace BearerGate

/-! ## Bounds in exact numbers -/

theorem tolerance_nonneg (leeway : Nat) : 0 ≤ tolerance leeway := by
  have greatest : (0 : Int) ≤ int64Greatest := by decide
  unfold tolerance
  omega

theorem tolerance_mono {leeway larger : Nat} (wider : leeway ≤ larger) :
    tolerance leeway ≤ tolerance larger := by
  unfold tolerance
  omega

theorem saturatingSub_toInt (now : Int64) (leeway : Nat) :
    (saturatingSub now (saturate leeway)).toInt =
      max int64Least (now.toInt - tolerance leeway) := by
  have greatest : int64Greatest = 2 ^ 63 - 1 := rfl
  -- The tolerance is not negative, so a difference can pass the lower end of the range only.
  have upper := now.toInt_lt
  have positive := tolerance_nonneg leeway
  rw [saturatingSub, saturate_leeway, saturate_toInt]
  omega

theorem saturatingAdd_toInt (now : Int64) (leeway : Nat) :
    (saturatingAdd now (saturate leeway)).toInt =
      min int64Greatest (now.toInt + tolerance leeway) := by
  have least : int64Least = -2 ^ 63 := rfl
  have greatest : int64Greatest = 2 ^ 63 - 1 := rfl
  have lower := now.le_toInt
  have positive := tolerance_nonneg leeway
  rw [saturatingAdd, saturate_leeway, saturate_toInt]
  omega

namespace Claims

variable {claims : Claims} {now : Int64} {leeway larger : Nat}

/-! ## The window of claims -/

theorem windowFault?_cases (claims : Claims) (now : Int64) (leeway : Nat) :
    (claims.Expired now leeway ∧ claims.windowFault? now leeway = some .expired) ∨
      (¬ claims.Expired now leeway ∧ claims.NotYetValid now leeway ∧
        claims.windowFault? now leeway = some .notYetValid) ∨
      (¬ claims.Expired now leeway ∧ ¬ claims.NotYetValid now leeway ∧
        claims.windowFault? now leeway = none) := by
  by_cases expired : claims.Expired now leeway
  · exact .inl ⟨expired, windowFault?_of_expired expired⟩
  by_cases early : claims.NotYetValid now leeway
  · exact .inr (.inl ⟨expired, early, windowFault?_of_notYetValid expired early⟩)
  · exact .inr (.inr ⟨expired, early, windowFault?_of_inForce expired early⟩)

theorem windowFault?_eq_expired_iff :
    claims.windowFault? now leeway = some .expired ↔ claims.Expired now leeway := by
  rcases windowFault?_cases claims now leeway with
    ⟨expired, fault⟩ | ⟨running, -, fault⟩ | ⟨running, -, fault⟩
  · simp only [fault, expired]
  · simp [fault, running]
  · simp [fault, running]

theorem windowFault?_eq_notYetValid_iff :
    claims.windowFault? now leeway = some .notYetValid ↔
      ¬ claims.Expired now leeway ∧ claims.NotYetValid now leeway := by
  rcases windowFault?_cases claims now leeway with
    ⟨expired, fault⟩ | ⟨running, early, fault⟩ | ⟨running, begun, fault⟩
  · simp [fault, expired]
  · simp [fault, running, early]
  · simp [fault, begun]

theorem windowFault?_eq_none_iff :
    claims.windowFault? now leeway = none ↔
      ¬ claims.Expired now leeway ∧ ¬ claims.NotYetValid now leeway := by
  rcases windowFault?_cases claims now leeway with
    ⟨expired, fault⟩ | ⟨running, early, fault⟩ | ⟨running, begun, fault⟩
  · simp [fault, expired]
  · simp [fault, early]
  · simp [fault, running, begun]

/-- The second from which on the claims count: the later of the two that they may give. -/
def begins? (claims : Claims) : Option Int :=
  Option.merge max (claims.notBefore.map Int64.toInt) (claims.issuedAt.map Int64.toInt)

/-- The second lies in the interval of the claims, which is open at a side without a bound and
widened by the leeway at the others. -/
structure InForce (claims : Claims) (now : Int64) (leeway : Nat) : Prop where
  begun : ∀ begins, claims.begins? = some begins → begins - tolerance leeway ≤ now.toInt
  running : ∀ ends, claims.expiresAt = some ends → now.toInt ≤ ends.toInt + tolerance leeway

theorem begins?_le_iff {bound : Int} :
    (∀ begins, claims.begins? = some begins → begins ≤ bound) ↔
      ∀ begins, claims.notBefore = some begins ∨ claims.issuedAt = some begins →
        begins.toInt ≤ bound := by
  unfold begins?
  cases claims.notBefore with
  | none =>
    cases claims.issuedAt with
    | none => simp
    | some issued => simp
  | some first =>
    cases claims.issuedAt with
    | none => simp
    | some issued =>
      simp only [Option.map_some, Option.merge_some_some, Option.some.injEq, forall_eq',
        Int.max_le]
      constructor
      · intro bounds begins given
        rcases given with rfl | rfl
        · exact bounds.1
        · exact bounds.2
      · intro bounds
        exact ⟨bounds first (.inl rfl), bounds issued (.inr rfl)⟩

theorem not_notYetValid_iff :
    ¬ claims.NotYetValid now leeway ↔
      ∀ begins, claims.begins? = some begins → begins - tolerance leeway ≤ now.toInt := by
  have moved : ∀ begins : Int, begins - tolerance leeway ≤ now.toInt ↔
      begins ≤ now.toInt + tolerance leeway := by
    intro begins
    omega
  simp only [moved]
  rw [begins?_le_iff]
  unfold NotYetValid
  simp only [not_exists, not_and, Int.not_lt]

theorem not_expired_iff :
    ¬ claims.Expired now leeway ↔
      ∀ ends, claims.expiresAt = some ends → now.toInt ≤ ends.toInt + tolerance leeway := by
  have moved : ∀ ends : Int64, now.toInt ≤ ends.toInt + tolerance leeway ↔
      now.toInt - tolerance leeway ≤ ends.toInt := by
    intro ends
    omega
  unfold Expired
  simp only [not_exists, not_and, Int.not_lt, moved]

theorem inForce_iff :
    claims.InForce now leeway ↔ ¬ claims.Expired now leeway ∧ ¬ claims.NotYetValid now leeway := by
  rw [not_expired_iff, not_notYetValid_iff]
  constructor
  · intro inForce
    exact ⟨inForce.running, inForce.begun⟩
  · intro bounds
    exact ⟨bounds.2, bounds.1⟩

/-- A greater leeway moves the bounds outwards. -/
theorem InForce.widen (wider : leeway ≤ larger) (inForce : claims.InForce now leeway) :
    claims.InForce now larger := by
  have more := tolerance_mono wider
  constructor
  · intro begins found
    have bound := inForce.begun begins found
    omega
  · intro ends found
    have bound := inForce.running ends found
    omega

end Claims

/-! ## The token -/

variable {σ : Type} {source : KeySource σ} {now : Int64} {leeway larger : Nat}
  {token type : String} {state after : σ} {read : ReadToken} {claims : Claims}

/-- The token passes every check but that of its window, with a key that the source gives. -/
inductive PassesButWindow (source : KeySource σ) (token type : String) (state : σ)
    (read : ReadToken) (after : σ) : Prop
  | intro {algorithm : RsaAlgorithm} {id : String} {key : KeyEntry}
    (asks : AsksFor token type read algorithm id) (found : source id state = (.ok key, after))
    (signed : SignedWith read algorithm key) (shaped : read.payloadIsWellShaped = true) :
    PassesButWindow source token type state read after

/-- For the rest the window decides. -/
theorem PassesButWindow.validateToken_eq
    (passes : PassesButWindow source token type state read after) (now : Int64) (leeway : Nat) :
    validateToken source now leeway token type state =
      ((read.claims.windowFault? now leeway).elim (.ok read.claims)
        fun fault => .error (.invalid fault), after) := by
  cases passes with
  | intro asks found signed shaped =>
    rw [validateToken_of_lookup_ok (precheck_of_asksFor asks) found,
      verify_of_signedWith signed shaped]
    cases read.claims.windowFault? now leeway with
    | none => rfl
    | some fault => rfl

theorem PassesButWindow.validateToken_eq_ok_iff
    (passes : PassesButWindow source token type state read after) :
    (validateToken source now leeway token type state).1 = .ok claims ↔
      claims = read.claims ∧ read.claims.InForce now leeway := by
  rw [passes.validateToken_eq, Claims.inForce_iff, ← Claims.windowFault?_eq_none_iff]
  cases read.claims.windowFault? now leeway with
  | none => simp [eq_comm]
  | some fault => simp

/-- An accepted token has passed every other check and is in force. -/
theorem passesButWindow_of_ok
    (accepted : validateToken source now leeway token type state = (.ok claims, after)) :
    ∃ read, PassesButWindow source token type state read after ∧ claims = read.claims ∧
      read.claims.InForce now leeway := by
  rcases verdict_of_validateToken_eq accepted with ⟨names, verdict⟩
  cases verdict with
  | accepted asks found signed shaped running begun =>
    exact ⟨_, .intro asks found signed shaped, rfl, Claims.inForce_iff.mpr ⟨running, begun⟩⟩

theorem validateToken_eq_of_larger_leeway (wider : leeway ≤ larger)
    (accepted : validateToken source now leeway token type state = (.ok claims, after)) :
    validateToken source now larger token type state = (.ok claims, after) := by
  rcases passesButWindow_of_ok accepted with ⟨read, passes, rfl, inForce⟩
  have passed := Claims.windowFault?_eq_none_iff.mpr (Claims.inForce_iff.mp (inForce.widen wider))
  rw [passes.validateToken_eq, passed]
  rfl

/-- The check of the window is that of the exact sums, for every second, leeway and claims, and its
two bounds are the exact sums as far as 64 bits go. So a token that passes all other checks is
accepted at the seconds of its interval and at no others, the two at its ends included, and what is
accepted with one leeway is accepted in the same way with every greater one. -/
theorem validateToken_window (source : KeySource σ) (now : Int64) (leeway : Nat)
    (token type : String) (state : σ) :
    ((saturate leeway).toInt = tolerance leeway ∧
      (saturatingSub now (saturate leeway)).toInt =
        max int64Least (now.toInt - tolerance leeway) ∧
      (saturatingAdd now (saturate leeway)).toInt =
        min int64Greatest (now.toInt + tolerance leeway)) ∧
    (∀ claims : Claims,
      let expired := ∃ ends, claims.expiresAt = some ends ∧
        ends.toInt < now.toInt - tolerance leeway
      let early := ∃ begins, (claims.notBefore = some begins ∨ claims.issuedAt = some begins) ∧
        now.toInt + tolerance leeway < begins.toInt
      (claims.windowFault? now leeway = some .expired ↔ expired) ∧
        (claims.windowFault? now leeway = some .notYetValid ↔ ¬ expired ∧ early) ∧
        (claims.windowFault? now leeway = none ↔ ¬ expired ∧ ¬ early)) ∧
    (∀ read after, PassesButWindow source token type state read after → ∀ claims,
      (validateToken source now leeway token type state).1 = .ok claims ↔
        claims = read.claims ∧
          (∀ begins, read.claims.begins? = some begins →
            begins - tolerance leeway ≤ now.toInt) ∧
          ∀ ends, read.claims.expiresAt = some ends →
            now.toInt ≤ ends.toInt + tolerance leeway) ∧
    ∀ larger, leeway ≤ larger → ∀ claims after,
      validateToken source now leeway token type state = (.ok claims, after) →
        validateToken source now larger token type state = (.ok claims, after) := by
  refine ⟨⟨saturate_leeway leeway, saturatingSub_toInt now leeway, saturatingAdd_toInt now leeway⟩,
    ?_, ?_, ?_⟩
  · intro claims expired early
    exact ⟨Claims.windowFault?_eq_expired_iff, Claims.windowFault?_eq_notYetValid_iff,
      Claims.windowFault?_eq_none_iff⟩
  · intro read after passes claims
    rw [passes.validateToken_eq_ok_iff]
    constructor
    · rintro ⟨same, inForce⟩
      exact ⟨same, inForce.begun, inForce.running⟩
    · rintro ⟨same, begun, running⟩
      exact ⟨same, ⟨begun, running⟩⟩
  · intro larger wider claims after accepted
    exact validateToken_eq_of_larger_leeway wider accepted

/-- A token that counts from 100 to 200 is accepted from 90 to 210 if the leeway is ten. -/
theorem validateToken_window_datedToken :
    let source : KeySource KeyManager :=
      fun id manager => manager.resolve (Turn.still (.ofSeconds 150)) id
    let manager := KeyManager.new (.answers 200 KeyManager.datedDocument) (.ofSeconds 600)
    ∀ now : Int64,
      (∃ claims, (validateToken source now 10 KeyManager.datedToken accessTokenType manager).1 =
        .ok claims) ↔ 90 ≤ now.toInt ∧ now.toInt ≤ 210 := by
  intro source manager now
  have dates : (validateToken source 150 10 KeyManager.datedToken accessTokenType
      manager).1.toOption.map (fun claims => (claims.begins?, claims.expiresAt)) =
        some (some 100, some 200) := by
    decide +kernel
  have ten : tolerance 10 = 10 := by decide
  have ends : (200 : Int64).toInt = 200 := by decide
  cases judged : validateToken source 150 10 KeyManager.datedToken accessTokenType manager with
  | mk verdict after =>
    rw [judged] at dates
    cases verdict with
    | error rejection => cases dates
    | ok claims =>
      simp only [Except.toOption, Option.map_some, Option.some.injEq, Prod.mk.injEq] at dates
      rcases passesButWindow_of_ok judged with ⟨read, passes, rfl, -⟩
      have window := (validateToken_window source now 10 KeyManager.datedToken accessTokenType
        manager).2.2.1 read after passes
      simp only [window, dates, Option.some.injEq, forall_eq', ten, ends, exists_eq_left]
      constructor
      · intro within
        omega
      · intro within
        omega

end BearerGate
