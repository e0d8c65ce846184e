import BearerGate.Proofs.Token.Backing

/-!
# Verdicts move forward

What an earlier verdict on a token says about a later one. Keys are rotated and cannot be had for a
while, so a token may be accepted, rejected and accepted again. But what is read in a token stays
the same, and the window of its claims is passed through in one direction: a token that has expired
does not come to life again, and one that has been accepted was readable and in force from then on.

The checks are taken apart for this. `Verdict` tells which of them a verdict goes back to: those
that look at the token alone have the same outcome for ever, and those that look at the clock are
monotone in it. What remains is the keys, about which nothing is assumed.
-/

namespace BearerGate

/-! ## Time goes on -/

/-- A clock that is not set back does not show an earlier second. -/
theorem Instant.second_toInt_mono {t u : Instant} (le : t ≤ u) :
    t.second.toInt ≤ u.second.toInt := by
  have order : t.nanos ≤ u.nanos := le
  have seconds : t.seconds ≤ u.seconds := by
    unfold Instant.seconds nanosPerSecond
    rw [Int.fdiv_eq_ediv_of_nonneg _ (by decide), Int.fdiv_eq_ediv_of_nonneg _ (by decide)]
    omega
  unfold Instant.second
  rw [saturate_toInt, saturate_toInt]
  omega

namespace Claims

variable {claims : Claims} {now later : Int64} {leeway : Nat}

theorem Expired.stays (le : now.toInt ≤ later.toInt) (expired : claims.Expired now leeway) :
    claims.Expired later leeway := by
  obtain ⟨ends, found, past⟩ := expired
  exact ⟨ends, found, by omega⟩

theorem NotYetValid.was (le : now.toInt ≤ later.toInt)
    (early : claims.NotYetValid later leeway) : claims.NotYetValid now leeway := by
  obtain ⟨begins, found, ahead⟩ := early
  exact ⟨begins, found, by omega⟩

end Claims

/-! ## What a verdict goes back to -/

variable {σ ρ : Type} {source : KeySource σ} {now : Int64} {leeway : Nat} {token type : String}
  {state after : σ} {names : List String}

theorem AsksFor.read_eq {read other : ReadToken} {algorithm algorithm' : RsaAlgorithm}
    {id id' : String} (here : AsksFor token type read algorithm id)
    (there : AsksFor token type other algorithm' id') : other = read :=
  there.reads.unique here.reads

namespace Verdict

theorem of_validateToken {result : Except TokenRejection Claims}
    (given : (validateToken source now leeway token type state).1 = result) :
    ∃ names, Verdict source now leeway token type state result names
      (validateToken source now leeway token type state).2 :=
  verdict_of_validateToken_eq (Prod.ext given rfl)

theorem of_expired
    (verdict : Verdict source now leeway token type state (.error (.invalid .expired)) names
      after) :
    ∃ read algorithm id, AsksFor token type read algorithm id ∧
      read.claims.Expired now leeway := by
  cases verdict with
  | expired asks found signed shaped expired => exact ⟨_, _, _, asks, expired⟩

theorem of_notYetValid
    (verdict : Verdict source now leeway token type state (.error (.invalid .notYetValid)) names
      after) :
    ∃ read algorithm id, AsksFor token type read algorithm id ∧
      ¬ read.claims.Expired now leeway ∧ read.claims.NotYetValid now leeway := by
  cases verdict with
  | notYetValid asks found signed shaped running early =>
    exact ⟨_, _, _, asks, running, early⟩

theorem of_ok {claims : Claims}
    (verdict : Verdict source now leeway token type state (.ok claims) names after) :
    ∃ read algorithm id, AsksFor token type read algorithm id ∧
      read.headerIsWellShaped = true ∧ read.payloadIsWellShaped = true ∧
      ¬ read.claims.Expired now leeway ∧ ¬ read.claims.NotYetValid now leeway ∧
      claims = read.claims := by
  cases verdict with
  | accepted asks found signed shaped running begun =>
    exact ⟨_, _, _, asks, signed.shaped, shaped, running, begun, rfl⟩

/-- A malformed token cannot be read, or one of its two parts is not as it is read the second
time. -/
theorem of_malformed
    (verdict : Verdict source now leeway token type state (.error (.invalid .malformed)) names
      after) {read : ReadToken} (reads : read.IsOf token) :
    read.headerIsWellShaped = false ∨ read.payloadIsWellShaped = false := by
  cases verdict with
  | unreadable unreadable => exact (unreadable read reads).elim
  | misshapenHeader asks found published misshapen =>
    rw [asks.reads.unique reads] at misshapen
    exact .inl misshapen
  | misshapenPayload asks found signed misshapen =>
    rw [asks.reads.unique reads] at misshapen
    exact .inr misshapen

open Validation in
theorem precheck_of_unexpectedAlgorithm
    (verdict : Verdict source now leeway token type state
      (.error (.invalid .unexpectedAlgorithm)) names after) :
    precheck token type = .error .unexpectedAlgorithm := by
  cases verdict with
  | foreignAlgorithm reads foreign => exact precheck_of_foreignAlgorithm reads foreign

open Validation in
theorem precheck_of_unexpectedTokenType
    (verdict : Verdict source now leeway token type state
      (.error (.invalid .unexpectedTokenType)) names after) :
    precheck token type = .error .unexpectedTokenType := by
  cases verdict with
  | otherType reads rsa other => exact precheck_of_otherType reads rsa other

end Verdict

/-! ## Two verdicts on one token -/

/-- What an earlier verdict on a token leaves open for a later one. -/
structure MovesForward (earlier later : Except TokenRejection Claims) : Prop where
  expired : earlier = .error (.invalid .expired) →
    (∀ claims, later ≠ .ok claims) ∧ later ≠ .error (.invalid .notYetValid)
  accepted : ∀ claims, earlier = .ok claims →
    (∀ fault ∈ [.malformed, .unexpectedAlgorithm, .unexpectedTokenType, .notYetValid],
      later ≠ .error (.invalid fault)) ∧
    ∀ claims', later = .ok claims' → claims' = claims
  settled : ∀ fault ∈ [.unexpectedAlgorithm, .unexpectedTokenType],
    earlier = .error (.invalid fault) → later = earlier

namespace Verdict

variable {source' : KeySource ρ} {state' after' : ρ} {later : Int64} {names' : List String}
  {result : Except TokenRejection Claims}

theorem after_expired
    (verdict : Verdict source now leeway token type state (.error (.invalid .expired)) names after)
    (verdict' : Verdict source' later leeway token type state' result names' after')
    (le : now.toInt ≤ later.toInt) :
    (∀ claims, result ≠ .ok claims) ∧ result ≠ .error (.invalid .notYetValid) := by
  obtain ⟨read, algorithm, id, asks, expired⟩ := verdict.of_expired
  constructor
  · rintro claims rfl
    obtain ⟨read', algorithm', id', asks', -, -, running, -, -⟩ := verdict'.of_ok
    rw [asks.read_eq asks'] at running
    exact running (expired.stays le)
  · rintro rfl
    obtain ⟨read', algorithm', id', asks', running, -⟩ := verdict'.of_notYetValid
    rw [asks.read_eq asks'] at running
    exact running (expired.stays le)

theorem after_ok {claims : Claims}
    (verdict : Verdict source now leeway token type state (.ok claims) names after)
    (verdict' : Verdict source' later leeway token type state' result names' after')
    (le : now.toInt ≤ later.toInt) :
    (∀ fault ∈ [.malformed, .unexpectedAlgorithm, .unexpectedTokenType, .notYetValid],
      result ≠ .error (.invalid fault)) ∧
    ∀ claims', result = .ok claims' → claims' = claims := by
  obtain ⟨read, algorithm, id, asks, header, payload, running, begun, rfl⟩ := verdict.of_ok
  have passed := precheck_of_asksFor asks
  constructor
  · rintro fault listed rfl
    simp only [List.mem_cons, List.not_mem_nil, or_false] at listed
    rcases listed with rfl | rfl | rfl | rfl
    · rcases verdict'.of_malformed asks.reads with misshapen | misshapen
      · rw [header] at misshapen
        cases misshapen
      · rw [payload] at misshapen
        cases misshapen
    · rw [verdict'.precheck_of_unexpectedAlgorithm] at passed
      cases passed
    · rw [verdict'.precheck_of_unexpectedTokenType] at passed
      cases passed
    · obtain ⟨read', algorithm', id', asks', -, early⟩ := verdict'.of_notYetValid
      rw [asks.read_eq asks'] at early
      exact begun (early.was le)
  · rintro claims' rfl
    obtain ⟨read', algorithm', id', asks', -, -, -, -, rfl⟩ := verdict'.of_ok
    rw [asks.read_eq asks']

end Verdict

/-- A token with another algorithm or of another type is refused for it whatever the keys are. -/
theorem precheck_eq_of_settled {fault : TokenFault}
    (settled : fault ∈ [.unexpectedAlgorithm, .unexpectedTokenType])
    (refused : (validateToken source now leeway token type state).1 = .error (.invalid fault)) :
    Validation.precheck token type = .error fault := by
  obtain ⟨names, verdict⟩ := Verdict.of_validateToken refused
  simp only [List.mem_cons, List.not_mem_nil, or_false] at settled
  rcases settled with rfl | rfl
  · exact verdict.precheck_of_unexpectedAlgorithm
  · exact verdict.precheck_of_unexpectedTokenType

/-- Of two verdicts on a token the one that is held against the later second moves forward, from
whatever sources the keys are taken. -/
theorem movesForward_of_le {source' : KeySource ρ} {state' : ρ} {later : Int64}
    (le : now.toInt ≤ later.toInt) :
    MovesForward (validateToken source now leeway token type state).1
      (validateToken source' later leeway token type state').1 := by
  have ⟨names', verdict'⟩ : ∃ names', Verdict source' later leeway token type state'
      (validateToken source' later leeway token type state').1 names'
      (validateToken source' later leeway token type state').2 :=
    Verdict.of_validateToken rfl
  refine ⟨?_, ?_, ?_⟩
  · intro ended
    obtain ⟨names, verdict⟩ := Verdict.of_validateToken ended
    exact verdict.after_expired verdict' le
  · intro claims given
    obtain ⟨names, verdict⟩ := Verdict.of_validateToken given
    exact verdict.after_ok verdict' le
  · intro fault settled refused
    have same := precheck_eq_of_settled settled refused
    rw [validateToken_of_precheck_error same, validateToken_of_precheck_error same]

/-! ## The verdicts of a run -/

namespace KeyManager

/-- The verdicts on one token in the course of events, the earliest first. -/
def verdicts (leeway : Nat) (token type : String) (manager : KeyManager) :
    List KeyEvent → List (Except TokenRejection Claims)
  | [] => []
  | event :: events =>
    let later := verdicts leeway token type (manager.step event).2 events
    match event with
    | .validate turn judged leeway' token' type' =>
      if leeway' = leeway ∧ token' = token ∧ type' = type then
        (manager.validate turn judged leeway token type).1 :: later
      else later
    | _ => later

/-- A first event adds a verdict if it is a validation of the token, and nothing otherwise. -/
theorem verdicts_cons (leeway : Nat) (token type : String) (manager : KeyManager)
    (event : KeyEvent) (events : List KeyEvent) :
    (∃ turn judged, event = .validate turn judged leeway token type ∧
        manager.verdicts leeway token type (event :: events) =
          (manager.validate turn judged leeway token type).1 ::
            (manager.step event).2.verdicts leeway token type events) ∨
      manager.verdicts leeway token type (event :: events) =
        (manager.step event).2.verdicts leeway token type events := by
  cases event with
  | validate turn judged leeway' token' type' =>
    by_cases same : leeway' = leeway ∧ token' = token ∧ type' = type
    · obtain ⟨rfl, rfl, rfl⟩ := same
      exact .inl ⟨turn, judged, rfl, if_pos ⟨rfl, rfl, rfl⟩⟩
    · exact .inr (if_neg same)
  | resolve | resolveCancellable | refresh | isCached | cachedKeys | check | turnsTo =>
    exact .inr rfl

/-- A verdict of a run was held against a reading of its clock. -/
theorem exists_of_mem_verdicts {leeway : Nat} {token type : String} {manager : KeyManager}
    {events : List KeyEvent} {verdict : Except TokenRejection Claims}
    (given : verdict ∈ manager.verdicts leeway token type events) :
    ∃ (manager' : KeyManager) (turn : Turn) (judged : Instant),
      judged ∈ events.flatMap KeyEvent.readings ∧
      verdict = (manager'.validate turn judged leeway token type).1 := by
  induction events generalizing manager with
  | nil => cases given
  | cons event events ih =>
    have later : verdict ∈ (manager.step event).2.verdicts leeway token type events →
        ∃ (manager' : KeyManager) (turn : Turn) (judged : Instant),
          judged ∈ (event :: events).flatMap KeyEvent.readings ∧
          verdict = (manager'.validate turn judged leeway token type).1 := by
      intro given
      obtain ⟨manager', turn, judged, timed, same⟩ := ih given
      exact ⟨manager', turn, judged, List.mem_append_right _ timed, same⟩
    rcases verdicts_cons leeway token type manager event events with
      ⟨turn, judged, rfl, added⟩ | skipped
    · rw [added, List.mem_cons] at given
      rcases given with rfl | given
      · exact ⟨manager, turn, judged, by simp [KeyEvent.readings], rfl⟩
      · exact later given
    · rw [skipped] at given
      exact later given

/-- On a clock that is never set back every verdict of a run on a token moves forward from each
earlier one, whatever happens to the keys in between. -/
theorem verdicts_pairwise_movesForward (manager : KeyManager) (leeway : Nat)
    (token type : String) {events : List KeyEvent}
    (ordered : (events.flatMap KeyEvent.readings).Pairwise (· ≤ ·)) :
    (manager.verdicts leeway token type events).Pairwise MovesForward := by
  induction events generalizing manager with
  | nil => exact .nil
  | cons event events ih =>
    rw [List.flatMap_cons, List.pairwise_append] at ordered
    obtain ⟨-, rest, before⟩ := ordered
    rcases verdicts_cons leeway token type manager event events with
      ⟨turn, judged, rfl, added⟩ | skipped
    · rw [added]
      refine .cons ?_ (ih _ rest)
      intro verdict given
      obtain ⟨manager', turn', judged', timed, rfl⟩ := exists_of_mem_verdicts given
      have le : judged ≤ judged' := before judged (by simp [KeyEvent.readings]) judged' timed
      exact movesForward_of_le (Instant.second_toInt_mono le)
    · rw [skipped]
      exact ih _ rest

/-- A document that publishes one key. -/
def datedDocument : List UInt8 :=
  Text.Utf8.encode <|
    "\x7b\"keys\":[\x7b\"kid\":\"k\",\"alg\":\"RS256\",\"e\":\"Aw\",\"n\":\"" ++
      "yj1At-cpr8v0aLph--bXP8gSMOxj01z8SfgWRlKK-pbVb97RJ5MkJ3WhJVA376c6zlISscFO4bW0-TuPB_O_Nw" ++
      "\"\x7d]\x7d"

/-- A token that is signed with that key. Its payload is
`{"ntt":"access_token","nbf":100,"exp":200}`. -/
def datedToken : String :=
  "eyJhbGciOiJSUzI1NiIsImtpZCI6ImsifQ." ++
    "eyJudHQiOiJhY2Nlc3NfdG9rZW4iLCJuYmYiOjEwMCwiZXhwIjoyMDB9." ++
    "sfFR1awc0XBNfGdc822T1vSKyKBaxj6rbVK1so80U2rqgM79vGIvYdh-b_HE7-7_LJPGUPNYtqnjGeEifAdxvg"

/-- The token is used from the start until after its end, with an outage in between. -/
def datedRun : List KeyEvent :=
  [.validate (Turn.still (.ofSeconds 89)) (.ofSeconds 89) 10 datedToken accessTokenType,
    .validate (Turn.still (.ofSeconds 90)) (.ofSeconds 90) 10 datedToken accessTokenType,
    .turnsTo .drops, .refresh (.ofSeconds 95), .check (Turn.still (.ofSeconds 150)),
    .validate (Turn.still (.ofSeconds 211)) (.ofSeconds 211) 10 datedToken accessTokenType]

/-- Why a token is rejected, if it is. -/
def rejection? : Except TokenRejection Claims → Option TokenRejection
  | .ok _ => none
  | .error rejection => some rejection

theorem verdicts_pairwise_movesForward_datedRun :
    ((new (.answers 200 datedDocument) (.ofSeconds 600)).verdicts 10 datedToken accessTokenType
        datedRun).map rejection? =
      [some (.invalid .notYetValid), none, some (.invalid .expired)] ∧
      ((new (.answers 200 datedDocument) (.ofSeconds 600)).verdicts 10 datedToken accessTokenType
        datedRun).Pairwise MovesForward :=
  ⟨by decide +kernel, verdicts_pairwise_movesForward _ _ _ _ (by decide)⟩

end KeyManager

end BearerGate
