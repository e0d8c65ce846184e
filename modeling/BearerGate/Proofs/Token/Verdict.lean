import BearerGate.Proofs.Token.CompactForm
import BearerGate.Proofs.Token.KeyLookup
import BearerGate.Proofs.Token.Window

/-!
# The verdict on a token

What decides on a token, check by check: `Verdict` says which outcome belongs to a token without
saying how it is found. Every token has a verdict (`exists_verdict`), and it is the one that
validation comes to, with exactly the questions that the verdict lists
(`validateToken_eq_iff_verdict`).

One check stands where nobody looks for it. The signed payload is read a second time, and this
reading takes a list only if it has as many items as there are registered claims. A payload in
another list is malformed, but only once its signature has been verified.
-/

namespace BearerGate

/-! ## Algorithms -/

/-- The published name of an algorithm. -/
def RsaAlgorithm.name : RsaAlgorithm → String
  | .rs256 => "RS256"
  | .rs384 => "RS384"
  | .rs512 => "RS512"

theorem RsaAlgorithm.ofName?_eq_some_iff {name : String} {algorithm : RsaAlgorithm} :
    ofName? name = some algorithm ↔ name = algorithm.name := by
  constructor
  · intro found
    unfold ofName? at found
    split at found
    · next same =>
      cases found
      exact same
    split at found
    · next same =>
      cases found
      exact same
    split at found
    · next same =>
      cases found
      exact same
    · cases found
  · rintro rfl
    cases algorithm with
    | rs256 => rfl
    | rs384 => rfl
    | rs512 => rfl

/-! ## The checks -/

variable {σ : Type}

/-- The token passes the checks that need no key. What is left is a question for the key `id`. -/
structure AsksFor (token type : String) (read : ReadToken) (algorithm : RsaAlgorithm)
    (id : String) : Prop where
  reads : read.IsOf token
  rsa : read.header.algorithm = algorithm.name
  typed : read.claims.tokenType = type
  named : read.header.keyId = some id

/-- The token is signed with the key. -/
structure SignedWith (read : ReadToken) (algorithm : RsaAlgorithm) (key : KeyEntry) : Prop where
  published : key.algorithm = read.header.algorithm
  shaped : read.headerIsWellShaped = true
  verified : key.key.verifies algorithm read.segments.signed read.segments.signature = true

/-- The outcome for a token, the names that the source is asked for, and the state of the source
after that. -/
inductive Verdict (source : KeySource σ) (now : Int64) (leeway : Nat) (token type : String)
    (state : σ) : Except TokenRejection Claims → List String → σ → Prop
  | unreadable (unreadable : ∀ read : ReadToken, ¬ read.IsOf token) :
    Verdict source now leeway token type state (.error (.invalid .malformed)) [] state
  | foreignAlgorithm {read : ReadToken} (reads : read.IsOf token)
    (foreign : ∀ algorithm : RsaAlgorithm, read.header.algorithm ≠ algorithm.name) :
    Verdict source now leeway token type state (.error (.invalid .unexpectedAlgorithm)) [] state
  | otherType {read : ReadToken} {algorithm : RsaAlgorithm} (reads : read.IsOf token)
    (rsa : read.header.algorithm = algorithm.name) (other : read.claims.tokenType ≠ type) :
    Verdict source now leeway token type state (.error (.invalid .unexpectedTokenType)) [] state
  | unnamed {read : ReadToken} {algorithm : RsaAlgorithm} (reads : read.IsOf token)
    (rsa : read.header.algorithm = algorithm.name) (typed : read.claims.tokenType = type)
    (unnamed : read.header.keyId = none) :
    Verdict source now leeway token type state (.error (.invalid .unknownKey)) [] state
  | unknown {read : ReadToken} {algorithm : RsaAlgorithm} {id missing : String} {after : σ}
    (asks : AsksFor token type read algorithm id)
    (unknown : source id state = (.error (.notFound missing), after)) :
    Verdict source now leeway token type state (.error (.invalid .unknownKey)) [id] after
  | unavailable {read : ReadToken} {algorithm : RsaAlgorithm} {id : String} {failure : KeyFailure}
    {after : σ} (asks : AsksFor token type read algorithm id)
    (failed : source id state = (.error failure, after))
    (other : ∀ missing, failure ≠ .notFound missing) :
    Verdict source now leeway token type state (.error (.keysUnavailable failure)) [id] after
  | otherAlgorithm {read : ReadToken} {algorithm : RsaAlgorithm} {id : String} {key : KeyEntry}
    {after : σ} (asks : AsksFor token type read algorithm id)
    (found : source id state = (.ok key, after))
    (other : key.algorithm ≠ read.header.algorithm) :
    Verdict source now leeway token type state (.error (.invalid .algorithmMismatch)) [id] after
  | misshapenHeader {read : ReadToken} {algorithm : RsaAlgorithm} {id : String} {key : KeyEntry}
    {after : σ} (asks : AsksFor token type read algorithm id)
    (found : source id state = (.ok key, after))
    (published : key.algorithm = read.header.algorithm)
    (misshapen : read.headerIsWellShaped = false) :
    Verdict source now leeway token type state (.error (.invalid .malformed)) [id] after
  | badSignature {read : ReadToken} {algorithm : RsaAlgorithm} {id : String} {key : KeyEntry}
    {after : σ} (asks : AsksFor token type read algorithm id)
    (found : source id state = (.ok key, after))
    (published : key.algorithm = read.header.algorithm)
    (shaped : read.headerIsWellShaped = true)
    (bad : key.key.verifies algorithm read.segments.signed read.segments.signature = false) :
    Verdict source now leeway token type state (.error (.invalid .badSignature)) [id] after
  | misshapenPayload {read : ReadToken} {algorithm : RsaAlgorithm} {id : String} {key : KeyEntry}
    {after : σ} (asks : AsksFor token type read algorithm id)
    (found : source id state = (.ok key, after)) (signed : SignedWith read algorithm key)
    (misshapen : read.payloadIsWellShaped = false) :
    Verdict source now leeway token type state (.error (.invalid .malformed)) [id] after
  | expired {read : ReadToken} {algorithm : RsaAlgorithm} {id : String} {key : KeyEntry}
    {after : σ} (asks : AsksFor token type read algorithm id)
    (found : source id state = (.ok key, after)) (signed : SignedWith read algorithm key)
    (shaped : read.payloadIsWellShaped = true) (expired : read.claims.Expired now leeway) :
    Verdict source now leeway token type state (.error (.invalid .expired)) [id] after
  | notYetValid {read : ReadToken} {algorithm : RsaAlgorithm} {id : String} {key : KeyEntry}
    {after : σ} (asks : AsksFor token type read algorithm id)
    (found : source id state = (.ok key, after)) (signed : SignedWith read algorithm key)
    (shaped : read.payloadIsWellShaped = true) (running : ¬ read.claims.Expired now leeway)
    (early : read.claims.NotYetValid now leeway) :
    Verdict source now leeway token type state (.error (.invalid .notYetValid)) [id] after
  | accepted {read : ReadToken} {algorithm : RsaAlgorithm} {id : String} {key : KeyEntry}
    {after : σ} (asks : AsksFor token type read algorithm id)
    (found : source id state = (.ok key, after)) (signed : SignedWith read algorithm key)
    (shaped : read.payloadIsWellShaped = true) (running : ¬ read.claims.Expired now leeway)
    (begun : ¬ read.claims.NotYetValid now leeway) :
    Verdict source now leeway token type state (.ok read.claims) [id] after

variable {source : KeySource σ} {now : Int64} {leeway : Nat} {token type : String} {state : σ}

/-! ## Every token has a verdict -/

theorem exists_verdict_of_found {read : ReadToken} {algorithm : RsaAlgorithm} {id : String}
    {key : KeyEntry} {after : σ} (asks : AsksFor token type read algorithm id)
    (found : source id state = (.ok key, after)) :
    ∃ result names, Verdict source now leeway token type state result names after := by
  by_cases other : key.algorithm ≠ read.header.algorithm
  · exact ⟨_, _, .otherAlgorithm asks found other⟩
  have published := Decidable.not_not.mp other
  cases shaped : read.headerIsWellShaped with
  | false => exact ⟨_, _, .misshapenHeader asks found published shaped⟩
  | true =>
  cases verified : key.key.verifies algorithm read.segments.signed read.segments.signature with
  | false => exact ⟨_, _, .badSignature asks found published shaped verified⟩
  | true =>
  have signed : SignedWith read algorithm key := ⟨published, shaped, verified⟩
  cases payload : read.payloadIsWellShaped with
  | false => exact ⟨_, _, .misshapenPayload asks found signed payload⟩
  | true =>
  by_cases expired : read.claims.Expired now leeway
  · exact ⟨_, _, .expired asks found signed payload expired⟩
  by_cases early : read.claims.NotYetValid now leeway
  · exact ⟨_, _, .notYetValid asks found signed payload expired early⟩
  · exact ⟨_, _, .accepted asks found signed payload expired early⟩

theorem exists_verdict_of_asksFor {read : ReadToken} {algorithm : RsaAlgorithm} {id : String}
    (asks : AsksFor token type read algorithm id) :
    ∃ result names after, Verdict source now leeway token type state result names after := by
  cases looked : source id state with
  | mk answer after =>
    cases answer with
    | ok key =>
      obtain ⟨result, names, verdict⟩ := exists_verdict_of_found asks looked
      exact ⟨result, names, after, verdict⟩
    | error failure =>
      by_cases missing : ∃ name, failure = .notFound name
      · obtain ⟨name, rfl⟩ := missing
        exact ⟨_, _, _, .unknown asks looked⟩
      · exact ⟨_, _, _, .unavailable asks looked fun name same => missing ⟨name, same⟩⟩

theorem exists_verdict :
    ∃ result names after, Verdict source now leeway token type state result names after := by
  -- One split for each check, in the order in which they are made.
  by_cases unreadable : ∀ read : ReadToken, ¬ read.IsOf token
  · exact ⟨_, _, _, .unreadable unreadable⟩
  obtain ⟨read, readable⟩ := Classical.not_forall.mp unreadable
  have reads := Classical.not_not.mp readable
  by_cases foreign : ∀ algorithm : RsaAlgorithm, read.header.algorithm ≠ algorithm.name
  · exact ⟨_, _, _, .foreignAlgorithm reads foreign⟩
  obtain ⟨algorithm, known⟩ := Classical.not_forall.mp foreign
  have rsa := Classical.not_not.mp known
  by_cases other : read.claims.tokenType ≠ type
  · exact ⟨_, _, _, .otherType reads rsa other⟩
  have typed := Decidable.not_not.mp other
  cases named : read.header.keyId with
  | none => exact ⟨_, _, _, .unnamed reads rsa typed named⟩
  | some id => exact exists_verdict_of_asksFor ⟨reads, rsa, typed, named⟩

/-! ## The verdict is what validation comes to -/

open Validation

theorem precheck_of_unreadable (unreadable : ∀ read : ReadToken, ¬ read.IsOf token) :
    precheck token type = .error .malformed := by
  cases found : ReadToken.ofToken? token with
  | none =>
    unfold precheck
    rw [found]
  | some read => exact (unreadable read (ReadToken.ofToken?_eq_some_iff.mp found)).elim

theorem precheck_of_foreignAlgorithm {read : ReadToken} (reads : read.IsOf token)
    (foreign : ∀ algorithm : RsaAlgorithm, read.header.algorithm ≠ algorithm.name) :
    precheck token type = .error .unexpectedAlgorithm := by
  have unknown : RsaAlgorithm.ofName? read.header.algorithm = none := by
    rw [Option.eq_none_iff_forall_ne_some]
    intro algorithm known
    exact foreign algorithm (RsaAlgorithm.ofName?_eq_some_iff.mp known)
  unfold precheck
  simp only [ReadToken.ofToken?_eq_some_iff.mpr reads, unknown]

theorem precheck_of_otherType {read : ReadToken} {algorithm : RsaAlgorithm}
    (reads : read.IsOf token) (rsa : read.header.algorithm = algorithm.name)
    (other : read.claims.tokenType ≠ type) :
    precheck token type = .error .unexpectedTokenType := by
  unfold precheck
  simp only [ReadToken.ofToken?_eq_some_iff.mpr reads, RsaAlgorithm.ofName?_eq_some_iff.mpr rsa]
  exact if_pos other

theorem precheck_of_unnamed {read : ReadToken} {algorithm : RsaAlgorithm}
    (reads : read.IsOf token) (rsa : read.header.algorithm = algorithm.name)
    (typed : read.claims.tokenType = type) (unnamed : read.header.keyId = none) :
    precheck token type = .error .unknownKey := by
  unfold precheck
  simp only [ReadToken.ofToken?_eq_some_iff.mpr reads, RsaAlgorithm.ofName?_eq_some_iff.mpr rsa,
    unnamed]
  exact if_neg (not_not_intro typed)

theorem precheck_of_asksFor {read : ReadToken} {algorithm : RsaAlgorithm} {id : String}
    (asks : AsksFor token type read algorithm id) :
    precheck token type = .ok (read, algorithm, id) := by
  unfold precheck
  simp only [ReadToken.ofToken?_eq_some_iff.mpr asks.reads,
    RsaAlgorithm.ofName?_eq_some_iff.mpr asks.rsa, asks.named]
  exact if_neg (not_not_intro asks.typed)

theorem verify_of_signedWith {read : ReadToken} {algorithm : RsaAlgorithm} {key : KeyEntry}
    (signed : SignedWith read algorithm key) (shaped : read.payloadIsWellShaped = true) :
    verify read algorithm key now leeway =
      (read.claims.windowFault? now leeway).elim (.ok read.claims) .error := by
  unfold verify
  rw [if_neg (not_not_intro signed.published), if_neg (by simp [signed.shaped]),
    if_neg (by simp [signed.verified]), if_neg (by simp [shaped])]
  cases read.claims.windowFault? now leeway with
  | none => rfl
  | some fault => rfl

/-- The source with a list of the names that it has been asked for. -/
def KeySource.recorded (source : KeySource σ) : KeySource (σ × List String) :=
  fun id state => ((source id state.1).1, (source id state.1).2, state.2 ++ [id])

theorem recorded_of_lookup {id : String} {answer : Except KeyFailure KeyEntry} {after : σ}
    (looked : source id state = (answer, after)) (asked : List String) :
    source.recorded id (state, asked) = (answer, after, asked ++ [id]) := by
  unfold KeySource.recorded
  rw [looked]

theorem recorded_of_refused {fault : TokenFault} (refused : precheck token type = .error fault)
    (asked : List String) :
    validateToken source.recorded now leeway token type (state, asked) =
      (.error (.invalid fault), state, asked ++ []) := by
  rw [validateToken_of_precheck_error refused, List.append_nil]

theorem recorded_of_missing {read : ReadToken} {algorithm : RsaAlgorithm} {id : String}
    {failure : KeyFailure} {after : σ} (asks : AsksFor token type read algorithm id)
    (missing : source id state = (.error failure, after)) (asked : List String) :
    validateToken source.recorded now leeway token type (state, asked) =
      (.error (lookupRejection failure), after, asked ++ [id]) :=
  validateToken_of_lookup_error (precheck_of_asksFor asks) (recorded_of_lookup missing asked)

theorem recorded_of_found {read : ReadToken} {algorithm : RsaAlgorithm} {id : String}
    {key : KeyEntry} {after : σ} (asks : AsksFor token type read algorithm id)
    (found : source id state = (.ok key, after)) (asked : List String) :
    validateToken source.recorded now leeway token type (state, asked) =
      ((verify read algorithm key now leeway).mapError .invalid, after, asked ++ [id]) :=
  validateToken_of_lookup_ok (precheck_of_asksFor asks) (recorded_of_lookup found asked)

/-- Nothing but the record depends on recording. -/
theorem validateToken_recorded (asked : List String) :
    validateToken source now leeway token type state =
      ((validateToken source.recorded now leeway token type (state, asked)).1,
        (validateToken source.recorded now leeway token type (state, asked)).2.1) := by
  apply Prod.ext
  · exact validateToken_fst_congr fun id => rfl
  · rw [validateToken_snd, validateToken_snd]
    cases precheck token type with
    | error fault => rfl
    | ok parts => rfl

theorem Verdict.validateToken_recorded_eq {result : Except TokenRejection Claims}
    {names : List String} {after : σ}
    (verdict : Verdict source now leeway token type state result names after)
    (asked : List String) :
    validateToken source.recorded now leeway token type (state, asked) =
      (result, after, asked ++ names) := by
  cases verdict with
  | unreadable unreadable => exact recorded_of_refused (precheck_of_unreadable unreadable) asked
  | foreignAlgorithm reads foreign =>
    exact recorded_of_refused (precheck_of_foreignAlgorithm reads foreign) asked
  | otherType reads rsa other =>
    exact recorded_of_refused (precheck_of_otherType reads rsa other) asked
  | unnamed reads rsa typed unnamed =>
    exact recorded_of_refused (precheck_of_unnamed reads rsa typed unnamed) asked
  | unknown asks unknown => exact recorded_of_missing asks unknown asked
  | unavailable asks failed other =>
    rw [recorded_of_missing asks failed]
    unfold lookupRejection
    split
    · next missing => exact (other missing rfl).elim
    · rfl
  | otherAlgorithm asks found other =>
    rw [recorded_of_found asks found, verify, if_pos other]
    rfl
  | misshapenHeader asks found published misshapen =>
    rw [recorded_of_found asks found, verify, if_neg (not_not_intro published), if_pos misshapen]
    rfl
  | badSignature asks found published shaped bad =>
    rw [recorded_of_found asks found, verify, if_neg (not_not_intro published),
      if_neg (by simp [shaped]), if_pos bad]
    rfl
  | misshapenPayload asks found signed misshapen =>
    rw [recorded_of_found asks found, verify, if_neg (not_not_intro signed.published),
      if_neg (by simp [signed.shaped]), if_neg (by simp [signed.verified]), if_pos misshapen]
    rfl
  | expired asks found signed shaped expired =>
    rw [recorded_of_found asks found, verify_of_signedWith signed shaped,
      Claims.windowFault?_of_expired expired]
    rfl
  | notYetValid asks found signed shaped running early =>
    rw [recorded_of_found asks found, verify_of_signedWith signed shaped,
      Claims.windowFault?_of_notYetValid running early]
    rfl
  | accepted asks found signed shaped running begun =>
    rw [recorded_of_found asks found, verify_of_signedWith signed shaped,
      Claims.windowFault?_of_inForce running begun]
    rfl

theorem verdict_of_validateToken_recorded_eq {result : Except TokenRejection Claims}
    {names asked : List String} {after : σ}
    (validated : validateToken source.recorded now leeway token type (state, asked) =
      (result, after, asked ++ names)) :
    Verdict source now leeway token type state result names after := by
  obtain ⟨result', names', after', verdict⟩ :
    ∃ result names after, Verdict source now leeway token type state result names after :=
      exists_verdict
  have same := verdict.validateToken_recorded_eq asked
  rw [validated, Prod.mk.injEq, Prod.mk.injEq, List.append_cancel_left_eq] at same
  obtain ⟨rfl, rfl, rfl⟩ := same
  exact verdict

theorem verdict_of_validateToken_eq {result : Except TokenRejection Claims} {after : σ}
    (validated : validateToken source now leeway token type state = (result, after)) :
    ∃ names, Verdict source now leeway token type state result names after := by
  obtain ⟨result', names, after', verdict⟩ :
    ∃ result names after, Verdict source now leeway token type state result names after :=
      exists_verdict
  have recorded := verdict.validateToken_recorded_eq []
  rw [validateToken_recorded [], recorded, Prod.mk.injEq] at validated
  obtain ⟨rfl, rfl⟩ := validated
  exact ⟨names, verdict⟩

theorem Verdict.validateToken_eq {result : Except TokenRejection Claims} {names : List String}
    {after : σ} (verdict : Verdict source now leeway token type state result names after) :
    validateToken source now leeway token type state = (result, after) := by
  rw [validateToken_recorded [], verdict.validateToken_recorded_eq]

theorem recorded_names_of_asksFor {read : ReadToken} {algorithm : RsaAlgorithm} {id : String}
    (asks : AsksFor token type read algorithm id) (asked : List String) :
    (validateToken source.recorded now leeway token type (state, asked)).2.2 = asked ++ [id] := by
  rw [validateToken_snd, precheck_of_asksFor asks]
  rfl

theorem asksFor_of_precheck {read : ReadToken} {algorithm : RsaAlgorithm} {id : String}
    (passed : precheck token type = .ok (read, algorithm, id)) :
    AsksFor token type read algorithm id := by
  unfold precheck at passed
  split at passed
  · cases passed
  next read' found =>
  split at passed
  · cases passed
  next algorithm' known =>
  split at passed
  · cases passed
  next typed =>
  split at passed
  · cases passed
  next id' named =>
  cases passed
  exact ⟨ReadToken.ofToken?_eq_some_iff.mp found, RsaAlgorithm.ofName?_eq_some_iff.mp known,
    Decidable.not_not.mp typed, named⟩

theorem recorded_names_of_not_asksFor
    (asks : ∀ read algorithm id, ¬ AsksFor token type read algorithm id) (asked : List String) :
    (validateToken source.recorded now leeway token type (state, asked)).2.2 = asked := by
  rw [validateToken_snd]
  cases passed : precheck token type with
  | error fault => rfl
  | ok parts =>
    obtain ⟨read, algorithm, id⟩ := parts
    exact (asks read algorithm id (asksFor_of_precheck passed)).elim

/-- Validation comes to the verdict on the token and to no other, whatever the source is. A token
that passes the checks that need no key causes one question, for the key that its header names,
and any other token causes none. -/
theorem validateToken_eq_iff_verdict (source : KeySource σ) (now : Int64) (leeway : Nat)
    (token type : String) (state after : σ) (result : Except TokenRejection Claims)
    (asked names : List String) :
    (validateToken source now leeway token type state = (result, after) ↔
      ∃ names, Verdict source now leeway token type state result names after) ∧
    (validateToken source.recorded now leeway token type (state, asked) =
        (result, after, asked ++ names) ↔
      Verdict source now leeway token type state result names after) ∧
    (∀ read algorithm id, AsksFor token type read algorithm id →
      (validateToken source.recorded now leeway token type (state, asked)).2.2 = asked ++ [id]) ∧
    ((∀ read algorithm id, ¬ AsksFor token type read algorithm id) →
      (validateToken source.recorded now leeway token type (state, asked)).2.2 = asked) := by
  refine ⟨⟨verdict_of_validateToken_eq, ?_⟩, ⟨verdict_of_validateToken_recorded_eq, ?_⟩, ?_, ?_⟩
  · rintro ⟨names, verdict⟩
    exact verdict.validateToken_eq
  · intro verdict
    exact verdict.validateToken_recorded_eq asked
  · intro read algorithm id asks
    exact recorded_names_of_asksFor asks asked
  · intro none
    exact recorded_names_of_not_asksFor none asked

/-- A key for RS256 with a modulus of 512 bits. -/
def sampleKey : KeyEntry where
  id := "k"
  algorithm := "RS256"
  key :=
    { modulus :=
        (0xd6ba681e1c415204f2db7f0e2f2952a10da6bfc9335a7617ae5c738b333f94e3 <<< 256) +
          0x06b0875ed69e59e20f70deae97df141f2b953745e4242c4c5d27dcf8b6e0c6c7
      exponent := 3 }

/-- The source that has the sample key and no other. -/
def sampleSource : KeySource Unit :=
  fun id state => ((KeySet.mk [sampleKey] .empty none).lookup id, state)

/-- A token that is signed with the sample key. Its payload is the list `["s","o","access_token"]`.
-/
def listedToken : String :=
  "eyJhbGciOiJSUzI1NiIsImtpZCI6ImsifQ.WyJzIiwibyIsImFjY2Vzc190b2tlbiJd." ++
    "tc1Cxp3smbDe3PUh6amC9ykimFCnXQzsJ-_5JYreQP_uf2fZD2sw4IteNce_qP-vWuzHwCOTGwet2xVpdgjFQQ"

/-- A token whose payload is a list passes every check that is asked of it, signature and window
included, and is malformed nevertheless. -/
theorem listedToken_malformed :
    ∃ read : ReadToken, AsksFor listedToken accessTokenType read .rs256 "k" ∧
      (sampleSource "k" ()).1 = .ok sampleKey ∧ SignedWith read .rs256 sampleKey ∧
      ¬ read.claims.Expired 0 60 ∧ ¬ read.claims.NotYetValid 0 60 ∧
      (validateToken sampleSource 0 60 listedToken accessTokenType ()).1 =
        .error (.invalid .malformed) := by
  have checked : (ReadToken.ofToken? listedToken).any (fun read =>
      read.header = ⟨"RS256", some "k"⟩ && read.claims.tokenType = accessTokenType &&
        read.headerIsWellShaped &&
        sampleKey.key.verifies .rs256 read.segments.signed read.segments.signature &&
        read.payloadIsWellShaped = false && (read.claims.windowFault? 0 60).isNone) = true := by
    decide +kernel
  obtain ⟨read, found, passed⟩ := (Option.any_eq_true _ _).mp checked
  simp only [Bool.and_eq_true, decide_eq_true_eq] at passed
  obtain ⟨⟨⟨⟨⟨header, typed⟩, shaped⟩, verified⟩, listed⟩, inForce⟩ := passed
  have asks : AsksFor listedToken accessTokenType read .rs256 "k" :=
    ⟨ReadToken.ofToken?_eq_some_iff.mp found, by rw [header]; rfl, typed, by rw [header]⟩
  have signed : SignedWith read .rs256 sampleKey := ⟨by rw [header]; rfl, shaped, verified⟩
  have known : sampleSource "k" () = (.ok sampleKey, ()) := rfl
  have verdict : Verdict sampleSource 0 60 listedToken accessTokenType () _ _ () :=
    .misshapenPayload asks known signed listed
  have running : ¬ read.claims.Expired 0 60 := by
    intro expired
    rw [Claims.windowFault?_of_expired expired] at inForce
    cases inForce
  have begun : ¬ read.claims.NotYetValid 0 60 := by
    intro early
    rw [Claims.windowFault?_of_notYetValid running early] at inForce
    cases inForce
  exact ⟨read, asks, rfl, signed, running, begun, by rw [verdict.validateToken_eq]⟩

end BearerGate
