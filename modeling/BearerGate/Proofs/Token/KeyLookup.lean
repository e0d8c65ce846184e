import BearerGate.Token.Validator

/-!
# What validation asks of a source of keys

A token that fails a check before its key is known leaves the source alone; any other asks it for
the one key that its header names. Nothing else of the source's state reaches the outcome.
-/

namespace BearerGate

open Validation

variable {σ ρ : Type} {source : KeySource σ} {now : Int64} {leeway : Nat} {token type : String}
  {state : σ}

theorem validateToken_of_precheck_error {fault : TokenFault}
    (refused : precheck token type = .error fault) :
    validateToken source now leeway token type state = (.error (.invalid fault), state) := by
  unfold validateToken
  rw [refused]

theorem validateToken_of_lookup_error {read : ReadToken} {algorithm : RsaAlgorithm} {id : String}
    {failure : KeyFailure} {after : σ}
    (passed : precheck token type = .ok (read, algorithm, id))
    (missing : source id state = (.error failure, after)) :
    validateToken source now leeway token type state =
      (.error (lookupRejection failure), after) := by
  unfold validateToken
  simp only [passed, missing]

theorem validateToken_of_lookup_ok {read : ReadToken} {algorithm : RsaAlgorithm} {id : String}
    {key : KeyEntry} {after : σ}
    (passed : precheck token type = .ok (read, algorithm, id))
    (found : source id state = (.ok key, after)) :
    validateToken source now leeway token type state =
      ((verify read algorithm key now leeway).mapError .invalid, after) := by
  unfold validateToken
  simp only [passed, found]

/-- The state of the source after a validation is that after one question for the key that the
token names, or the state before it if the token fails earlier. -/
theorem validateToken_snd :
    (validateToken source now leeway token type state).2 =
      match precheck token type with
      | .error _ => state
      | .ok (_, _, id) => (source id state).2 := by
  cases passed : precheck token type with
  | error fault => rw [validateToken_of_precheck_error passed]
  | ok parts =>
    obtain ⟨read, algorithm, id⟩ := parts
    cases looked : source id state with
    | mk result after =>
      cases result with
      | error failure => simp only [validateToken_of_lookup_error passed looked, looked]
      | ok key => simp only [validateToken_of_lookup_ok passed looked, looked]

/-- Sources that answer alike give the same outcome, whatever their states are. -/
theorem validateToken_fst_congr {other : KeySource ρ} {elsewhere : ρ}
    (alike : ∀ id, (source id state).1 = (other id elsewhere).1) :
    (validateToken source now leeway token type state).1 =
      (validateToken other now leeway token type elsewhere).1 := by
  cases passed : precheck token type with
  | error fault =>
    rw [validateToken_of_precheck_error passed, validateToken_of_precheck_error passed]
  | ok parts =>
    obtain ⟨read, algorithm, id⟩ := parts
    have same := alike id
    cases here : source id state with
    | mk result after =>
      cases there : other id elsewhere with
      | mk result' after' =>
        rw [here, there] at same
        cases same
        cases result with
        | error failure =>
          rw [validateToken_of_lookup_error passed here,
            validateToken_of_lookup_error passed there]
        | ok key =>
          rw [validateToken_of_lookup_ok passed here, validateToken_of_lookup_ok passed there]

end BearerGate
