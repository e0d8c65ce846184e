import BearerGate.Proofs.Keys.CurrentKeys
import BearerGate.Proofs.Token.Verdict
import BearerGate.Token.Traffic

/-!
# Events that need the keys

An event that needs the keys is answered from the current keys and leaves the manager as reading
them does. A token that fails a check before its key is known does not need them.
-/

namespace BearerGate

namespace KeyEvent

/-- The event cannot be answered without the keys, which it looks for when its turn begins. A
validation is such an event if its token passes the checks that need no key. -/
inductive NeedsKeys : KeyEvent → Turn → Prop
  | resolve (turn : Turn) (id : String) : NeedsKeys (.resolve turn id) turn
  | check (turn : Turn) : NeedsKeys (.check turn) turn
  | validate (turn : Turn) (judged : Instant) (leeway : Nat) {token type : String}
    {read : ReadToken} {algorithm : RsaAlgorithm} {id : String}
    (asks : AsksFor token type read algorithm id) :
    NeedsKeys (.validate turn judged leeway token type) turn

/-- What an event that needs the keys is answered with if they are the given ones. -/
def answerFrom (keys : Except KeyFailure KeySet) : KeyEvent → KeyAnswer
  | .resolve _ id => .key (keys.bind (·.lookup id))
  | .check _ => .flag keys.isOk
  | .validate _ judged leeway token type =>
    .claims (validateToken (fun id (_ : Unit) => (keys.bind (·.lookup id), ())) judged.second
      leeway token type ()).1
  | _ => .nothing

theorem NeedsKeys.ended_mem {event : KeyEvent} {turn : Turn} (needs : event.NeedsKeys turn) :
    turn.ended ∈ event.readings := by
  cases needs with
  | resolve => simp [readings]
  | check => simp [readings]
  | validate => simp [readings]

end KeyEvent

namespace KeyManager

variable {manager : KeyManager} {event : KeyEvent} {turn : Turn}

/-- What an event that needs the keys does is to read the current keys. -/
theorem step_of_needsKeys (needs : event.NeedsKeys turn) :
    manager.step event =
      (event.answerFrom (manager.currentKeys turn).1, (manager.currentKeys turn).2) := by
  cases needs with
  | resolve id => rfl
  | check =>
    have stepped : manager.step (.check turn) =
        (.flag (manager.check turn).1, (manager.check turn).2) := rfl
    rw [stepped, check_eq]
    rfl
  | @validate _ judged leeway token type read algorithm id asks =>
    have answer : (manager.validate turn judged leeway token type).1 =
        (validateToken (fun id (_ : Unit) =>
          ((manager.currentKeys turn).1.bind (·.lookup id), ())) judged.second leeway token type
          ()).1 := validateToken_fst_congr fun id => rfl
    have left : (manager.validate turn judged leeway token type).2 =
        (manager.currentKeys turn).2 := by
      unfold validate
      rw [validateToken_snd, precheck_of_asksFor asks]
      rfl
    have stepped : manager.step (.validate turn judged leeway token type) =
        (.claims (manager.validate turn judged leeway token type).1,
          (manager.validate turn judged leeway token type).2) := rfl
    rw [stepped, answer, left]
    rfl

/-- A token that fails a check before its key is known leaves the manager alone, stale or not, and
is answered without looking at it. -/
theorem exists_fault_of_not_asksFor {token type : String}
    (refused : ∀ read algorithm id, ¬ AsksFor token type read algorithm id) :
    ∃ fault, ∀ (manager : KeyManager) (turn : Turn) (judged : Instant) (leeway : Nat),
      manager.step (.validate turn judged leeway token type) =
        (.claims (.error (.invalid fault)), manager) := by
  cases passed : Validation.precheck token type with
  | ok parts =>
    obtain ⟨read, algorithm, id⟩ := parts
    exact (refused read algorithm id (asksFor_of_precheck passed)).elim
  | error fault =>
    refine ⟨fault, fun manager turn judged leeway => ?_⟩
    have validated : manager.validate turn judged leeway token type =
        (.error (.invalid fault), manager) := validateToken_of_precheck_error passed
    unfold step
    simp only [validated]

end KeyManager

end BearerGate
