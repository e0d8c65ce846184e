import BearerGate.Token.Validator

/-!
# Traffic on a key manager

What is asked of one manager over time, one caller after another.

Every event brings the readings of the clock that its answer takes, so a run may go through any
clock, also one that is set back. An endpoint may begin to treat requests in another way between
any two events.
-/

namespace BearerGate

/-- What is asked of a manager, or a change of its endpoint. -/
inductive KeyEvent
  | resolve (turn : Turn) (id : String)
  | resolveCancellable (turn : Turn) (id : String) (cancellation : Cancellation)
  | refresh (ended : Instant)
  | isCached (now : Instant)
  | cachedKeys
  | check (turn : Turn)
  /-- A token is validated with the keys of the manager. The last reading of the clock is the one
  that its claims are held against. -/
  | validate (turn : Turn) (judged : Instant) (leeway : Nat) (token type : String)
  | turnsTo (endpoint : Endpoint)

/-- What an event is answered with. -/
inductive KeyAnswer
  | key (result : Except KeyFailure KeyEntry)
  | refreshed (result : Except KeyFailure Unit)
  | flag (holds : Bool)
  | keys (cached : Option KeySet)
  | claims (result : Except TokenRejection Claims)
  | nothing

namespace KeyEvent

/-- The readings of the clock that an event brings, in order. -/
def readings : KeyEvent → List Instant
  | .resolve turn _ | .resolveCancellable turn _ _ | .check turn => [turn.served, turn.ended]
  | .refresh ended => [ended]
  | .isCached now => [now]
  | .validate turn judged _ _ _ => [turn.served, turn.ended, judged]
  | .cachedKeys | .turnsTo _ => []

end KeyEvent

namespace KeyManager

/-- Validates a token with the keys of the manager. -/
def validate (manager : KeyManager) (turn : Turn) (judged : Instant) (leeway : Nat)
    (token type : String) : Except TokenRejection Claims × KeyManager :=
  validateToken (fun id m => m.resolve turn id) judged.second leeway token type manager

/-- The answer to an event, and the manager after it. -/
def step (manager : KeyManager) : KeyEvent → KeyAnswer × KeyManager
  | .resolve turn id =>
    let (result, after) := manager.resolve turn id
    (.key result, after)
  | .resolveCancellable turn id cancellation =>
    let (result, after) := manager.resolveCancellable turn id cancellation
    (.key result, after)
  | .refresh ended =>
    let (result, after) := manager.refresh ended
    (.refreshed result, after)
  | .isCached now => (.flag (manager.isCached now), manager)
  | .cachedKeys => (.keys manager.cache.keys, manager)
  | .check turn =>
    let (passed, after) := manager.check turn
    (.flag passed, after)
  | .validate turn judged leeway token type =>
    let (result, after) := manager.validate turn judged leeway token type
    (.claims result, after)
  | .turnsTo endpoint => (.nothing, { manager with endpoint })

/-- The manager after events. -/
def run (manager : KeyManager) (events : List KeyEvent) : KeyManager :=
  events.foldl (fun manager event => (manager.step event).2) manager

/-- The latest request that brought a key set. -/
def lastInstall? (manager : KeyManager) : Option KeyRequest :=
  manager.requests.find? KeyRequest.succeeds

end KeyManager

end BearerGate
