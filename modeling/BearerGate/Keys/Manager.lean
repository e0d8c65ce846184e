import BearerGate.Keys.Cache
import BearerGate.Keys.Endpoint

/-!
# Key managers

A key manager answers questions for keys from its cache and fetches the key set when the cache is
empty or stale.

A fetch that fails changes nothing but the list of requests: the cached set stays what it was,
and its lifetime is not extended, so the next question fetches again. Callers are served one after
another, and the check of freshness and the fetch belong to one turn; of many callers that find a
stale cache only those up to the first completed fetch make a request. The clock is read at the
check and again when a fetch completes, and time may pass in between.
-/

namespace BearerGate

/-- A source of keys answers a name with a key or a failure and may change its state. -/
abbrev KeySource (σ : Type) := String → σ → Except KeyFailure KeyEntry × σ

/-- When the caller of an operation gives up. -/
inductive Cancellation
  | never
  /-- Before the operation begins. -/
  | before
  /-- While an endpoint that never answers is asked. -/
  | duringFetch
  /-- While a request is under way, whatever its answer would be. -/
  | beforeAnswer
  deriving DecidableEq

/-- The readings of the clock in the turn of one caller: when the caller is served, and when the
fetch ends, if the turn has one. -/
structure Turn where
  served : Instant
  ended : Instant

/-- The turn in which no time passes. -/
def Turn.still (now : Instant) : Turn := ⟨now, now⟩

instance : Coe Instant Turn := ⟨Turn.still⟩

/-- A request for the key set that is over. -/
structure KeyRequest where
  /-- How the endpoint treats it. -/
  endpoint : Endpoint
  /-- The reading of the clock at its end. -/
  ended : Instant
  /-- Whether the caller waited until then. -/
  awaited : Bool

namespace KeyRequest

/-- What the request brings to its caller. -/
def outcome (request : KeyRequest) : Except KeyFailure KeySet :=
  if request.awaited then request.endpoint.outcome else .error .cancelled

/-- Whether the request brings a key set. -/
def succeeds (request : KeyRequest) : Bool :=
  request.outcome.isOk

end KeyRequest

/-- A key manager together with its endpoint and the requests that it has made, the latest
first. -/
structure KeyManager where
  ttl : Span
  cache : KeyCache
  endpoint : Endpoint
  requests : List KeyRequest

namespace KeyManager

/-- How long a fetched set is fresh if nothing else is asked for. -/
def defaultTtl : Span := .ofSeconds 600

/-- A manager that has not fetched anything. -/
def new (endpoint : Endpoint) (ttl : Span) : KeyManager :=
  ⟨ttl, .empty, endpoint, []⟩

/-- The number of requests that reached the endpoint. -/
def fetches (manager : KeyManager) : Nat :=
  manager.requests.countP (·.endpoint.isReached)

/-- The manager after a request; a key set that it brings is cached. -/
def settle (manager : KeyManager) (request : KeyRequest) :
    Except KeyFailure KeySet × KeyManager :=
  let asked := { manager with requests := request :: manager.requests }
  match request.outcome with
  | .ok keys => (.ok keys, { asked with cache := .installed request.ended manager.ttl keys })
  | .error failure => (.error failure, asked)

/-- Fetches the key set, fresh or not, and caches it if the fetch completes. -/
def fetch (manager : KeyManager) (ended : Instant) : Except KeyFailure KeySet × KeyManager :=
  manager.settle ⟨manager.endpoint, ended, true⟩

/-- Asks for the key set on behalf of a caller who gives up before there is an answer. -/
def abandon (manager : KeyManager) (ended : Instant) : Except KeyFailure KeySet × KeyManager :=
  manager.settle ⟨manager.endpoint, ended, false⟩

/-- The cached set if it is fresh, and else a fetched one. -/
def currentKeys (manager : KeyManager) (turn : Turn) : Except KeyFailure KeySet × KeyManager :=
  match manager.cache.fresh? turn.served with
  | some keys => (.ok keys, manager)
  | none => manager.fetch turn.ended

/-- The key of the given name. -/
def resolve (manager : KeyManager) (turn : Turn) (id : String) :
    Except KeyFailure KeyEntry × KeyManager :=
  let (keys, after) := manager.currentKeys turn
  (keys.bind (·.lookup id), after)

/-- The key of the given name, for a caller who gives up once a request is under way. -/
def resolveAbandoning (manager : KeyManager) (turn : Turn) (id : String) :
    Except KeyFailure KeyEntry × KeyManager :=
  match manager.cache.fresh? turn.served with
  | some keys => (keys.lookup id, manager)
  | none =>
    let (keys, after) := manager.abandon turn.ended
    (keys.bind (·.lookup id), after)

/-- The key of the given name, for a caller that may give up. -/
def resolveCancellable (manager : KeyManager) (turn : Turn) (id : String) :
    Cancellation → Except KeyFailure KeyEntry × KeyManager
  | .never => manager.resolve turn id
  | .before => (.error .cancelled, manager)
  | .duringFetch =>
    if manager.endpoint.isSilent then manager.resolveAbandoning turn id else manager.resolve turn id
  | .beforeAnswer => manager.resolveAbandoning turn id

/-- The keys of the given names, asked for by callers that stand in a queue. -/
def resolveMany (manager : KeyManager) (now : Instant) :
    List String → List (Except KeyFailure KeyEntry) × KeyManager
  | [] => ([], manager)
  | id :: ids =>
    let (key, served) := manager.resolve now id
    let (keys, after) := resolveMany served now ids
    (key :: keys, after)

/-- Fetches the key set, fresh or not. -/
def refresh (manager : KeyManager) (ended : Instant) : Except KeyFailure Unit × KeyManager :=
  let (keys, after) := manager.fetch ended
  (keys.map fun _ => (), after)

/-- Whether a fresh set is cached. -/
def isCached (manager : KeyManager) (now : Instant) : Bool :=
  manager.cache.isFresh now

/-- Whether keys can be had: a fresh set is cached, or a fetch completes. -/
def check (manager : KeyManager) (turn : Turn) : Bool × KeyManager :=
  if manager.isCached turn.served then (true, manager)
  else
    match manager.refresh turn.ended with
    | (.ok _, after) => (true, after)
    | (.error _, after) => (false, after)

/-- The manager with an endpoint that treats requests in another way. A manager that nobody
listens to stays so. -/
def answering (manager : KeyManager) (endpoint : Endpoint) : KeyManager :=
  match manager.endpoint with
  | .unreachable => manager
  | _ => { manager with endpoint }

/-- One line about a manager for diagnostics. -/
def summary (address : String) (ttl : Span) : String :=
  "JwksManager \x7b endpoint: " ++ Text.quote address ++ ", ttl: " ++ ttl.text ++ ", .. \x7d"

end KeyManager

/-! ## Providers -/

/-- What answers questions for keys: a fixed set, a failure, or a manager. The first two count the
questions. -/
inductive KeyProvider
  | fixed (keys : KeySet) (lookups : Nat)
  | failing (failure : KeyFailure) (lookups : Nat)
  | managed (manager : KeyManager)

namespace KeyProvider

/-- A manager whose endpoint nobody listens to. -/
def outage : KeyProvider := .managed (.new .unreachable KeyManager.defaultTtl)

/-- The key of the given name. -/
def resolve (now : Instant) : KeySource KeyProvider := fun id provider =>
  match provider with
  | .fixed keys lookups => (keys.lookup id, .fixed keys (lookups + 1))
  | .failing failure lookups => (.error failure, .failing failure (lookups + 1))
  | .managed manager =>
    let (key, after) := manager.resolve now id
    (key, .managed after)

/-- The number of questions, where they are counted. -/
def lookups? : KeyProvider → Option Nat
  | .fixed _ lookups | .failing _ lookups => some lookups
  | .managed _ => none

/-- The number of requests that reached the endpoint, if there is one. -/
def fetches? : KeyProvider → Option Nat
  | .managed manager => some manager.fetches
  | _ => none

/-- The provider with an endpoint that treats requests in another way, if it has one. -/
def answering (provider : KeyProvider) (endpoint : Endpoint) : KeyProvider :=
  match provider with
  | .managed manager => .managed (manager.answering endpoint)
  | other => other

end KeyProvider

end BearerGate
