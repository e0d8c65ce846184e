import BearerGate.Context
import BearerGate.Keys.Manager
import BearerGate.Metrics.Registry

/-!
# What requests share

Bags, sources of keys, metrics, the error log and the clock are shared by all requests. Whatever
hooks keep beyond that is the parameter `τ`, of which nothing is assumed.
-/

namespace BearerGate

/-- The record of an error response. Annotations and metadata are compact text, empty without a
bag. -/
structure ErrorRecord where
  status : Nat
  code : ErrorCode
  message : String
  details : Dict String
  traceId : String
  user : String
  annotations : String
  metadata : String
  deriving DecidableEq

/-- What requests share. -/
structure World (τ : Type) where
  now : Instant
  bags : BagStore
  providers : List KeyProvider
  /-- What becomes of requests to an address. -/
  endpointAt : String → Endpoint
  registry : Registry
  /-- The records of error responses, the earliest first. -/
  log : List ErrorRecord
  trace : τ

namespace World

variable {τ : Type}

/-- A source of keys. A number that stands for none is one whose endpoint nobody listens to. -/
def provider (world : World τ) (index : Nat) : KeyProvider :=
  world.providers.getD index .outage

/-- Answers a question for a key from one of the sources. -/
def resolve (index : Nat) : KeySource (World τ) := fun id world =>
  let (key, provider) := (world.provider index).resolve world.now id
  (key, { world with providers := world.providers.set index provider })

/-- Adds a manager that fetches its keys from an address; the result is its number. -/
def addManager (world : World τ) (address : String) : Nat × World τ :=
  (world.providers.length,
    { world with
      providers := world.providers ++
        [.managed (.new (world.endpointAt address) KeyManager.defaultTtl)] })

/-- The world so many seconds later. -/
def advance (world : World τ) (seconds : Int) : World τ :=
  { world with now := world.now.advance seconds }

end World

end BearerGate
