import BearerGate.Json.Document
import BearerGate.Keys.Entry

/-!
# Key sets

Key sets, read from the document that an identity service publishes.

A key of another type than RSA and a key whose components are unusable are left out; the others
keep their order. Only a document that is no key set at all has no result.
-/

namespace BearerGate

/-- A key set. It is replaced as a whole and never changed. -/
structure KeySet where
  /-- The usable keys in the order of the document, repeated names included. -/
  keys : List KeyEntry
  /-- When a key was published, in seconds, by name. -/
  publishedAt : Dict Int64
  /-- The longest lifetime that the service gives a token, in seconds. -/
  maxTokenTtl : Option Nat

/-- A key as it is published, not yet decoded. -/
structure PublishedKey where
  type : String
  algorithm : String
  id : String
  modulus : String
  exponent : String
  deriving DecidableEq

namespace PublishedKey

open Json (Document)

/-- The key in one element of a key set document. Every member is a string and may be missing. -/
def ofDocument? (document : Document) : Option PublishedKey := do
  let parts ← document.record? ["kty", "alg", "kid", "n", "e"]
  let type ← Document.part? parts "kty" "" Document.text?
  let algorithm ← Document.part? parts "alg" "" Document.text?
  let id ← Document.part? parts "kid" "" Document.text?
  let modulus ← Document.part? parts "n" "" Document.text?
  let exponent ← Document.part? parts "e" "" Document.text?
  pure ⟨type, algorithm, id, modulus, exponent⟩

/-- The usable key, if there is one: its type is RSA or not given, and its components decode. -/
def usable? (key : PublishedKey) : Option KeyEntry :=
  if key.type ≠ "" ∧ key.type ≠ "RSA" then none
  else
    match KeyEntry.ofComponents key.id key.algorithm key.modulus key.exponent with
    | .ok entry => some entry
    | .error _ => none

end PublishedKey

namespace KeySet

open Json (Document)

/-- When a key was published; zero if the entry does not tell. -/
def publicationTime? (document : Document) : Option Int64 := do
  let parts ← document.record? ["at"]
  Document.part? parts "at" 0 Document.int64?

/-- The publication times by name; of several entries for one name the last counts. -/
def publicationTimes? (document : Document) : Option (Dict Int64) := do
  let members ← document.members?
  let pairs ← members.mapM fun m => (publicationTime? m.2).map fun time => (m.1, time)
  pure (.ofList pairs)

/-- The key set of a document. -/
def ofDocument? (document : Document) : Option KeySet := do
  let parts ← document.record? ["keys", "keysMeta", "maxTokenTTL"]
  let published ← Document.part? parts "keys" [] (Document.list? PublishedKey.ofDocument?)
  let times ← Document.part? parts "keysMeta" .empty publicationTimes?
  let ttl ← Document.part? parts "maxTokenTTL" none (Document.orNull? Document.uint64?)
  pure ⟨published.filterMap PublishedKey.usable?, times, ttl⟩

/-- The key set that the bytes encode. -/
def ofBytes (body : List UInt8) : Except KeyFailure KeySet :=
  match (Document.ofBytes? body).bind ofDocument? with
  | some keys => .ok keys
  | none => .error (.undecodable KeyFailure.undisclosed)

/-- The first key with the given name. -/
def find? (keys : KeySet) (id : String) : Option KeyEntry :=
  keys.keys.find? fun key => key.id = id

/-- The names of the keys, in order. -/
def ids (keys : KeySet) : List String :=
  keys.keys.map (·.id)

/-- The first key with the given name, or the failure that there is none. -/
def lookup (keys : KeySet) (id : String) : Except KeyFailure KeyEntry :=
  match keys.find? id with
  | some key => .ok key
  | none => .error (.notFound id)

theorem lookup_eq_ok_iff_find? {keys : KeySet} {id : String} {key : KeyEntry} :
    keys.lookup id = .ok key ↔ keys.find? id = some key := by
  unfold lookup
  cases keys.find? id with
  | none => simp
  | some other => simp

theorem lookup_eq_notFound_iff {keys : KeySet} {id : String} :
    keys.lookup id = .error (.notFound id) ↔ keys.find? id = none := by
  unfold lookup
  cases keys.find? id with
  | none => simp
  | some other => simp

end KeySet

end BearerGate
