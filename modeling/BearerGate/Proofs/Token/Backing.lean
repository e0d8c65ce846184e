import BearerGate.Proofs.Keys.CacheHistory
import BearerGate.Proofs.Outcome
import BearerGate.Proofs.Token.Verdict

/-!
# What stands behind an accepted token

A manager answers from the set that its latest successful request brought, so a token that it
accepts is signed with a key that was published then: either by this very validation, or less than
one lifetime ago.

The cache alone does not tell when its set was fetched. What carries the proof through a run is
`KeyCache.Holds`, which ties the cache to one request of the manager's list.
-/

namespace BearerGate

/-! ## Keys of a set -/

/-- A key is the first one of its name in a set. -/
def KeySet.HasFirst (keys : KeySet) (id : String) (key : KeyEntry) : Prop :=
  ∃ earlier later, keys.keys = earlier ++ key :: later ∧ key.id = id ∧
    ∀ other ∈ earlier, other.id ≠ id

theorem KeySet.lookup_eq_ok_iff {keys : KeySet} {id : String} {key : KeyEntry} :
    keys.lookup id = .ok key ↔ keys.HasFirst id key := by
  rw [lookup_eq_ok_iff_find?, find?, List.find?_eq_some_iff_append]
  unfold HasFirst
  simp only [decide_eq_true_eq, Bool.not_eq_true', decide_eq_false_iff_not]
  constructor
  · rintro ⟨named, earlier, later, split, others⟩
    exact ⟨earlier, later, split, named, others⟩
  · rintro ⟨earlier, later, split, named, others⟩
    exact ⟨named, earlier, later, split, others⟩

namespace KeyManager

/-! ## The set that a manager answers from -/

/-- Where a manager has its keys from that gives an answer: the cached set is fresh, or a request
brings a set now. -/
theorem currentKeys_cases {manager after : KeyManager} {turn : Turn} {keys : KeySet}
    (current : manager.currentKeys turn = (.ok keys, after)) :
    (after = manager ∧ turn.served.nanos < manager.cache.staleAfter.nanos ∧
        manager.cache.keys = some keys) ∨
      ∃ request : KeyRequest, request.ended = turn.ended ∧ request.outcome = .ok keys ∧
        after = (manager.settle request).2 := by
  unfold currentKeys at current
  split at current
  · next cached fresh =>
    cases current
    obtain ⟨early, held⟩ := KeyCache.fresh?_eq_some_iff.mp fresh
    exact .inl ⟨rfl, early, held⟩
  · unfold fetch at current
    refine .inr ⟨⟨manager.endpoint, turn.ended, true⟩, rfl, ?_, by rw [current]⟩
    rw [← manager.settle_fst, current]

theorem resolve_eq_ok {manager after : KeyManager} {turn : Turn} {id : String} {key : KeyEntry}
    (resolved : manager.resolve turn id = (.ok key, after)) :
    ∃ keys, manager.currentKeys turn = (.ok keys, after) ∧ keys.HasFirst id key := by
  unfold resolve at resolved
  cases current : manager.currentKeys turn with
  | mk result next =>
    rw [current] at resolved
    cases result with
    | error failure => cases resolved
    | ok keys =>
      rw [Prod.mk.injEq] at resolved
      obtain ⟨found, rfl⟩ := resolved
      exact ⟨keys, rfl, KeySet.lookup_eq_ok_iff.mp found⟩

/-- A key that a manager gives is in the set that the latest successful request brought. That
request belongs to this question, or the set is younger than one lifetime. -/
theorem resolve_from_last_install {manager after : KeyManager} {turn : Turn} {id : String}
    {key : KeyEntry} (holds : manager.cache.Holds manager.ttl manager.lastInstall?)
    (resolved : manager.resolve turn id = (.ok key, after)) :
    ∃ install body keys, after.lastInstall? = some install ∧
      install.endpoint = .answers 200 body ∧ KeySet.ofBytes body = .ok keys ∧
      keys.HasFirst id key ∧
      ((manager.lastInstall? = some install ∧
          turn.served.nanos < install.ended.nanos + manager.ttl.nanos) ∨
        (after.requests = install :: manager.requests ∧ install.ended = turn.ended)) := by
  obtain ⟨keys, current, first⟩ := resolve_eq_ok resolved
  -- A cached set comes from the request that the invariant names, a fetched one from its own.
  rcases currentKeys_cases current with ⟨rfl, early, held⟩ | ⟨request, ended, brought, rfl⟩
  · cases last : after.lastInstall? with
    | none =>
      rw [last] at holds
      rw [holds.1] at held
      cases held
    | some install =>
      rw [last] at holds
      obtain ⟨body, published, answered, decoded, cached, stale⟩ := holds
      rw [cached] at held
      cases held
      exact ⟨install, body, keys, rfl, answered, decoded, first, .inl ⟨rfl, by omega⟩⟩
  · obtain ⟨-, body, answered, decoded⟩ := KeyRequest.outcome_eq_ok_iff.mp brought
    have succeeds := KeyRequest.succeeds_iff.mpr ⟨keys, brought⟩
    exact ⟨request, body, keys, settle_lastInstall?_of_succeeds succeeds, answered, decoded, first,
      .inr ⟨manager.settle_requests request, ended⟩⟩

/-! ## Readings of the clock -/

/-- On a clock that is never set back, a validation behind a run begins after it and holds the
claims against the clock last. -/
theorem readings_ordered {events : List KeyEvent} {turn : Turn} {judged : Instant} {leeway : Nat}
    {token type : String}
    (ordered : ((events ++ [KeyEvent.validate turn judged leeway token type]).flatMap
      KeyEvent.readings).Pairwise (· ≤ ·)) :
    (∀ past ∈ events.flatMap KeyEvent.readings, past ≤ turn.served) ∧
      turn.served ≤ judged ∧ turn.ended ≤ judged := by
  have readings : (events.flatMap KeyEvent.readings ++
      [turn.served, turn.ended, judged]).Pairwise (· ≤ ·) := by
    rw [List.flatMap_append] at ordered
    exact ordered
  obtain ⟨-, here, before⟩ := List.pairwise_append.mp readings
  simp only [List.pairwise_cons] at here
  exact ⟨fun past read => before past read turn.served List.mem_cons_self,
    here.1 judged (by simp), here.2.1 judged (by simp)⟩

end KeyManager

/-! ## Accepted tokens -/

/-- What a validation has used to accept a token: the request that brought the key set, the set in
the body of its answer, the key, and what was read in the token. -/
structure KeyUse where
  install : KeyRequest
  body : List UInt8
  keys : KeySet
  key : KeyEntry
  id : String
  read : ReadToken
  algorithm : RsaAlgorithm

/-- What was used backs the claims of a token that is validated with `manager`, whose sets live for
`ttl`. -/
structure KeyUse.Backs (use : KeyUse) (manager : KeyManager) (ttl : Span) (turn : Turn)
    (judged : Instant) (leeway : Nat) (token type : String) (claims : Claims) : Prop where
  installed :
    (manager.validate turn judged leeway token type).2.lastInstall? = some use.install
  answered : use.install.endpoint = .answers 200 use.body
  decoded : KeySet.ofBytes use.body = .ok use.keys
  past : use.install.ended ≤ judged
  recent :
    (manager.validate turn judged leeway token type).2.requests = use.install :: manager.requests ∨
      use.install.ended ≤ turn.served ∧
        turn.served.nanos < use.install.ended.nanos + ttl.nanos
  first : use.keys.HasFirst use.id use.key
  asks : AsksFor token type use.read use.algorithm use.id
  signed : SignedWith use.read use.algorithm use.key
  given : claims = use.read.claims
  running : ¬ claims.Expired judged.second leeway
  begun : ¬ claims.NotYetValid judged.second leeway

/-- Claims that a manager's keys let pass are backed by the latest successful request of the run.
It ended before, by the clock, and it belongs to this validation or is younger than one lifetime
when the caller is served; in a call in which no time passes the three readings are one. -/
theorem KeyManager.validate_ok_backed {endpoint : Endpoint} {ttl : Span}
    {events : List KeyEvent} {turn : Turn} {judged : Instant} {leeway : Nat}
    {token type : String} {claims : Claims}
    (ordered : ((events ++ [KeyEvent.validate turn judged leeway token type]).flatMap
      KeyEvent.readings).Pairwise (· ≤ ·))
    (accepted : (((new endpoint ttl).run events).validate turn judged leeway token type).1 =
      .ok claims) :
    ∃ use : KeyUse,
      use.Backs ((new endpoint ttl).run events) ttl turn judged leeway token type claims := by
  have holds := run_holds events (new_holds endpoint ttl)
  have lifetime : ((new endpoint ttl).run events).ttl = ttl := run_ttl _ events
  cases validated : ((new endpoint ttl).run events).validate turn judged leeway token type with
  | mk result after =>
    rw [validated] at accepted
    dsimp only at accepted
    subst accepted
    obtain ⟨names, verdict⟩ := verdict_of_validateToken_eq validated
    cases verdict with
    | @accepted read algorithm id key after asks found signed shaped running begun =>
      obtain ⟨install, body, keys, last, answered, decoded, first, origin⟩ :=
        resolve_from_last_install holds found
      obtain ⟨before, served, ended⟩ := readings_ordered ordered
      have earlier (last : ((new endpoint ttl).run events).lastInstall? = some install) :
          install.ended ≤ turn.served :=
        before install.ended (ended_mem_readings (mem_requests_of_lastInstall? last))
      have past : install.ended ≤ judged := by
        rcases origin with ⟨last, -⟩ | ⟨-, own⟩
        · exact Int.le_trans (earlier last) served
        · rw [own]
          exact ended
      refine ⟨⟨install, body, keys, key, id, read, algorithm⟩, ?_, answered, decoded, past, ?_,
        first, asks, signed, rfl, running, begun⟩
      · rw [validated]
        exact last
      · rw [validated]
        rcases origin with ⟨last, young⟩ | ⟨own, -⟩
        · rw [lifetime] at young
          exact .inr ⟨earlier last, young⟩
        · exact .inl own

/-- A document that publishes the sample key. -/
def sampleDocument : List UInt8 :=
  Text.Utf8.encode <|
    "\x7b\"keys\":[\x7b\"kid\":\"k\",\"alg\":\"RS256\",\"e\":\"Aw\",\"n\":\"" ++
      "1rpoHhxBUgTy238OLylSoQ2mv8kzWnYXrlxzizM_lOMGsIde1p5Z4g9w3q6X3xQfK5U3ReQkLExdJ9z4tuDGxw" ++
      "\"\x7d]\x7d"

/-- A token that is signed with the sample key. Its payload is an object with nothing but the type.
-/
def sampleToken : String :=
  "eyJhbGciOiJSUzI1NiIsImtpZCI6ImsifQ.eyJudHQiOiJhY2Nlc3NfdG9rZW4ifQ." ++
    "xYZhEI40DGxGUWnO6G3VrMc4__28bwh_ej3KU4RNxdDVaXN32-oz5oqcjBpnVCaJdU4TfkNAN6XGm3JEx0DvWw"

/-- A set is fetched, and five seconds later a refresh fails. -/
def sampleHistory : List KeyEvent :=
  [.refresh (.ofSeconds 0), .turnsTo .drops, .refresh (.ofSeconds 5)]

theorem KeyManager.validate_ok_backed_sample :
    ∃ claims, ∃ use : KeyUse,
      use.Backs ((new (.answers 200 sampleDocument) (.ofSeconds 10)).run sampleHistory)
        (.ofSeconds 10) (Turn.still (.ofSeconds 7)) (.ofSeconds 7) 60 sampleToken accessTokenType
        claims := by
  have passes : (((new (.answers 200 sampleDocument) (.ofSeconds 10)).run sampleHistory).validate
      (Turn.still (.ofSeconds 7)) (.ofSeconds 7) 60 sampleToken accessTokenType).1.isOk = true := by
    decide +kernel
  obtain ⟨claims, accepted⟩ := exists_eq_ok_of_isOk passes
  exact ⟨claims, validate_ok_backed (by decide) accepted⟩

end BearerGate
