import BearerGate.Keys.Manager

/-!
# Callers side by side

Many callers may ask one manager for keys at a time. They queue for a lock, and the one that has
it looks whether the cached set is fresh, fetches a new one if it is not, and lets the lock go
before it looks its key up. Here this is taken apart: a move is one step of one caller, and any
caller that can take a step may be the next. Who of the queue gets the lock is left open, too.

A caller that may give up has a token that fires at some time, if it fires at all. The caller
looks at its token when it is about to wait and when a wait is over: before it queues, when the
lock is offered to it, and when its request has an answer. Once the token has fired, all that it
can do there is to leave, which takes it out of the queue, or gives the lock back and leaves the
request without anyone who waits for its answer.
-/

namespace BearerGate

/-- Who asks for a key. The readings of the clock and the endpoint are those that the caller meets
with in its turn. -/
structure KeyCaller where
  id : String
  turn : Turn
  endpoint : Endpoint
  /-- Whether the caller has a token that may fire. -/
  cancellable : Bool

/-- How far a caller has come. -/
inductive CallerPhase
  | started
  | queued
  /-- The caller has the lock, and has not looked at the cache yet. -/
  | admitted
  /-- A request is under way. -/
  | fetching
  /-- The request has an answer, which has not been dealt with. -/
  | fetched
  | holding (keys : Except KeyFailure KeySet)
  /-- The lock is given back, and the key is not looked up yet. -/
  | released (keys : Except KeyFailure KeySet)
  | answered (key : Except KeyFailure KeyEntry)
  | cancelled

namespace CallerPhase

/-- Whether a caller has the lock. -/
def isInside : CallerPhase → Bool
  | .admitted | .fetching | .fetched | .holding _ => true
  | _ => false

/-- Whether a caller has sent a request that is not dealt with. -/
def isFetching : CallerPhase → Bool
  | .fetching | .fetched => true
  | _ => false

/-- Whether a caller has given up. -/
def isCancelled : CallerPhase → Bool
  | .cancelled => true
  | _ => false

/-- What a caller was told. -/
def result? : CallerPhase → Option (Except KeyFailure KeyEntry)
  | .answered key => some key
  | .cancelled => some (.error .cancelled)
  | _ => none

end CallerPhase

/-- The steps of a caller. -/
inductive CallerStep
  | queue
  | acquire
  | check
  | arrive
  | install
  | release
  | lookup
  /-- The token fires. -/
  | fire
  | giveUp
  deriving DecidableEq

/-- A step of one of the callers. -/
structure KeyMove where
  caller : Nat
  step : CallerStep
  deriving DecidableEq

/-- A manager and its callers, known by numbers. -/
structure KeyDesk where
  manager : KeyManager
  /-- The caller that has the lock. -/
  holder : Option Nat
  phase : Nat → CallerPhase
  /-- The callers whose tokens have fired. -/
  fired : Nat → Bool
  /-- The callers that have got the lock, in this order. -/
  order : List Nat
  /-- The callers that have sent a request, in this order, once for each request. -/
  asked : List Nat

namespace KeyDesk

/-- A manager before any of its callers has done a step. -/
def opened (manager : KeyManager) : KeyDesk :=
  ⟨manager, none, fun _ => .started, fun _ => false, [], []⟩

/-- The desk with a caller in another phase. -/
def moved (desk : KeyDesk) (caller : Nat) (phase : CallerPhase) : KeyDesk :=
  { desk with phase := fun other => if other = caller then phase else desk.phase other }

/-- The desk after a move, if the caller can take the step. -/
def step (callers : Nat → KeyCaller) (desk : KeyDesk) (move : KeyMove) : Option KeyDesk :=
  let c := move.caller
  let caller := callers c
  match move.step, desk.phase c with
  | .queue, .started => if desk.fired c then none else some (desk.moved c .queued)
  | .acquire, .queued =>
    if desk.fired c || desk.holder.isSome then none
    else
      some { desk.moved c .admitted with
        holder := some c
        manager := { desk.manager with endpoint := caller.endpoint }
        order := desk.order ++ [c] }
  | .check, .admitted =>
    match desk.manager.cache.fresh? caller.turn.served with
    | some keys => some (desk.moved c (.holding (.ok keys)))
    | none => some { desk.moved c .fetching with asked := desk.asked ++ [c] }
  | .arrive, .fetching => if desk.fired c then none else some (desk.moved c .fetched)
  | .install, .fetched =>
    let (keys, manager) := desk.manager.fetch caller.turn.ended
    some { desk.moved c (.holding keys) with manager }
  | .release, .holding keys => some { desk.moved c (.released keys) with holder := none }
  | .lookup, .released keys => some (desk.moved c (.answered (keys.bind (·.lookup caller.id))))
  | .fire, _ =>
    if caller.cancellable then
      some { desk with fired := fun other => other = c || desk.fired other }
    else none
  | .giveUp, .started | .giveUp, .queued =>
    if desk.fired c then some (desk.moved c .cancelled) else none
  | .giveUp, .fetching =>
    if desk.fired c then
      some { desk.moved c .cancelled with
        holder := none
        manager := (desk.manager.abandon caller.turn.ended).2 }
    else none
  | _, _ => none

/-- The desk after moves, one after another, if all of them can be made. -/
def run (callers : Nat → KeyCaller) (desk : KeyDesk) : List KeyMove → Option KeyDesk
  | [] => some desk
  | move :: moves => (desk.step callers move).bind (run callers · moves)

end KeyDesk

end BearerGate
