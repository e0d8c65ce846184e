import BearerGate.Keys.Manager

/-!
# Health checks among callers

A health check has two turns at the lock of a key manager. In the first it looks whether a fresh
set is cached. In the second, which it takes only if there was none, it has a set fetched,
whatever is cached by then. A caller who asks for a key looks and fetches in one turn.

Here checks and callers come to one manager at a time: a move is one step of one visitor, and
whoever can take a step may be the next. Nobody gives up, and the clock stands still.
-/

namespace BearerGate

/-- What a visitor of a manager is told. -/
inductive VisitorAnswer
  | key (key : Except KeyFailure KeyEntry)
  | health (passes : Bool)

/-- Who comes to a manager: a caller, who asks for a key, or a health check. -/
inductive KeyVisitor
  | caller (id : String)
  | check
  deriving DecidableEq

/-- What a visitor is told about the set that it was given, or about the failure to get one. -/
def KeyVisitor.answer (keys : Except KeyFailure KeySet) : KeyVisitor → VisitorAnswer
  | .caller id => .key (keys.bind (·.lookup id))
  | .check => .health keys.isOk

/-- How far a visitor has come. -/
inductive VisitorPhase
  | waiting
  /-- The visitor has the lock, and has not looked at the cache yet. -/
  | looking
  /-- A check has looked, and still has the lock. -/
  | looked (fresh : Bool)
  /-- A check that has found nothing fresh waits for its second turn. -/
  | waitingAgain
  /-- The visitor has the lock, and no set that it could use. -/
  | fetching
  /-- The visitor knows its answer, and still has the lock. -/
  | told (answer : VisitorAnswer)
  | gone (answer : VisitorAnswer)

/-- Whether a visitor has the lock. -/
def VisitorPhase.isInside : VisitorPhase → Bool
  | .looking | .looked _ | .fetching | .told _ => true
  | .waiting | .waitingAgain | .gone _ => false

/-- A manager and its visitors, known by numbers. -/
structure HealthDesk where
  manager : KeyManager
  /-- The visitor that has the lock. -/
  holder : Option Nat
  phase : Nat → VisitorPhase
  /-- The checks that have found nothing fresh, in this order. -/
  missed : List Nat
  /-- The visitors that have had a set fetched, in this order. -/
  asked : List Nat

namespace HealthDesk

/-- A manager before any of its visitors has done a step. -/
def opened (manager : KeyManager) : HealthDesk :=
  ⟨manager, none, fun _ => .waiting, [], []⟩

/-- The desk with a visitor in another phase. -/
def moved (desk : HealthDesk) (visitor : Nat) (phase : VisitorPhase) : HealthDesk :=
  { desk with phase := fun other => if other = visitor then phase else desk.phase other }

/-- The desk after the next step of a visitor, if it can take one. -/
def step (visitors : Nat → KeyVisitor) (now : Instant) (desk : HealthDesk) (c : Nat) :
    Option HealthDesk :=
  match desk.phase c, visitors c with
  | .waiting, _ =>
    if desk.holder.isSome then none else some { desk.moved c .looking with holder := some c }
  | .looking, .caller id =>
    match desk.manager.cache.fresh? now with
    | some keys => some (desk.moved c (.told (.key (keys.lookup id))))
    | none => some (desk.moved c .fetching)
  | .looking, .check =>
    if desk.manager.isCached now then some (desk.moved c (.looked true))
    else some { desk.moved c (.looked false) with missed := desk.missed ++ [c] }
  | .looked true, _ => some { desk.moved c (.gone (.health true)) with holder := none }
  | .looked false, _ => some { desk.moved c .waitingAgain with holder := none }
  | .waitingAgain, _ =>
    if desk.holder.isSome then none else some { desk.moved c .fetching with holder := some c }
  | .fetching, visitor =>
    let (keys, manager) := desk.manager.fetch now
    some { desk.moved c (.told (visitor.answer keys)) with manager, asked := desk.asked ++ [c] }
  | .told answer, _ => some { desk.moved c (.gone answer) with holder := none }
  | .gone _, _ => none

/-- The desk after steps of the given visitors, one after another, if all of them can be taken. -/
def run (visitors : Nat → KeyVisitor) (now : Instant) (desk : HealthDesk) :
    List Nat → Option HealthDesk
  | [] => some desk
  | c :: moves => (desk.step visitors now c).bind (run visitors now · moves)

end HealthDesk

end BearerGate
