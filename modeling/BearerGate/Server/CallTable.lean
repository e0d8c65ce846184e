import BearerGate.Server.Call

/-!
# Calls under way

A server works on many calls at a time. A call table holds the calls, each with the phase that it
has reached, and the world that they share. A move takes one call through its next stage, and any
call may be the one that moves. Between such moves the rest of the world goes on as it likes: time
passes, keys are fetched, endpoints change. Only the metrics are left to the calls.
-/

namespace BearerGate

/-- A call under way. -/
structure Call (τ : Type) where
  request : Request
  handler : Handler τ
  phase : CallPhase
  /-- The world in which the stage of the route began, if it did. -/
  routedIn : Option (World τ)

/-- The response of a call that is over. -/
def CallPhase.response? : CallPhase → Option Response
  | .finished response => some response
  | _ => none

namespace Call

variable {τ : Type}

/-- A call none of whose stages has run. -/
def arriving (request : Request) (handler : Handler τ) : Call τ :=
  ⟨request, handler, .arrived, none⟩

/-- The response, if the call is over. -/
def response? (call : Call τ) : Option Response :=
  call.phase.response?

/-- The world in which the stage of the route began, if this one is that stage or follows it. -/
def routedFrom (call : Call τ) (world : World τ) : Option (World τ) :=
  match call.phase with
  | .received _ => some world
  | _ => call.routedIn

/-- Takes a call through its next stage. A request that matched no registered path is passed on
in a single one. -/
def step (layer : CallLayer τ) (call : Call τ) (world : World τ) : Call τ × World τ :=
  match call.request.pattern with
  | none =>
    match call.phase with
    | .arrived =>
      let (response, after) := call.handler call.request world
      ({ call with phase := .finished response }, after)
    | _ => (call, world)
  | some pattern =>
    let (phase, after) := call.phase.step layer call.handler call.request pattern world
    ({ call with phase, routedIn := call.routedFrom world }, after)

end Call

/-- The calls under way, and the world that they share. -/
structure CallTable (τ : Type) where
  calls : List (Call τ)
  world : World τ

/-- What may happen while calls are under way. -/
inductive CallMove (τ : Type)
  /-- The call at a place of the table goes through its next stage. -/
  | stage (place : Nat)
  /-- The world becomes another, except for the metrics. -/
  | meanwhile (world : World τ)

namespace CallTable

variable {τ : Type}

/-- The calls that have arrived, before any of their stages. -/
def opened (calls : List (Request × Handler τ)) (world : World τ) : CallTable τ :=
  ⟨calls.map fun call => .arriving call.1 call.2, world⟩

/-- The table after a move. -/
def move (layer : CallLayer τ) (table : CallTable τ) : CallMove τ → CallTable τ
  | .stage place =>
    match table.calls[place]? with
    | none => table
    | some call =>
      let (call, world) := call.step layer table.world
      ⟨table.calls.set place call, world⟩
  | .meanwhile world =>
    { table with world := { world with registry := table.world.registry } }

/-- The table after moves, one after another. -/
def run (layer : CallLayer τ) (table : CallTable τ) (moves : List (CallMove τ)) : CallTable τ :=
  moves.foldl (move layer) table

end CallTable

end BearerGate
