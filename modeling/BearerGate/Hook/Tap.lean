import BearerGate.Hook.Basic

/-!
# A hook that notes the stages that reach it

Its notes are kept in the part of the world that is left to hooks.
-/

namespace BearerGate

/-- A stage that has reached a hook. -/
inductive StageEvent
  | received
  | routed
  | sent
  | failed (error : RpcError)
  deriving DecidableEq

/-- The name of a stage. -/
def StageEvent.name : StageEvent → String
  | .received => "received"
  | .routed => "routed"
  | .sent => "sent"
  | .failed _ => "error"

namespace Hook

variable {τ : Type}

/-- The world with a note of a stage. -/
def noted (note : StageEvent → Context → World τ → τ) (event : StageEvent) (context : Context)
    (world : World τ) : World τ :=
  { world with trace := note event context world }

/-- The hook that notes each stage and then fails the stages for which an error is given. -/
def tap (note : StageEvent → Context → World τ → τ) (failReceived failRouted : Option RpcError) :
    Hook τ where
  received context world := ⟨context, noted note .received context world, failReceived⟩
  routed context world := ⟨context, noted note .routed context world, failRouted⟩
  sent context world := noted note .sent context world
  failed context error world := noted note (.failed error) context world

end Hook

end BearerGate
