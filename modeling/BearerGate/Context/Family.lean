import BearerGate.Bag.Requests
import BearerGate.Context

/-!
# Contexts side by side

A program has any number of contexts, known by numbers; a number stands for the context without
values until it is given another. A step makes a context, out of nothing or out of one that there
is, and gives it a number, or it makes a request to the bag of a context and gives no number.

A bag that a context has can be put into another context like any other value. So two contexts may
have one bag although neither is derived from the other.
-/

namespace BearerGate

namespace Context

/-- What becomes of a request that is made through a context. -/
def ask (context : Context) (bags : BagStore) : BagRequest → BagStore
  | .setUser user => context.setUser user bags
  | .annotate name value => context.annotate name value bags
  | .addMetadata name value => context.addMetadata name value bags
  | .showUser | .showAnnotations | .showMetadata => bags

/-- The context with the bag of another, if that has one. -/
def withBagOf (context giver : Context) : Context :=
  match giver.bag with
  | some bag => context.put .bag bag
  | none => context

end Context

/-- A step of a program with contexts. The first number is the one that is given the result. -/
inductive ContextStep
  | new (target : Nat)
  | ofHeaders (target : Nat) (headers : Headers)
  | clone (target source : Nat)
  /-- A context with one more value than the source. -/
  | derive (target source : Nat) (slot : Slot) (value : slot.Value) (notBag : slot ≠ .bag)
  /-- The target itself is given the value. -/
  | put (target : Nat) (slot : Slot) (value : slot.Value) (notBag : slot ≠ .bag)
  | authenticate (target source : Nat) (result : Except AuthFailure AuthInfo)
  | attachBag (target source : Nat) (segment : Option Segment)
  /-- A context with the values of the source and the bag of the giver, if there is one. -/
  | passBag (target source giver : Nat)
  | ask (through : Nat) (request : BagRequest)

namespace ContextStep

/-- The number that is given the result. -/
def target? : ContextStep → Option Nat
  | .new target | .ofHeaders target _ | .clone target _ | .derive target .. | .put target ..
  | .authenticate target .. | .attachBag target .. | .passBag target .. => some target
  | .ask .. => none

/-- The number of the context that the result is made of. -/
def source? : ContextStep → Option Nat
  | .clone _ source | .derive _ source .. | .put source .. | .authenticate _ source _
  | .attachBag _ source _ | .passBag _ source _ => some source
  | .new _ | .ofHeaders .. | .ask .. => none

/-- The kind of value that the result may have another of than its source. -/
def slot? : ContextStep → Option Slot
  | .ofHeaders .. => some .headers
  | .derive _ _ slot .. | .put _ slot .. => some slot
  | .authenticate .. => some .auth
  | .attachBag .. | .passBag .. => some .bag
  | .new _ | .clone .. | .ask .. => none

end ContextStep

/-- Contexts by number, and all bags. -/
structure ContextFamily where
  contexts : Nat → Context
  bags : BagStore

namespace ContextFamily

/-- The family before the first step. The ids of bags that stand alone come from a supply. -/
def opened (newId : Nat → String) : ContextFamily :=
  ⟨fun _ => .empty, .new newId⟩

/-- The family in which a number stands for the given context. -/
def given (family : ContextFamily) (target : Nat) (context : Context) : ContextFamily :=
  { family with
    contexts := fun number => if number = target then context else family.contexts number }

/-- The family after a step. -/
def step (family : ContextFamily) : ContextStep → ContextFamily
  | .new target => family.given target .empty
  | .ofHeaders target headers => family.given target (.ofHeaders headers)
  | .clone target source => family.given target (family.contexts source)
  | .derive target source slot value _ =>
    family.given target ((family.contexts source).put slot value)
  | .put target slot value _ => family.given target ((family.contexts target).put slot value)
  | .authenticate target source result =>
    family.given target ((family.contexts source).withAuth result)
  | .attachBag target source segment =>
    let (context, bags) := (family.contexts source).attachBag segment family.bags
    { family.given target context with bags }
  | .passBag target source giver =>
    family.given target ((family.contexts source).withBagOf (family.contexts giver))
  | .ask through request =>
    { family with bags := (family.contexts through).ask family.bags request }

/-- The family after steps, one after another. -/
def run (family : ContextFamily) (steps : List ContextStep) : ContextFamily :=
  steps.foldl step family

/-- What is to be seen of a bag through the context of a number. -/
def shown (family : ContextFamily) (number : Nat) : Option BagContents :=
  (family.contexts number).bag.map family.bags.contents

end ContextFamily

end BearerGate
