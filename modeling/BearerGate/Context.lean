import BearerGate.Auth.State
import BearerGate.Bag.Store
import BearerGate.Http.Headers
import BearerGate.Rpc.Route
import BearerGate.Time

/-!
# Request contexts

A context carries at most one value of each kind through the handling of a request. Contexts are
values: one that is derived from another leaves the other as it was. Only the bag that a context
names is shared by all contexts that name it.
-/

namespace BearerGate

/-- What is known about a request. -/
structure Context where
  route : Option Route
  status : Option Nat
  headers : Option Headers
  auth : Option AuthState
  bag : Option BagRef
  /-- When the request was received. -/
  received : Option Instant
  /-- Values that applications add under names of their own. -/
  extras : Dict Json

/-- The kinds of values in a context. -/
inductive Slot
  | route
  | status
  | headers
  | auth
  | bag
  | received
  | extra (name : String)
  deriving DecidableEq

/-- The values of a kind. -/
abbrev Slot.Value : Slot → Type
  | .route => Route
  | .status => Nat
  | .headers => Headers
  | .auth => AuthState
  | .bag => BagRef
  | .received => Instant
  | .extra _ => Json

namespace Context

/-- The context without values. -/
def empty : Context := ⟨none, none, none, none, none, none, .empty⟩

instance : EmptyCollection Context := ⟨empty⟩
instance : Inhabited Context := ⟨empty⟩

/-- The value of a kind. -/
def get? (context : Context) : (slot : Slot) → Option slot.Value
  | .route => context.route
  | .status => context.status
  | .headers => context.headers
  | .auth => context.auth
  | .bag => context.bag
  | .received => context.received
  | .extra name => context.extras.get? name

/-- The context with a value, which replaces another of its kind. -/
def put (context : Context) : (slot : Slot) → slot.Value → Context
  | .route, value => { context with route := some value }
  | .status, value => { context with status := some value }
  | .headers, value => { context with headers := some value }
  | .auth, value => { context with auth := some value }
  | .bag, value => { context with bag := some value }
  | .received, value => { context with received := some value }
  | .extra name, value => { context with extras := context.extras.insert name value }

/-- A context that knows the headers of its request. -/
def ofHeaders (headers : Headers) : Context :=
  empty.put .headers headers

/-- The outcome of authentication. -/
def authState (context : Context) : AuthState :=
  context.auth.getD .notPresent

/-- The context with the outcome of an attempt to authenticate. -/
def withAuth (context : Context) (result : Except AuthFailure AuthInfo) : Context :=
  context.put .auth (.ofResult result)

/-- The verified token, or why there is none. -/
def authInfo (context : Context) : Except AuthFailure AuthInfo :=
  context.authState.result

/-- The context with a bag for the segment, or with one that stands alone. -/
def attachBag (context : Context) (segment : Option Segment) (bags : BagStore) :
    Context × BagStore :=
  let (bag, bags) := bags.attach segment
  (context.put .bag bag, bags)

/-- Sets the user of the context's bag, if it has one. -/
def setUser (context : Context) (user : String) (bags : BagStore) : BagStore :=
  match context.bag with
  | some bag => bags.setUser bag user
  | none => bags

/-- Writes an annotation to the context's bag, if it has one. -/
def annotate (context : Context) (name : String) (value : Json) (bags : BagStore) : BagStore :=
  match context.bag with
  | some bag => bags.annotate bag name value
  | none => bags

/-- Writes metadata to the context's bag, if it has one. -/
def addMetadata (context : Context) (name : String) (value : Json) (bags : BagStore) : BagStore :=
  match context.bag with
  | some bag => bags.addMetadata bag name value
  | none => bags

end Context

end BearerGate
