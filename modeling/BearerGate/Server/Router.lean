import BearerGate.Auth.Authenticator
import BearerGate.Http.Path
import BearerGate.Server.Call

/-!
# Routing

Handlers are registered for methods and paths, and layers run around all of them, around the
answers to requests that nothing is registered for included.
-/

namespace BearerGate

/-- A handler that is registered for a method and a path. -/
structure Registration (τ : Type) where
  method : String
  pattern : String
  handler : Handler τ

/-- What stands around handlers. -/
inductive Layer (τ : Type)
  | hooks (layer : CallLayer τ)
  | authenticate (authenticator : Authenticator)

namespace Layer

variable {τ : Type}

/-- Authenticates a request and leaves the outcome to the handler. -/
def authenticated (authenticator : Authenticator) (handler : Handler τ) : Handler τ :=
  fun request world =>
    let (context, world) :=
      authenticator.authenticate request.knownContext (some request.headers) world
    handler { request with context := some context } world

/-- The handler with a layer around it. -/
def around (layer : Layer τ) (handler : Handler τ) : Handler τ :=
  match layer with
  | .hooks calls => calls.serve handler
  | .authenticate authenticator => authenticated authenticator handler

end Layer

/-! ## The router -/

/-- The methods whose requests a registration for `method` answers. -/
def answersMethod (method requested : String) : Bool :=
  method = requested || (method = "GET" && requested = "HEAD")

/-- Registered handlers and the layers around them, the outermost first. -/
structure Router (τ : Type) where
  registrations : List (Registration τ)
  layers : List (Layer τ)

namespace Router

variable {τ : Type}

/-- The answer to a request for a path that nothing is registered for. -/
def notFound : Handler τ := fun _ world => (.bare 404, world)

/-- The answer to a request with a method that nothing is registered for. -/
def methodNotAllowed : Handler τ := fun _ world => (.bare 405, world)

/-- The handler for a method on a registered path. -/
def handlerFor (router : Router τ) (pattern method : String) : Handler τ :=
  let offered := router.registrations.filter fun r => r.pattern = pattern
  match offered.find? (fun r => r.method = method) with
  | some registration => registration.handler
  | none =>
    match offered.find? (fun r => answersMethod r.method method) with
    | some registration => registration.handler
    | none => methodNotAllowed

/-- What the handler answers, with the layers around it. -/
def layered (router : Router τ) (handler : Handler τ) : Handler τ :=
  router.layers.foldr Layer.around handler

/-- Answers a request. A request for the head alone gets no body. -/
def serve (router : Router τ) : Handler τ := fun request world =>
  let path := withoutQuery request.path
  let pattern := PathPattern.select? (router.registrations.map (·.pattern)) path
  let handler := match pattern with
    | some pattern => router.handlerFor pattern request.method
    | none => notFound
  let (response, world) := router.layered handler { request with path, pattern } world
  (if request.method = "HEAD" then response.withoutBody else response, world)

end Router

end BearerGate
