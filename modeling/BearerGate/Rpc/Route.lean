import BearerGate.Text.Split

/-!
# Routes of calls

A call is addressed by a service and a method below a prefix: `/twirp/demo.Greeter/Hello`.
-/

namespace BearerGate

/-- The service and the method that a call is for. -/
structure Route where
  service : String
  method : String
  deriving DecidableEq

namespace Route

/-- The prefix of all calls if nothing else is asked for. -/
def defaultPrefix : String := "/twirp"

/-- The route that the characters of a path below the prefix denote. -/
def ofChars? (path lead : List Char) : Option Route := do
  let below ← Text.stripLead lead path
  let rest ← Text.stripLead ['/'] below
  let (service, method) ← Text.splitOnce '/' rest
  if service.isEmpty || method.isEmpty || method.contains '/' then none
  else pure ⟨String.ofList service, String.ofList method⟩

/-- The route that a path denotes: behind the prefix stand the service and the method, each after
a slash, neither empty nor with a slash in it. -/
def parse? (path lead : String) : Option Route :=
  ofChars? path.toList lead.toList

/-- The path of a route. -/
def path (lead : String) (route : Route) : String :=
  lead ++ "/" ++ route.service ++ "/" ++ route.method

end Route

end BearerGate
