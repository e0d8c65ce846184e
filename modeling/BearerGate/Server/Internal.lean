import BearerGate.Http.Path
import BearerGate.Http.Response
import BearerGate.Keys.Manager
import BearerGate.Metrics.Exposition

/-!
# Internal endpoints

One tells whether the server can do its work, the other shows its metrics. The server can do its
work if keys can be had, or if it needs none.
-/

namespace BearerGate

/-- What the internal endpoints look at. -/
structure Internals where
  manager : Option KeyManager
  exporter : Option Exporter
  registry : Registry

namespace Internals

/-- The word for the outcome of a check. -/
def outcomeText (passed : Bool) : String := if passed then "pass" else "fail"

/-- The response to a question for health, given the outcome of the check of the keys if there is
one. -/
def healthResponse (keys : Option Bool) : Response :=
  let passed := keys.getD true
  .json (if passed then 200 else 500) <| .object
    [("status", .string (outcomeText passed)),
      ("checks", .object (keys.toList.map fun passed => ("jwks", .string (outcomeText passed))))]

/-- Checks the keys and answers with the outcome. -/
def health (internals : Internals) (turn : Turn) : Response × Internals :=
  match internals.manager with
  | none => (healthResponse none, internals)
  | some manager =>
    let (passed, manager) := manager.check turn
    (healthResponse (some passed), { internals with manager := some manager })

/-- The type of the text that shows metrics. -/
def expositionType : String := "text/plain; version=0.0.4"

/-- Shows the metrics, if they are collected. -/
def metrics (internals : Internals) : Response × Internals :=
  match internals.exporter with
  | some exporter =>
    let (text, exporter, registry) := exporter.render internals.registry
    (⟨200, some expositionType, text, none⟩,
      { internals with exporter := some exporter, registry })
  | none => (⟨404, some expositionType, "", none⟩, internals)

/-- Answers a request for what stands at a path. -/
def get (internals : Internals) (path : String) (turn : Turn) : Response × Internals :=
  if withoutQuery path = "/health" then internals.health turn
  else if withoutQuery path = "/metrics" then internals.metrics
  else (.bare 404, internals)

end Internals

end BearerGate
