import BearerGate.Context

/-!
# What a bag adds to a log record

The user and the annotations are always added. Metadata is added to warnings and errors only.
-/

namespace BearerGate

/-- How grave a log record is. -/
inductive LogLevel
  | error
  | warn
  | info
  | debug
  | trace
  deriving DecidableEq

namespace LogLevel

/-- Whether records of a level show metadata. -/
def showsMetadata : LogLevel → Bool
  | .error | .warn => true
  | .info | .debug | .trace => false

end LogLevel

/-- What a bag adds to a log record. -/
structure LogFields where
  traceId : String
  user : String
  annotations : Dict Json
  metadata : Option (Dict Json)

namespace Context

/-- What the context's bag adds to a log record, if the context has a bag. -/
def logFields? (context : Context) (level : LogLevel) (bags : BagStore) : Option LogFields :=
  context.bag.map fun bag =>
    let contents := bags.contents bag
    { traceId := bags.id bag
      user := contents.user
      annotations := contents.annotations.map Scalar.toJson
      metadata := if level.showsMetadata then some contents.metadata else none }

end Context

end BearerGate
