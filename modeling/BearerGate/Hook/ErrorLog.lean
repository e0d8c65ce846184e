import BearerGate.Bag.LogFields
import BearerGate.Hook.Basic

/-!
# The error log as a hook

Every error response has one record, with the error and what the request's bag holds at that time.
-/

namespace BearerGate

namespace ErrorRecord

/-- The text that each record has in common. -/
def title : String := "error response"

/-- The record of an error, with what the bag adds. -/
def ofError (error : RpcError) (fields : Option LogFields) : ErrorRecord :=
  { status := error.httpStatus
    code := error.code
    message := error.message
    details := error.details
    traceId := (fields.map (·.traceId)).getD ""
    user := (fields.map (·.user)).getD ""
    annotations := (fields.map fun f => (Json.ofDict f.annotations).text).getD ""
    metadata := ((fields.bind (·.metadata)).map fun m => (Json.ofDict m).text).getD "" }

/-- The details as they are written in a record. -/
def detailsText (record : ErrorRecord) : String :=
  "\x7b" ++ ", ".intercalate (record.details.entries.map fun detail =>
    Text.quote detail.1 ++ ": " ++ Text.quote detail.2) ++ "\x7d"

end ErrorRecord

namespace Hook

variable {τ : Type}

/-- The hook that records error responses. -/
def errorLog : Hook τ :=
  { inert with
    failed := fun context error world =>
      { world with
        log := world.log ++ [.ofError error (context.logFields? .error world.bags)] } }

end Hook

end BearerGate
