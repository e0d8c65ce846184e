import BearerGate.Bag.LogFields
import BearerGate.Hook.ErrorLog

/-!
# Values for inspection

What the library's values look like to someone who inspects a running server: each has a
description as a JSON value. Numbers that may be large stand in strings, doubles as the digits of
their 64 bits. In the description of a context all members stand in order of name.
-/

namespace BearerGate

namespace Json

/-- The description of a value that may be missing. -/
def ofOption {α : Type} (value : Option α) (view : α → Json) : Json :=
  match value with
  | some a => view a
  | none => .null

/-- A natural number that may be large. -/
def natural (n : Nat) : Json := .string (toString n)

end Json

/-- The sixteen digits of the bits of a double. -/
def Double.view (x : Double) : Json :=
  let digits := Text.hexDigits x.bits.toNat
  .string (String.ofList (List.replicate (16 - digits.length) '0' ++ digits))

/-! ## Failures -/

/-- The word for the kind of a failure. -/
def KeyFailure.kind : KeyFailure → String
  | .transport _ => "Fetch"
  | .status _ => "Status"
  | .undecodable _ => "Decode"
  | .invalidKey .. => "InvalidKey"
  | .notFound _ => "KeyNotFound"
  | .cancelled => "Cancelled"

/-- The word for the kind of a failure. -/
def MetricsFailure.kind : MetricsFailure → String
  | .alreadyRegistered _ => "AlreadyRegistered"
  | .labelCount .. => "LabelCount"
  | .exporter _ => "Exporter"

/-- The description of anything that has a kind and a wording. -/
def failureView (kind message : String) : Json :=
  .object [("error", .string kind), ("message", .string message)]

/-- The description of a failure. -/
def KeyFailure.view (failure : KeyFailure) : Json := failureView failure.kind failure.message

/-- The description of a failure. -/
def MetricsFailure.view (failure : MetricsFailure) : Json :=
  failureView failure.kind failure.message

/-- The description of a failure. -/
def AuthFailure.view (failure : AuthFailure) : Json := failureView failure.code failure.message

/-- The members of the description of a rejection. -/
def TokenRejection.members (rejection : TokenRejection) : List (String × Json) :=
  match rejection with
  | .invalid fault =>
    [("error", .string "Invalid"), ("reason", .string fault.tag),
      ("message", .string rejection.message)]
  | .keysUnavailable _ =>
    [("error", .string "KeySetUnavailable"), ("message", .string rejection.message)]

/-- The description of an error. -/
def RpcError.view (error : RpcError) : Json :=
  .object [("code", .string error.code.name), ("msg", .string error.message),
    ("meta", .ofDict (error.details.map .string)), ("display", .string error.display),
    ("http_status", .int error.httpStatus)]

/-- The members of the description of a response. -/
def Response.members (response : Response) : List (String × Json) :=
  [("status", .int response.status), ("content_type", .ofOption response.contentType .string),
    ("body", .string response.body), ("rpc_error", .ofOption response.failure RpcError.view)]

/-! ## Keys -/

/-- The description of a key without its modulus. -/
def KeyEntry.shortView (key : KeyEntry) : Json :=
  .object [("id", .string key.id), ("algorithm", .string key.algorithm),
    ("exponent", .natural key.key.exponent)]

/-- The description of a key. -/
def KeyEntry.view (key : KeyEntry) : Json :=
  .object [("id", .string key.id), ("algorithm", .string key.algorithm),
    ("modulus", .string (String.ofList (Text.hexDigits key.key.modulus))),
    ("exponent", .natural key.key.exponent), ("debug", .string key.summary)]

/-- The members of the description of a key set. -/
def KeySet.members (keys : KeySet) : List (String × Json) :=
  [("len", .int keys.keys.length), ("is_empty", .bool keys.keys.isEmpty),
    ("key_ids", .array (keys.ids.map .string)),
    ("max_token_ttl", .ofOption keys.maxTokenTtl .natural)]

/-! ## Contexts -/

/-- The description of a route. -/
def Route.view (route : Route) : Json :=
  .object [("method", .string route.method), ("service", .string route.service)]

/-- The description of the outcome of authentication. -/
def AuthState.view : AuthState → Json
  | .notPresent => .string "absent"
  | .failed failure => .object [("failed", failure.view)]
  | .authenticated info =>
    .object [("claims", .string info.claims.text), ("token", .string info.token)]

/-- The description of a scalar, with its type. -/
def Scalar.view : Scalar → Json
  | .bool b => .object [("bool", .bool b)]
  | .int n => .object [("int", .string (toString n.toInt))]
  | .uint n => .object [("uint", .natural n.toNat)]
  | .double x => .object [("float", x.view)]
  | .string s => .object [("string", .string s)]

/-- The description of a bag. -/
def BagStore.view (bags : BagStore) (bag : BagRef) : Json :=
  let contents := bags.contents bag
  .object [("annotations", .ofDict (contents.annotations.map Scalar.view)),
    ("id", .string (bags.id bag)),
    ("metadata", .ofDict (contents.metadata.map fun value => .string value.text)),
    ("user", .string contents.user)]

namespace Context

/-- The members of the description of a context, without its headers. -/
def members (context : Context) (bags : BagStore) : List (String × Json) :=
  let state := context.authState
  [("route", .ofOption context.route Route.view), ("status", .ofOption context.status (.int ·)),
    ("marker", .ofOption (context.get? (.extra "marker")) id),
    ("number", .ofOption (context.get? (.extra "number")) id),
    ("bag", .ofOption context.bag bags.view), ("auth", state.view),
    ("is_present", .bool state.isPresent), ("has_info", .bool state.info?.isSome),
    ("has_claims", .bool state.claims?.isSome),
    ("state_error", .ofOption state.failure? fun failure => .string failure.code)]

/-- The description of header fields, in order of name. -/
def headersView (headers : Headers) : Json :=
  .array ((headers.mergeSort fun a b => a.1 ≤ b.1).map fun field =>
    .array [.string field.1, .string (Text.Utf8.textLossy field.2)])

/-- The description of a context without its headers, in order of name. -/
def view (context : Context) (bags : BagStore) : Json :=
  .ofDict (.ofList (context.members bags))

/-- The description of a context. -/
def viewWithHeaders (context : Context) (bags : BagStore) : Json :=
  .object (("headers", .ofOption context.headers headersView) :: context.members bags)

end Context

/-! ## Logs and metrics -/

/-- The description of what a bag adds to a record. -/
def LogFields.view (fields : LogFields) : Json :=
  .object [("trace_id", .string fields.traceId), ("user", .string fields.user),
    ("annotations", .string (Json.ofDict fields.annotations).text),
    ("metadata", .ofOption fields.metadata fun m => .string (Json.ofDict m).text)]

/-- The description of a record. -/
def ErrorRecord.view (record : ErrorRecord) : Json :=
  .object [("level", .string "ERROR"), ("message", .string ErrorRecord.title),
    ("status_code", .int record.status), ("twirp_code", .string record.code.name),
    ("twirp_msg", .string record.message), ("twirp_meta", .string record.detailsText),
    ("trace_id", .string record.traceId), ("user", .string record.user),
    ("annotations", .string record.annotations), ("metadata", .string record.metadata)]

/-- The description of a series. Samples are shown one by one or only counted. -/
def SeriesReport.view (samplesShown : Bool) (report : SeriesReport) : Json :=
  let value := match report.value with
    | .counter n => .natural n.toNat
    | .histogram samples =>
      if samplesShown then .array (samples.map Double.view) else .int samples.length
  .object [("name", .string report.series.family), ("kind", .string report.value.kind.name),
    ("labels", .array (report.series.labels.map fun label =>
      .array [.string label.1, .string label.2])),
    ("help", .ofOption report.help .string), ("value", value)]

end BearerGate
