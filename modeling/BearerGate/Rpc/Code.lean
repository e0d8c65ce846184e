/-!
# Error codes

The codes that a failed call can have, their written names and the status that each is answered
with.
-/

namespace BearerGate

/-- The kind of an error of a call. -/
inductive ErrorCode
  | canceled
  | unknown
  | invalidArgument
  | malformed
  | deadlineExceeded
  | notFound
  | badRoute
  | alreadyExists
  | permissionDenied
  | unauthenticated
  | resourceExhausted
  | failedPrecondition
  | aborted
  | outOfRange
  | unimplemented
  | internal
  | unavailable
  | dataLoss
  deriving DecidableEq

namespace ErrorCode

/-- All codes. -/
def all : List ErrorCode :=
  [.canceled, .unknown, .invalidArgument, .malformed, .deadlineExceeded, .notFound, .badRoute,
    .alreadyExists, .permissionDenied, .unauthenticated, .resourceExhausted, .failedPrecondition,
    .aborted, .outOfRange, .unimplemented, .internal, .unavailable, .dataLoss]

/-- The written name of a code. -/
def name : ErrorCode → String
  | .canceled => "canceled"
  | .unknown => "unknown"
  | .invalidArgument => "invalid_argument"
  | .malformed => "malformed"
  | .deadlineExceeded => "deadline_exceeded"
  | .notFound => "not_found"
  | .badRoute => "bad_route"
  | .alreadyExists => "already_exists"
  | .permissionDenied => "permission_denied"
  | .unauthenticated => "unauthenticated"
  | .resourceExhausted => "resource_exhausted"
  | .failedPrecondition => "failed_precondition"
  | .aborted => "aborted"
  | .outOfRange => "out_of_range"
  | .unimplemented => "unimplemented"
  | .internal => "internal"
  | .unavailable => "unavailable"
  | .dataLoss => "data_loss"

/-- The code of the given name. -/
def ofName? (name : String) : Option ErrorCode :=
  all.find? fun code => code.name = name

/-- The status that an error of this kind is answered with. -/
def httpStatus : ErrorCode → Nat
  | .canceled | .deadlineExceeded => 408
  | .invalidArgument | .malformed | .outOfRange => 400
  | .notFound | .badRoute => 404
  | .alreadyExists | .aborted => 409
  | .permissionDenied => 403
  | .unauthenticated => 401
  | .resourceExhausted => 429
  | .failedPrecondition => 412
  | .unimplemented => 501
  | .unavailable => 503
  | .unknown | .internal | .dataLoss => 500

end ErrorCode

end BearerGate
