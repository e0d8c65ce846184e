import BearerGate.Http.MediaType
import BearerGate.Json.Document
import BearerGate.Server.Call

/-!
# A greeting service

The one method takes a name and answers with a greeting, which mentions the organisation of a
caller who is authenticated.

A request is refused if its body is too long. Else it is read in order, and the first thing that
is wrong with it decides how it is refused: as text that is not JSON, or as JSON of another shape.
-/

namespace BearerGate.Greeter

open Json (Token Document)

/-- What is wrong with the body of a request. -/
inductive BodyFault
  | contentType
  | tooLong
  | notJson
  | otherShape
  deriving DecidableEq

namespace BodyFault

/-- The response that refuses the request. -/
def response : BodyFault → Response
  | .contentType => .text 415 "Expected request with `Content-Type: application/json`"
  | .tooLong => .text 413 "Failed to buffer the request body: length limit exceeded"
  | .notJson => .text 400 "Failed to parse the request body as JSON: *"
  | .otherShape => .text 422 "Failed to deserialize the JSON body into the target type: *"

/-- What is wrong with a value that should have another type and starts with the given tokens. -/
def ofOtherValue : List Token → BodyFault
  | .null :: _ | .bool _ :: _ | .openBrace :: _ | .openBracket :: _ | .string (.text _) :: _ =>
    .otherShape
  | .number literal :: _ =>
    match Json.Number.ofLiteral? literal with
    | some _ => .otherShape
    | none => .notJson
  | _ => .notJson

end BodyFault

/-- The name, if nothing stands behind it. -/
def atEnd (name : String) : List Token → Except BodyFault String
  | [] => .ok name
  | _ => .error .notJson

/-- The name of the member that holds the name. -/
def nameMember : String := "name"

/-- Where in an object the reader stands. -/
inductive Place
  /-- Before a member or the end. -/
  | first
  /-- Before a comma or the end. -/
  | next

/-- The tokens behind the value at the start of the list. -/
def skipValue? (tokens : List Token) : Option (List Token) :=
  (Json.parseValue tokens []).map (·.2)

/-- Reads a member from behind its name on: what name is found after it, and the tokens behind it.
-/
def readMember (found : Option String) :
    Option String → List Token → Except BodyFault (Option String × List Token)
  | none, _ => .error .notJson
  | some key, rest =>
    if key = nameMember then
      if found.isSome then .error .otherShape
      else
        match rest with
        | .colon :: .string (.text name) :: rest => .ok (some name, rest)
        | .colon :: value => .error (.ofOtherValue value)
        | _ => .error .notJson
    else
      match rest with
      | .colon :: value =>
        match skipValue? value with
        | some rest => .ok (found, rest)
        | none => .error .notJson
      | _ => .error .notJson

/-- Reads the members of an object up to its end. `found` is the name if it was already read, and
the number bounds the members that are left. -/
def readMembers : Nat → Place → Option String → List Token → Except BodyFault String
  | 0, _, _, _ => .error .notJson
  | _ + 1, _, found, .closeBrace :: rest => atEnd (found.getD "") rest
  | fuel + 1, .next, found, .comma :: .string key :: rest =>
    (readMember found key.text? rest).bind fun read => readMembers fuel .next read.1 read.2
  | fuel + 1, .first, found, .string key :: rest =>
    (readMember found key.text? rest).bind fun read => readMembers fuel .next read.1 read.2
  | _ + 1, _, _, _ => .error .notJson

/-- The name in a request: the member of an object, or the only item of a list; empty if there is
none. -/
def readName : List Token → Except BodyFault String
  | .openBrace :: rest => readMembers (rest.length + 1) .first none rest
  | .openBracket :: .closeBracket :: rest => atEnd "" rest
  | .openBracket :: .string (.text name) :: .closeBracket :: rest => atEnd name rest
  | .openBracket :: .string (.text _) :: _ => .error .notJson
  | .openBracket :: value => .error (.ofOtherValue value)
  | value => .error (.ofOtherValue value)

/-- Whether the headers say that the body is JSON. -/
def announcesJson (headers : Headers) : Bool :=
  match ((headers.first? "content-type").bind FieldValue.visibleText?).bind fun text =>
      MediaType.parse? text.toList with
  | some mediaType => mediaType.isJson
  | none => false

/-- The most bytes of a body that is read. -/
def longestBody : Nat := 2097152

/-- The name in the body of a request. -/
def requestedName (request : Request) : Except BodyFault String :=
  if !announcesJson request.headers then .error .contentType
  else if longestBody < request.body.length then .error .tooLong
  else readName (Json.tokens request.body)

/-- The error that answers a request without a name. -/
def nameRequired : RpcError :=
  (RpcError.new .invalidArgument "name is required").withDetail "argument" "name"

/-- The annotation for the name. -/
def greetingNote : String := "greeting_name"

/-- The greeting for a name and a caller. -/
def greeting (name : String) : Option Claims → String
  | some claims => "Hello " ++ name ++ ", from " ++ claims.organisation
  | none => "Hello " ++ name

/-- Answers a request for a greeting. -/
def hello {τ : Type} : Handler τ := fun request world =>
  match requestedName request with
  | .error fault => (fault.response, world)
  | .ok name =>
    if name = "" then (nameRequired.response, world)
    else
      let context := request.knownContext
      (.json 200 (.object [("message", .string (greeting name context.authState.claims?))]),
        { world with bags := context.annotate greetingNote (.string name) world.bags })

end BearerGate.Greeter
