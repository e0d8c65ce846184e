import BearerGate.Json.Document

/-!
# Claims

The claims of a token: who holds it, for which organisation, and what the holder may do.

An organisation's permissions are held in each of its units. A unit's own permissions come on top
and count in that unit alone. In the written form, empty collections may be written as null or
left out; what is written here always has the same form, so that reading it gives the same claims
again.
-/

namespace BearerGate

/-- Name and contact details of the holder. -/
structure UserInfo where
  givenName : String
  familyName : String
  email : String
  picture : String
  deriving DecidableEq

/-- The permissions of the holder. -/
structure Permissions where
  org : NameSet
  units : Dict NameSet

/-- The claims of a token. Times are in seconds since the start of 1970. -/
structure Claims where
  subject : String
  organisation : String
  tokenType : String
  permissions : Permissions
  groups : List String
  userInfo : Option UserInfo
  expiresAt : Option Int64
  issuedAt : Option Int64
  notBefore : Option Int64
  issuer : Option String
  audience : Option Json
  tokenId : Option String

/-- The type of tokens that open a call. -/
def accessTokenType : String := "access_token"

namespace Permissions

/-- No permissions at all. -/
def none : Permissions := ⟨.empty, .empty⟩

/-- The permissions held in the organisation. -/
def inOrganisation (permissions : Permissions) : NameSet :=
  permissions.org

/-- The permissions held in a unit, its own and those of the organisation. -/
def inUnit (permissions : Permissions) (unit : String) : NameSet :=
  match permissions.units.get? unit with
  | some own => permissions.org.union own
  | Option.none => permissions.org

end Permissions

namespace Claims

/-- Claims about a holder of whom nothing but the organisation is known. -/
def ofOrganisation (organisation : String) : Claims :=
  ⟨"", organisation, "", .none, [], none, none, none, none, none, none, none⟩

/-- Whether the holder has all of the permissions in a unit. -/
def holdsInUnit (claims : Claims) (unit : String) (required : List String) : Bool :=
  required.all (claims.permissions.inUnit unit).has

/-- Whether the holder has all of the permissions in the whole organisation. -/
def holdsInOrganisation (claims : Claims) (required : List String) : Bool :=
  required.all claims.permissions.inOrganisation.has

/-! ## Reading -/

open Json (Document)

/-- A set of names that is written as a list. -/
def nameSet? (document : Document) : Option NameSet :=
  document.texts?.map NameSet.ofNames

/-- The permissions of each unit; null stands for none. Of several entries for a unit the last
counts. -/
def units? (document : Document) : Option (Dict NameSet) := do
  let members ← document.members?
  let pairs ← members.mapM fun m =>
    (m.2.orDefault? .empty nameSet?).map fun held => (m.1, held)
  pure (.ofList pairs)

/-- The permissions of a holder. -/
def permissions? (document : Document) : Option Permissions := do
  let parts ← document.record? ["org", "units"]
  let org ← Document.part? parts "org" .empty (Document.orDefault? .empty nameSet?)
  let units ← Document.part? parts "units" .empty (Document.orDefault? .empty units?)
  pure ⟨org, units⟩

/-- The name and contact details of a holder. -/
def userInfo? (document : Document) : Option UserInfo := do
  let parts ← document.record? ["given_name", "family_name", "email", "picture"]
  let givenName ← Document.part? parts "given_name" "" Document.text?
  let familyName ← Document.part? parts "family_name" "" Document.text?
  let email ← Document.part? parts "email" "" Document.text?
  let picture ← Document.part? parts "picture" "" Document.text?
  pure ⟨givenName, familyName, email, picture⟩

/-- The names of the members of a claims document. -/
def memberNames : List String :=
  ["sub", "org", "ntt", "permissions", "groups", "userinfo", "exp", "iat", "nbf", "iss", "aud",
    "jti"]

/-- The claims in a document. The audience may be any value, one level below the document. -/
def ofDocument? (document : Document) : Option Claims := do
  let parts ← document.record? memberNames
  let subject ← Document.part? parts "sub" "" Document.text?
  let organisation ← Document.part? parts "org" "" Document.text?
  let tokenType ← Document.part? parts "ntt" "" Document.text?
  let permissions ← Document.part? parts "permissions" .none
    (Document.orDefault? .none permissions?)
  let groups ← Document.part? parts "groups" [] (Document.orDefault? [] Document.texts?)
  let userInfo ← Document.part? parts "userinfo" none (Document.orNull? userInfo?)
  let expiresAt ← Document.part? parts "exp" none (Document.orNull? Document.int64?)
  let issuedAt ← Document.part? parts "iat" none (Document.orNull? Document.int64?)
  let notBefore ← Document.part? parts "nbf" none (Document.orNull? Document.int64?)
  let issuer ← Document.part? parts "iss" none (Document.orNull? Document.text?)
  let audience ← Document.part? parts "aud" none
    (Document.orNull? (·.toJson? (Document.depthLimit - 1)))
  let tokenId ← Document.part? parts "jti" none (Document.orNull? Document.text?)
  pure ⟨subject, organisation, tokenType, permissions, groups, userInfo, expiresAt, issuedAt,
    notBefore, issuer, audience, tokenId⟩

/-- The claims that the bytes encode. -/
def ofBytes? (bytes : List UInt8) : Option Claims :=
  (Document.ofBytes? bytes).bind ofDocument?

/-! ## Writing -/

/-- A list of strings. -/
def stringsJson (texts : List String) : Json :=
  .array (texts.map .string)

/-- A set of names, in increasing order. -/
def nameSetJson (set : NameSet) : Json :=
  stringsJson (Dict.names set)

/-- The permissions of a holder. -/
def permissionsJson (permissions : Permissions) : Json :=
  .object [("org", nameSetJson permissions.org),
    ("units", .object (permissions.units.entries.map fun unit => (unit.1, nameSetJson unit.2)))]

/-- The name and contact details of a holder. -/
def userInfoJson (info : UserInfo) : Json :=
  .object [("given_name", .string info.givenName), ("family_name", .string info.familyName),
    ("email", .string info.email), ("picture", .string info.picture)]

/-- A member that is left out if there is no value. -/
def optionalMember (name : String) (value : Option Json) : List (String × Json) :=
  value.toList.map fun value => (name, value)

/-- The claims as a value, in the order of `memberNames`. -/
def toJson (claims : Claims) : Json :=
  .object <|
    [("sub", .string claims.subject), ("org", .string claims.organisation),
      ("ntt", .string claims.tokenType), ("permissions", permissionsJson claims.permissions)] ++
    (if claims.groups.isEmpty then [] else [("groups", stringsJson claims.groups)]) ++
    optionalMember "userinfo" (claims.userInfo.map userInfoJson) ++
    optionalMember "exp" (claims.expiresAt.map fun time => .int time.toInt) ++
    optionalMember "iat" (claims.issuedAt.map fun time => .int time.toInt) ++
    optionalMember "nbf" (claims.notBefore.map fun time => .int time.toInt) ++
    optionalMember "iss" (claims.issuer.map .string) ++
    optionalMember "aud" claims.audience ++
    optionalMember "jti" (claims.tokenId.map .string)

/-- The compact text of the claims. -/
def text (claims : Claims) : String :=
  claims.toJson.text

end Claims

end BearerGate
