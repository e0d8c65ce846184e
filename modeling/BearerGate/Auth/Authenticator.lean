import BearerGate.Auth.Bearer
import BearerGate.Token.Validator
import BearerGate.World

/-!
# Authentication of requests

The outcome is recorded in the request's context and nothing is refused here. Only verified claims
are written to the bag.
-/

namespace BearerGate

/-- How requests are authenticated. -/
structure Authenticator where
  /-- The number of the source of keys. -/
  provider : Nat
  /-- How many seconds clocks may differ. -/
  leeway : Nat
  /-- What is written to the bag about verified claims. -/
  annotate : Context → Claims → BagStore → BagStore

namespace Authenticator

/-- The annotation for the holder's organisation. -/
def organisationNote : String := "imid_org"

/-- Writes the holder and the holder's organisation to the bag. -/
def annotateIdentity (context : Context) (claims : Claims) (bags : BagStore) : BagStore :=
  context.annotate organisationNote (.string claims.organisation)
    (context.setUser claims.subject bags)

variable {τ : Type}

/-- The verified token of a request, or why there is none. -/
def verify (authenticator : Authenticator) (headers : Headers) (world : World τ) :
    Except AuthFailure AuthInfo × World τ :=
  match headers.bearerToken with
  | .error failure => (.error failure, world)
  | .ok token =>
    match validateToken (World.resolve authenticator.provider) world.now.second
        authenticator.leeway token accessTokenType world with
    | (.error rejection, after) => (.error (.ofRejection rejection), after)
    | (.ok claims, after) => (.ok ⟨token, claims⟩, after)

/-- Records in a context whether the request with the given headers is authenticated. -/
def authenticate (authenticator : Authenticator) (context : Context) (headers : Option Headers)
    (world : World τ) : Context × World τ :=
  let (result, after) := match headers with
    | some headers => authenticator.verify headers world
    | none => (.error .noToken, world)
  match result with
  | .ok info =>
    (context.withAuth (.ok info),
      { after with bags := authenticator.annotate context info.claims after.bags })
  | .error failure => (context.withAuth (.error failure), after)

/-- One line about an authenticator for diagnostics. -/
def summary : String := "Authenticator \x7b .. \x7d"

end Authenticator

end BearerGate
