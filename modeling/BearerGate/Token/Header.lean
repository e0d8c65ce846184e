import BearerGate.Json.Document

/-!
# Token headers

Token headers, read twice.

The first reading takes the name of the algorithm and of the key and ignores everything else. The
second, which is part of checking the signature, holds the header against the registered
parameters of signed tokens: each of them has its own shape, and a parameter that is not
registered is a string.
-/

namespace BearerGate

/-- What a token says about its own signature. A missing algorithm counts as an empty name. -/
structure TokenHeader where
  algorithm : String
  keyId : Option String
  deriving DecidableEq

namespace TokenHeader

open Json (Document)

/-- The algorithm and the key that a header names. -/
def ofDocument? (document : Document) : Option TokenHeader := do
  let parts ← document.record? ["alg", "kid"]
  let algorithm ← Document.part? parts "alg" "" Document.text?
  let keyId ← Document.part? parts "kid" none (Document.orNull? Document.text?)
  pure ⟨algorithm, keyId⟩

/-- The algorithm and the key named by the header that the bytes encode. -/
def ofBytes? (bytes : List UInt8) : Option TokenHeader :=
  (Document.ofBytes? bytes).bind ofDocument?

/-! ## The registered parameters -/

/-- Whether a document is a string or null. -/
def isOptionalText (document : Document) : Bool :=
  (document.orNull? Document.text?).isSome

/-- Whether a document is a list of strings or null. -/
def isOptionalTexts (document : Document) : Bool :=
  (document.orNull? Document.texts?).isSome

/-- Whether a document is a string. -/
def isText (document : Document) : Bool :=
  document.text?.isSome

/-- Whether a document names an algorithm, known or not, or is null. -/
def isOptionalChoice (document : Document) : Bool :=
  (document.orNull? (Document.choice? true)).isSome

/-- Whether a document is the name of a curve. -/
def isCurve (document : Document) : Bool :=
  match document.choice? false with
  | some name => ["P-256", "P-384", "P-521", "Ed25519"].contains name
  | none => false

/-- Members that do not depend on the type of a public key, and the shapes they have. -/
def keyCommonMembers : List (String × (Document → Bool)) :=
  [("use", isOptionalText), ("key_ops", isOptionalTexts), ("alg", isOptionalChoice),
    ("kid", isOptionalText), ("x5u", isOptionalText), ("x5c", isOptionalTexts),
    ("x5t", isOptionalText), ("x5t#S256", isOptionalText)]

/-- The members that a public key of a type must have. -/
def keyTypeMembers : List (String × List (String × (Document → Bool))) :=
  [("EC", [("crv", isCurve), ("x", isText), ("y", isText)]),
    ("RSA", [("n", isText), ("e", isText)]),
    ("oct", [("k", isText)]),
    ("OKP", [("crv", isCurve), ("x", isText)])]

/-- The members with the given name. -/
def membersNamed (members : List (String × Document)) (name : String) : List Document :=
  (members.filter fun m => m.1 = name).map (·.2)

/-- Whether at most one member has the name, and has the shape. -/
def mayHave (members : List (String × Document)) (name : String) (shape : Document → Bool) : Bool :=
  match membersNamed members name with
  | [] => true
  | [document] => shape document
  | _ => false

/-- Whether exactly one member has the name, and has the shape. -/
def mustHave (members : List (String × Document)) (name : String) (shape : Document → Bool) :
    Bool :=
  match membersNamed members name with
  | [document] => shape document
  | _ => false

/-- Whether a document is a public key. A header, the key and its parts nest at most as deep as
any document that is read. -/
def isPublicKey (document : Document) : Bool :=
  match document.toJson? (Document.depthLimit - 1), document.members? with
  | some _, some members =>
    (keyCommonMembers.all fun m => mayHave members m.1 m.2) &&
      keyTypeMembers.any fun type =>
        mustHave members "kty" (fun kty => kty.choice? false = some type.1) &&
          type.2.all fun m => mustHave members m.1 m.2
  | _, _ => false

/-- Whether a document is a public key or null. -/
def isOptionalKey (document : Document) : Bool :=
  (document.orNull? fun key => if isPublicKey key then some () else none).isSome

/-- The registered parameters of a header and the shapes they have. -/
def registered : List (String × (Document → Bool)) :=
  [("alg", isText), ("typ", isOptionalText), ("cty", isOptionalText), ("jku", isOptionalText),
    ("jwk", isOptionalKey),
    ("kid", isOptionalText), ("x5u", isOptionalText), ("x5c", isOptionalTexts),
    ("x5t", isOptionalText), ("x5t#S256", isOptionalText), ("crit", isOptionalTexts),
    ("enc", isOptionalText), ("zip", isOptionalText), ("url", isOptionalText),
    ("nonce", isOptionalText)]

/-- Whether a header is an object in which every registered parameter occurs at most once and has
its shape and every other parameter is a string. -/
def isWellShaped (document : Document) : Bool :=
  match document.members? with
  | some members =>
    (registered.all fun parameter => mayHave members parameter.1 parameter.2) &&
      members.all fun m => (registered.any fun parameter => parameter.1 = m.1) || isText m.2
  | none => false

end TokenHeader

end BearerGate
