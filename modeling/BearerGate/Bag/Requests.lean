import BearerGate.Bag.Store

/-!
# Requests to a bag

A bag has any number of holders. A request of one of them is one turn at the bag: it sets the user,
writes under a name, or shows a copy of something that the bag holds. The requests of several
holders come to the bag in some order, and more is not to be told of how they interleave.

An annotation that is no scalar is dropped, so a request to write one goes to no slot of the bag.
-/

namespace BearerGate

/-- What a holder asks of a bag. -/
inductive BagRequest
  | setUser (user : String)
  | annotate (name : String) (value : Json)
  | addMetadata (name : String) (value : Json)
  | showUser
  | showAnnotations
  | showMetadata

/-- What a holder is told. -/
inductive BagAnswer
  | done
  | user (user : String)
  | annotations (annotations : Dict Scalar)
  | metadata (metadata : Dict Json)

/-- A part of a bag that is written as a whole. -/
inductive BagSlot
  | user
  | annotated (name : String)
  | metadata (name : String)
  deriving DecidableEq

namespace BagRequest

/-- The user that a request sets. -/
def user? : BagRequest → Option String
  | .setUser user => some user
  | _ => none

/-- The annotation that a request writes under a name. -/
def annotated? (name : String) : BagRequest → Option Scalar
  | .annotate written value => if written = name then Scalar.ofJson? value else none
  | _ => none

/-- The metadata that a request writes under a name. -/
def metadata? (name : String) : BagRequest → Option Json
  | .addMetadata written value => if written = name then some value else none
  | _ => none

/-- The slot that a request writes to. -/
def slot? : BagRequest → Option BagSlot
  | .setUser _ => some .user
  | .annotate name value => (Scalar.ofJson? value).map fun _ => .annotated name
  | .addMetadata name _ => some (.metadata name)
  | .showUser | .showAnnotations | .showMetadata => none

end BagRequest

namespace BagStore

/-- What becomes of a request to a bag. -/
def handle (store : BagStore) (bag : BagRef) : BagRequest → BagAnswer × BagStore
  | .setUser user => (.done, store.setUser bag user)
  | .annotate name value => (.done, store.annotate bag name value)
  | .addMetadata name value => (.done, store.addMetadata bag name value)
  | .showUser => (.user (store.contents bag).user, store)
  | .showAnnotations => (.annotations (store.contents bag).annotations, store)
  | .showMetadata => (.metadata (store.contents bag).metadata, store)

/-- What becomes of requests to a bag, in the order in which they come. Holders are known by
numbers, and each answer goes to the holder who asked. -/
def handleAll (store : BagStore) (bag : BagRef) :
    List (Nat × BagRequest) → List (Nat × BagAnswer) × BagStore
  | [] => ([], store)
  | (holder, request) :: later =>
    let (answer, store) := store.handle bag request
    let (answers, store) := store.handleAll bag later
    ((holder, answer) :: answers, store)

/-- Makes a bag for the segment, or one that stands alone, and handles requests to it. The result is
what the holders are told, and what the bag holds in the end. -/
def serveHolders (store : BagStore) (backing : Option Segment)
    (requests : List (Nat × BagRequest)) : List (Nat × BagAnswer) × BagContents :=
  let (bag, store) := store.attach backing
  let (answers, store) := store.handleAll bag requests
  (answers, store.contents bag)

end BagStore

end BearerGate
