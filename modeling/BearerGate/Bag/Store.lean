import BearerGate.Bag.Contents
import BearerGate.Text.Quoted

/-!
# All bags

A bag either stands alone, with an id of its own, or forwards what is written to it to a segment
of an outer trace, whose id it takes over. Bags of one segment show the same contents.
-/

namespace BearerGate

/-- A segment of an outer trace. Two tracers may have segments with one trace id. -/
structure Segment where
  tracer : Nat
  traceId : String
  deriving DecidableEq

/-- Names a bag. -/
inductive BagRef
  | standalone (index : Nat)
  | segment (segment : Segment)
  deriving DecidableEq

/-- The bags that stand alone, and what was handed to segments, the latest first. The ids of the
former come from a supply. -/
structure BagStore where
  newId : Nat → String
  standalone : List BagContents
  handed : List (Segment × BagWrite)

namespace BagStore

/-- A store without bags. -/
def new (newId : Nat → String) : BagStore := ⟨newId, [], []⟩

/-- What was handed to one segment, the latest first. -/
def handedTo (store : BagStore) (segment : Segment) : List BagWrite :=
  (store.handed.filter fun write => write.1 = segment).map (·.2)

/-- A bag for the segment, or one that stands alone. -/
def attach (store : BagStore) : Option Segment → BagRef × BagStore
  | some segment => (.segment segment, store)
  | none =>
    (.standalone store.standalone.length,
      { store with standalone := store.standalone ++ [.empty] })

/-- The id of a bag. -/
def id (store : BagStore) : BagRef → String
  | .standalone index => store.newId index
  | .segment segment => segment.traceId

/-- The contents of a bag. -/
def contents (store : BagStore) : BagRef → BagContents
  | .standalone index => store.standalone.getD index .empty
  | .segment segment => BagWrite.contents (store.handedTo segment)

/-- Writes to a bag. -/
def write (store : BagStore) (bag : BagRef) (write : BagWrite) : BagStore :=
  match bag with
  | .standalone index =>
    { store with standalone := store.standalone.modify index (·.after write) }
  | .segment segment => { store with handed := (segment, write) :: store.handed }

/-- Sets the user of a bag. -/
def setUser (store : BagStore) (bag : BagRef) (user : String) : BagStore :=
  store.write bag (.user user)

/-- Writes an annotation to a bag, if the value is a scalar. -/
def annotate (store : BagStore) (bag : BagRef) (name : String) (value : Json) : BagStore :=
  match Scalar.ofJson? value with
  | some scalar => store.write bag (.annotated name scalar)
  | none => store

/-- Writes metadata to a bag. -/
def addMetadata (store : BagStore) (bag : BagRef) (name : String) (value : Json) : BagStore :=
  store.write bag (.metadata name value)

/-- One line about a bag for diagnostics. -/
def summary (store : BagStore) (bag : BagRef) : String :=
  let alone := match bag with
    | .standalone _ => "true"
    | .segment _ => "false"
  "Annotations \x7b id: " ++ Text.quote (store.id bag) ++ ", standalone: " ++ alone ++ " \x7d"

end BagStore

end BearerGate
