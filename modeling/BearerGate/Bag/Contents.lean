import BearerGate.Bag.Scalar

/-!
# What a bag holds

A bag belongs to one request. It has a user, annotations, which are few and short and meant for an
index, and metadata of any form. There are two ways to keep them: as they are, or as the list of
all that was ever written. Both show the last user set and the last value written for each name.
-/

namespace BearerGate

/-- The contents of a bag. -/
structure BagContents where
  user : String
  annotations : Dict Scalar
  metadata : Dict Json

/-- One thing written to a bag. -/
inductive BagWrite
  | user (user : String)
  | annotated (name : String) (value : Scalar)
  | metadata (name : String) (value : Json)

namespace BagContents

/-- A bag that nothing was written to. -/
def empty : BagContents := ⟨"", .empty, .empty⟩

instance : Inhabited BagContents := ⟨empty⟩

/-- The contents after one more write. -/
def after (contents : BagContents) : BagWrite → BagContents
  | .user user => { contents with user }
  | .annotated name value =>
    { contents with annotations := contents.annotations.insert name value }
  | .metadata name value => { contents with metadata := contents.metadata.insert name value }

end BagContents

namespace BagWrite

/-- The user last set; the latest write comes first. -/
def lastUser : List BagWrite → String
  | [] => ""
  | .user last :: _ => last
  | _ :: earlier => lastUser earlier

/-- The last annotation of each name; the latest write comes first. -/
def lastAnnotations : List BagWrite → Dict Scalar
  | [] => .empty
  | .annotated name value :: earlier => (lastAnnotations earlier).insert name value
  | _ :: earlier => lastAnnotations earlier

/-- The last metadata of each name; the latest write comes first. -/
def lastMetadata : List BagWrite → Dict Json
  | [] => .empty
  | .metadata name value :: earlier => (lastMetadata earlier).insert name value
  | _ :: earlier => lastMetadata earlier

/-- What the writes amount to. -/
def contents (writes : List BagWrite) : BagContents :=
  ⟨lastUser writes, lastAnnotations writes, lastMetadata writes⟩

end BagWrite

end BearerGate
