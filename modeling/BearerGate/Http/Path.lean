import BearerGate.Text.Split

/-!
# Paths of requests

A registered path consists of segments; one in braces stands for any segment, which may be empty
unless it is the last. If several registered paths fit, the one that is literal where the others
are not is taken, from left to right. The query of a request is no part of its path, and a
fragment is not sent.
-/

namespace BearerGate

/-- A path without its query and its fragment. -/
def withoutQuery (path : String) : String :=
  String.ofList (path.toList.takeWhile fun c => c ≠ '?' && c ≠ '#')

/-- A segment of a registered path. -/
inductive PathSegment
  | literal (text : List Char)
  | wildcard
  deriving DecidableEq

namespace PathSegment

/-- The segment that the characters denote. -/
def ofChars (cs : List Char) : PathSegment :=
  match cs, cs.getLast? with
  | '\x7b' :: _, some '\x7d' => .wildcard
  | _, _ => .literal cs

/-- Whether a segment of a path fits, being the last or not. -/
def fits (last : Bool) : PathSegment → List Char → Bool
  | .literal text, cs => text = cs
  | .wildcard, cs => !last || cs ≠ []

/-- Whether the segment is literal. -/
def isLiteral : PathSegment → Bool
  | .literal _ => true
  | .wildcard => false

end PathSegment

/-- The segments of a registered path. -/
abbrev PathPattern := List PathSegment

namespace PathPattern

/-- The segments that a registered path denotes. -/
def ofText (text : String) : PathPattern :=
  (Text.splitEach '/' text.toList).map PathSegment.ofChars

/-- Whether a path with the given segments fits. -/
def fits : PathPattern → List (List Char) → Bool
  | [], [] => true
  | segment :: segments, part :: parts => segment.fits parts.isEmpty part && fits segments parts
  | _, _ => false

/-- Whether the first of two registered paths that both fit is taken: it is literal at the first
place where only one of them is. -/
def prevails : PathPattern → PathPattern → Bool
  | a :: as, b :: bs => if a.isLiteral = b.isLiteral then prevails as bs else a.isLiteral
  | _, _ => false

/-- The better of a registered path and the best one before it. -/
def better (best : Option String) (text : String) : Option String :=
  match best with
  | none => some text
  | some other => if (ofText text).prevails (ofText other) then some text else best

/-- The registered path that a path is taken for. -/
def select? (registered : List String) (path : String) : Option String :=
  let parts := Text.splitEach '/' path.toList
  (registered.filter fun text => (ofText text).fits parts).foldl better none

end PathPattern

end BearerGate
