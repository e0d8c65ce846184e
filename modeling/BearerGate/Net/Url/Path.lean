import BearerGate.Net.Percent
import BearerGate.Text.Blank
import BearerGate.Text.Split

/-!
# Paths of addresses

A path is a row of segments. Those that mean the directory itself or the upper one are followed
when the path is read, and are not kept.

The path of a file may begin with the letter of a drive. A drive is its own root, and the
directory above it is the drive itself.
-/

namespace BearerGate

/-- The path of an address. -/
inductive UrlPath
  | segments (segments : List String)
  /-- A path that is not made of segments, as in addresses of mail. -/
  | opaquePath (text : String)
  deriving DecidableEq

namespace UrlPath

/-- The path as it is written. -/
def text : UrlPath → String
  | .segments names => String.join (names.map ("/" ++ ·))
  | .opaquePath name => name

/-- Whether the path would be taken for a host if nothing stood in front of it. -/
def looksLikeHost : UrlPath → Bool
  | .segments ("" :: _ :: _) => true
  | _ => false

/-! ## Reading -/

/-- Whether a character separates the segments of a path. -/
def isSlash (special : Bool) (c : Char) : Bool :=
  c = '/' || (special && c = '\\')

/-- Whether a segment means the directory itself. -/
def isSingleDot (segment : List Char) : Bool :=
  [".", "%2e"].contains (Text.lowerText (String.ofList segment))

/-- Whether a segment means the upper directory. -/
def isDoubleDot (segment : List Char) : Bool :=
  ["..", ".%2e", "%2e.", "%2e%2e"].contains (Text.lowerText (String.ofList segment))

/-- Whether a segment names a drive: a letter, and a colon or what stands for it. -/
def isDrive : List Char → Bool
  | [letter, sign] => letter.isAlpha && (sign = ':' || sign = '|')
  | _ => false

/-- The name of a drive at the start of a segment that goes on behind it, and the rest of it. -/
def splitDrive : List Char → Option String × List Char
  | letter :: ':' :: c :: rest =>
    if letter.isAlpha then (some (String.ofList [letter, ':']), c :: rest)
    else (none, letter :: ':' :: c :: rest)
  | segment => (none, segment)

/-- How far a path has been followed. -/
structure Walk where
  /-- The segments passed, the last first. -/
  passed : List String
  /-- Whether the path begins at a drive, which belongs to the machine itself. -/
  onDrive : Bool

namespace Walk

/-- Where every path begins. -/
def start : Walk := ⟨[], false⟩

/-- Goes to the upper directory. No path leads out of a drive. -/
def up (walk : Walk) : Walk :=
  match walk.passed with
  | [] => walk
  | last :: rest => if isDrive last.toList then walk else { walk with passed := rest }

/-- Goes to what a segment names, which is encoded. -/
def down (walk : Walk) (segment : List Char) : Walk :=
  { walk with passed := String.ofList (Percent.encode Percent.inPath segment) :: walk.passed }

/-- Follows a segment that is the last one, or one before it. A path that ends in dots ends in a
slash. -/
def step (walk : Walk) (isLast : Bool) (segment : List Char) : Walk :=
  let arrived (walk : Walk) := if isLast then walk.down [] else walk
  if isDoubleDot segment then arrived walk.up
  else if isSingleDot segment then arrived walk
  else walk.down segment

/-- Follows a segment of the path of a file, whose first one may name a drive. What stands behind
the drive without a slash is a name of its own. -/
def stepInFiles (walk : Walk) (isLast : Bool) (segment : List Char) : Walk :=
  if walk.passed ≠ [] then walk.step isLast segment
  else if isDrive segment then ⟨[String.ofList (segment.take 1 ++ [':'])], true⟩
  else
    match splitDrive segment with
    | (some drive, rest) => (Walk.mk [drive] walk.onDrive).down rest
    | (none, _) => walk.step isLast segment

/-- Follows all segments of a path. -/
def follow (step : Walk → Bool → List Char → Walk) : Walk → List (List Char) → Walk
  | walk, [] => walk
  | walk, segment :: rest => follow step (step walk rest.isEmpty segment) rest

end Walk

/-- The segments that a text is made of. -/
def splitSegments (special : Bool) (text : List Char) : List (List Char) :=
  Text.splitEach '/' (text.map fun c => if isSlash special c then '/' else c)

/-- The text without a slash at its start. -/
def dropSlash (special : Bool) : List Char → List Char
  | c :: rest => if isSlash special c then rest else c :: rest
  | [] => []

/-- The path of segments that a text denotes, whose first slash may be missing. -/
def ofText (special : Bool) (text : List Char) : UrlPath :=
  let walk := Walk.start.follow Walk.step (splitSegments special (dropSlash special text))
  .segments walk.passed.reverse

/-- The path of a file that a text behind the first slash denotes, and whether it begins at a
drive. No path of a file begins with several slashes. -/
def ofFileText (text : List Char) : UrlPath × Bool :=
  let walk := Walk.start.follow Walk.stepInFiles (splitSegments true text)
  let segments := walk.passed.reverse.dropWhile (· = "")
  (.segments (if segments.isEmpty then [""] else segments), walk.onDrive)

end UrlPath

end BearerGate
