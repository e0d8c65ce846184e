import BearerGate.Json.Basic
import BearerGate.Json.Lexer

/-!
# JSON documents

JSON text as a tree, before its values are read.

A document keeps strings that cannot be decoded and numbers that are too large, because the parts
of a document that nobody reads may hold such things. Reading a part asks for more than parsing
it, and nesting is limited only in the parts that are read.

The parser keeps the open containers in a list, so that no depth of nesting is too much for it.
-/

namespace BearerGate.Json

/-- A document, or a part of one. -/
inductive Document
  | null
  | bool (value : Bool)
  | number (literal : Literal)
  | string (content : StringContent)
  | array (items : List Document)
  | object (members : List (StringContent × Document))

/-- A container that is not closed yet, with its completed parts, the latest first. -/
inductive Frame
  | array (done : List Document)
  | object (done : List (StringContent × Document)) (name : StringContent)

mutual

/-- Parses one value and what follows it up to the end of the outermost open container; the result
is the completed value and the tokens behind it. -/
def parseValue : List Token → List Frame → Option (Document × List Token)
  | .null :: rest, frames => parseAfter rest frames .null
  | .bool b :: rest, frames => parseAfter rest frames (.bool b)
  | .number n :: rest, frames => parseAfter rest frames (.number n)
  | .string s :: rest, frames => parseAfter rest frames (.string s)
  | .openBracket :: .closeBracket :: rest, frames => parseAfter rest frames (.array [])
  | .openBracket :: rest, frames => parseValue rest (.array [] :: frames)
  | .openBrace :: .closeBrace :: rest, frames => parseAfter rest frames (.object [])
  | .openBrace :: .string name :: .colon :: rest, frames =>
    parseValue rest (.object [] name :: frames)
  | _, _ => none

/-- Goes on behind a completed value. -/
def parseAfter : List Token → List Frame → Document → Option (Document × List Token)
  | rest, [], value => some (value, rest)
  | .comma :: rest, .array done :: frames, value =>
    parseValue rest (.array (value :: done) :: frames)
  | .closeBracket :: rest, .array done :: frames, value =>
    parseAfter rest frames (.array (value :: done).reverse)
  | .comma :: .string next :: .colon :: rest, .object done name :: frames, value =>
    parseValue rest (.object ((name, value) :: done) next :: frames)
  | .closeBrace :: rest, .object done name :: frames, value =>
    parseAfter rest frames (.object ((name, value) :: done).reverse)
  | _, _, _ => none

end

namespace Document

/-- The document that the tokens make up, without tokens left over. -/
def ofTokens? (tokens : List Token) : Option Document :=
  match parseValue tokens [] with
  | some (document, []) => some document
  | _ => none

/-- The document that the bytes encode. -/
def ofBytes? (bytes : List UInt8) : Option Document :=
  ofTokens? (tokens bytes)

/-- The document that a text encodes. -/
def ofText? (text : String) : Option Document :=
  ofTokens? (lex (text.toList.map some))

/-- How many containers may stand inside one another in a document that is read. -/
def depthLimit : Nat := 127

mutual

/-- The value of a document, if all of it can be read and at most `depth` containers stand inside
one another. The members of an object come in order of name; of several with one name the last
counts. -/
def toJson? : Document → Nat → Option Json
  | .null, _ => some .null
  | .bool b, _ => some (.bool b)
  | .number n, _ => (Number.ofLiteral? n).map .number
  | .string content, _ => content.text?.map .string
  | .array _, 0 => none
  | .array items, depth + 1 => (itemsToJson? items depth).map .array
  | .object _, 0 => none
  | .object members, depth + 1 =>
    (membersToJson? members depth).map fun pairs => ofDict (.ofList pairs)

/-- The values of the items of an array. -/
def itemsToJson? : List Document → Nat → Option (List Json)
  | [], _ => some []
  | item :: items, depth =>
    match toJson? item depth, itemsToJson? items depth with
    | some value, some values => some (value :: values)
    | _, _ => none

/-- The names and values of the members of an object. -/
def membersToJson? : List (StringContent × Document) → Nat → Option (List (String × Json))
  | [], _ => some []
  | (name, item) :: members, depth =>
    match name.text?, toJson? item depth, membersToJson? members depth with
    | some name, some value, some pairs => some ((name, value) :: pairs)
    | _, _, _ => none

end

/-! ## Reading as far as possible -/

/-- How far a reader comes who stops at the first thing that cannot be read. -/
inductive Reach
  | whole
  /-- Up to the end, though the last thing cannot be read. -/
  | toEnd
  | part
  deriving DecidableEq

/-- How far a reader comes who goes on behind a part if there is more. -/
def Reach.followedBy (reach : Reach) (isLast : Bool) (rest : Reach) : Reach :=
  match reach with
  | .whole => rest
  | .toEnd => if isLast then .toEnd else .part
  | .part => .part

mutual

/-- How far a reader of a document comes, if at most `depth` containers may stand inside one
another. -/
def reach : Document → Nat → Reach
  | .null, _ | .bool _, _ | .string (.text _), _ => .whole
  | .number n, _ =>
    if (Number.ofLiteral? n).isSome then .whole else if n.isRefusedAtEnd then .toEnd else .part
  | .string (.unreadable atEnd), _ => if atEnd then .toEnd else .part
  | .array _, 0 | .object _, 0 => .part
  | .array items, depth + 1 => itemsReach items depth
  | .object members, depth + 1 => membersReach members depth

/-- How far a reader of the items of an array comes. -/
def itemsReach : List Document → Nat → Reach
  | [], _ => .whole
  | item :: items, depth => (reach item depth).followedBy items.isEmpty (itemsReach items depth)

/-- How far a reader of the members of an object comes. Behind a name its value is expected. -/
def membersReach : List (StringContent × Document) → Nat → Reach
  | [], _ => .whole
  | (.unreadable _, _) :: _, _ => .part
  | (.text _, item) :: members, depth =>
    (reach item depth).followedBy members.isEmpty (membersReach members depth)

end

/-! ## Reading parts of known shape -/

/-- The text of a string. -/
def text? : Document → Option String
  | .string content => content.text?
  | _ => none

/-- The name of a choice: a string, or the only member of an object, whose value is null or, if
`emptyToo`, an object without members. -/
def choice? (emptyToo : Bool) : Document → Option String
  | .string content => content.text?
  | .object [(name, .null)] => name.text?
  | .object [(name, .object [])] => if emptyToo then name.text? else none
  | _ => none

/-- The integer of a number that is one and lies between the bounds. -/
def integer? (low high : Int) : Document → Option Int
  | .number literal =>
    match Number.ofLiteral? literal with
    | some (.integer n) => if low ≤ n ∧ n ≤ high then some n else none
    | _ => none
  | _ => none

/-- An integer of 64 bits with a sign. -/
def int64? (document : Document) : Option Int64 :=
  (document.integer? (-0x8000000000000000) 0x7FFFFFFFFFFFFFFF).map Int64.ofInt

/-- A natural number of 64 bits. -/
def uint64? (document : Document) : Option Nat :=
  (document.integer? 0 0xFFFFFFFFFFFFFFFF).map Int.toNat

/-- The parts of a list. -/
def list? {α : Type} (read : Document → Option α) : Document → Option (List α)
  | .array items => items.mapM read
  | _ => none

/-- The texts of a list of strings. -/
def texts? : Document → Option (List String) :=
  list? text?

/-- Nothing for null, and what `read` gives for anything else. -/
def orNull? {α : Type} (read : Document → Option α) : Document → Option (Option α)
  | .null => some none
  | document => (read document).map some

/-- The default for null, and what `read` gives for anything else. -/
def orDefault? {α : Type} (fallback : α) (read : Document → Option α) (document : Document) :
    Option α :=
  (orNull? read document).map fun value => value.getD fallback

/-- The members of an object, all with decoded names. -/
def members? : Document → Option (List (String × Document))
  | .object members => members.mapM fun m => m.1.text?.map fun name => (name, m.2)
  | _ => none

/-- The parts of a record with the given member names. An object gives them by name, and may have
other members; no known member may be repeated. An array gives them in order, and may be shorter.
-/
def record? (names : List String) : Document → Option (List (String × Document))
  | .array items => if items.length ≤ names.length then some (names.zip items) else none
  | document => do
    let members ← document.members?
    let known := members.filter fun m => names.contains m.1
    if (known.map (·.1)).Nodup then some known else none

/-- The part of a record with the given name, or a default if it is missing. -/
def part? {α : Type} (parts : List (String × Document)) (name : String) (fallback : α)
    (read : Document → Option α) : Option α :=
  match parts.lookup name with
  | none => some fallback
  | some document => read document

end Document

end BearerGate.Json
