import BearerGate.Text.Blank
import BearerGate.Text.Split

/-!
# Media types

What the content of a message is, as its header says: a type, a subtype, which may have a suffix
behind its last plus sign, and parameters, which are read and left aside.
-/

namespace BearerGate

/-- A media type in lower case, without its parameters. -/
structure MediaType where
  type : List Char
  subtype : List Char
  suffix : Option (List Char)
  deriving DecidableEq

namespace MediaType

/-- Whether a character may stand in a type or in the name of a parameter. -/
def isTokenChar (c : Char) : Bool :=
  ('a' ≤ c && c ≤ 'z') || ('A' ≤ c && c ≤ 'Z') || ('0' ≤ c && c ≤ '9') ||
    ['!', '#', '$', '%', '&', '\'', '*', '+', '-', '.', '^', '_', '`', '|', '~'].contains c

/-- Whether a character may stand between quotation marks. -/
def isQuotedChar (c : Char) : Bool := 0x20 ≤ c.toNat && c.toNat ≠ 0x7F

/-- A place in the list of parameters. -/
inductive ParameterState
  /-- Behind the semicolon in front of a parameter. -/
  | start
  | name
  /-- Behind the equals sign. -/
  | valueStart
  | value
  /-- Behind the opening quotation mark. -/
  | quotedStart
  | quoted
  /-- Behind the closing quotation mark. -/
  | afterQuoted

/-- Whether the text is the rest of a list of parameters. A value that is not quoted may be
missing at the end of the list, and a quoted one has a character, which may be a quotation mark.
-/
def parametersFit : ParameterState → List Char → Bool
  | .name, [] | .quotedStart, [] | .quoted, [] => false
  | .start, [] | .valueStart, [] | .value, [] | .afterQuoted, [] => true
  | .start, c :: rest =>
    if c = ' ' then parametersFit .start rest else isTokenChar c && parametersFit .name rest
  | .name, c :: rest =>
    if c = '=' then parametersFit .valueStart rest else isTokenChar c && parametersFit .name rest
  | .valueStart, c :: rest =>
    if c = '"' then parametersFit .quotedStart rest
    else isTokenChar c && parametersFit .value rest
  | .value, c :: rest =>
    if c = ';' then parametersFit .start rest else isTokenChar c && parametersFit .value rest
  | .quotedStart, c :: rest => isQuotedChar c && parametersFit .quoted rest
  | .quoted, c :: rest =>
    if c = '"' then parametersFit .afterQuoted rest
    else isQuotedChar c && parametersFit .quoted rest
  | .afterQuoted, c :: rest =>
    if c = ';' then parametersFit .start rest else c = ' ' && parametersFit .afterQuoted rest

/-- The parts before and behind the last plus sign that is not at the start. -/
def splitSuffix (subtype : List Char) : List Char × Option (List Char) :=
  let suffix := (subtype.reverse.takeWhile (· ≠ '+')).reverse
  let name := subtype.take (subtype.length - suffix.length - 1)
  if name.isEmpty then (subtype, none) else (name, some suffix)

/-- The media type that a header field names. -/
def parse? (text : List Char) : Option MediaType := do
  let (type, rest) ← Text.splitOnce '/' text
  let subtype := rest.takeWhile isTokenChar
  let parameters := rest.dropWhile isTokenChar
  if type.isEmpty || !type.all isTokenChar then none
  else
    let (name, suffix) := splitSuffix (subtype.map Text.lowerAscii)
    let mediaType : MediaType := ⟨type.map Text.lowerAscii, name, suffix⟩
    match parameters with
    | [] => some mediaType
    | c :: rest =>
      if c = ';' && !subtype.isEmpty && parametersFit .start rest then some mediaType
      else none

/-- Whether content of this type is JSON: that is the subtype or its suffix. -/
def isJson (mediaType : MediaType) : Bool :=
  mediaType.type = ['a', 'p', 'p', 'l', 'i', 'c', 'a', 't', 'i', 'o', 'n'] &&
    (mediaType.subtype = ['j', 's', 'o', 'n'] || mediaType.suffix = some ['j', 's', 'o', 'n'])

end MediaType

end BearerGate
