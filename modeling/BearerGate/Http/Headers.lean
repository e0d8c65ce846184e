import BearerGate.Text.Blank
import BearerGate.Text.Utf8

/-!
# Header fields

The fields of a request stand in the order in which they were added; one name may have several of
them. Names are compared without regard to case, and are kept in lower case. A value is a list of
bytes.
-/

namespace BearerGate

/-- The bytes of a header field. -/
abbrev FieldValue := List UInt8

/-- The header fields of a request. -/
abbrev Headers := List (String × FieldValue)

namespace FieldValue

/-- Whether a byte is printable ASCII or a tab. -/
def isVisible (b : UInt8) : Bool :=
  (0x20 ≤ b && b ≤ 0x7E) || b = 0x09

/-- The text of a value that holds nothing but printable ASCII and tabs. -/
def visibleText? (value : FieldValue) : Option String :=
  if value.all isVisible then some (String.ofList (value.map fun b => Char.ofNat b.toNat)) else none

/-- Whether a byte may stand in a value. -/
def isAllowed (b : UInt8) : Bool :=
  (0x20 ≤ b && b ≠ 0x7F) || b = 0x09

/-- The value that holds a text, if all of its bytes may stand in one. -/
def ofText? (text : String) : Option FieldValue :=
  let bytes := Text.Utf8.encode text
  if bytes.all isAllowed then some bytes else none

end FieldValue

namespace Headers

/-- The fields with one more at the end. -/
def add (headers : Headers) (name : String) (value : FieldValue) : Headers :=
  headers ++ [(Text.lowerText name, value)]

/-- The fields in the order in which they were given. -/
def ofList (fields : List (String × FieldValue)) : Headers :=
  fields.map fun field => (Text.lowerText field.1, field.2)

/-- The value of the first field with the given name, which is in lower case. -/
def first? (headers : Headers) (name : String) : Option FieldValue :=
  headers.lookup name

end Headers

end BearerGate
