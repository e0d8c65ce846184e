import BearerGate.Text.Digit
import BearerGate.Text.Split

/-!
# Internet addresses

An address of the fourth version has four parts of eight bits, one of the sixth version eight
parts of sixteen bits. In the text of the latter, a run of zero parts may be written as two
colons, and the last two parts like an address of the fourth version.
-/

namespace BearerGate

/-- An address of the fourth version, as a number of 32 bits. -/
structure Ipv4 where
  value : UInt32
  deriving DecidableEq

/-- An address of the sixth version. -/
structure Ipv6 where
  parts : Vector UInt16 8
  deriving DecidableEq

/-- An address. -/
inductive IpAddress
  | v4 (address : Ipv4)
  | v6 (address : Ipv6)
  deriving DecidableEq

/-! ## Reading -/

/-- The values of the digits at the start of a text, and the text behind them. -/
def leadingDigits (base : Nat) : List Char → List Nat × List Char
  | [] => ([], [])
  | c :: rest =>
    match Text.digit? base c with
    | some d =>
      let (digits, behind) := leadingDigits base rest
      (d :: digits, behind)
    | none => ([], c :: rest)

namespace Ipv4

/-- One of the four parts: up to three decimal digits, at most 255, without zeros in front. -/
def scanPart (text : List Char) : Option (Nat × List Char) :=
  let (digits, rest) := leadingDigits 10 text
  if digits.isEmpty || digits.length > 3 || (digits.length > 1 && digits.head? = some 0) then none
  else if Text.ofDigits 10 digits > 255 then none
  else some (Text.ofDigits 10 digits, rest)

/-- The address of four parts. -/
def ofParts (a b c d : Nat) : Ipv4 :=
  ⟨UInt32.ofNat (((a * 256 + b) * 256 + c) * 256 + d)⟩

/-- The text behind a dot. -/
def dot? : List Char → Option (List Char)
  | '.' :: rest => some rest
  | _ => none

/-- The address at the start of a text, and the text behind it. -/
def scan (text : List Char) : Option (Ipv4 × List Char) := do
  let (a, rest) ← scanPart text
  let (b, rest) ← scanPart (← dot? rest)
  let (c, rest) ← scanPart (← dot? rest)
  let (d, rest) ← scanPart (← dot? rest)
  pure (ofParts a b c d, rest)

/-- The four parts. -/
def parts (address : Ipv4) : List Nat :=
  let n := address.value.toNat
  [n / 0x1000000, n / 0x10000 % 256, n / 0x100 % 256, n % 256]

/-- The address with dots between its parts. -/
def text (address : Ipv4) : String :=
  ".".intercalate (address.parts.map toString)

end Ipv4

namespace Ipv6

/-- A part: up to four digits to base sixteen. -/
def scanPart (text : List Char) : Option (UInt16 × List Char) :=
  let (digits, rest) := leadingDigits 16 text
  if digits.isEmpty || digits.length > 4 then none
  else some (UInt16.ofNat (Text.ofDigits 16 digits), rest)

/-- The text in front of which the separator stands that part `index` needs. -/
def separated? (index : Nat) (text : List Char) : Option (List Char) :=
  if index = 0 then some text
  else
    match text with
    | ':' :: rest => some rest
    | _ => none

/-- The two parts that an address of the fourth version takes. -/
def embedded (address : Ipv4) : List UInt16 :=
  let n := address.value.toNat
  [UInt16.ofNat (n / 0x10000), UInt16.ofNat (n % 0x10000)]

/-- At most `room` parts with colons in between, `index` of which precede; whether the last two
are written like an address of the fourth version; and the text behind them. -/
def scanParts : (room index : Nat) → List Char → List UInt16 × Bool × List Char
  | 0, _, text => ([], false, text)
  | room + 1, index, text =>
    let dotted := if room = 0 then none else (separated? index text).bind Ipv4.scan
    match dotted with
    | some (address, rest) => (embedded address, true, rest)
    | none =>
      match (separated? index text).bind scanPart with
      | some (part, rest) =>
        let (parts, isDotted, rest) := scanParts room (index + 1) rest
        (part :: parts, isDotted, rest)
      | none => ([], false, text)

/-- The address of a list of parts, if there are eight. -/
def ofParts? (parts : List UInt16) : Option Ipv6 :=
  if h : parts.length = 8 then some ⟨⟨parts.toArray, by simpa using h⟩⟩ else none

/-- The address at the start of a text, and the text behind it. Two colons stand for at least one
part. -/
def scan (text : List Char) : Option (Ipv6 × List Char) :=
  let (front, dotted, rest) := scanParts 8 0 text
  if front.length = 8 then (ofParts? front).map fun address => (address, rest)
  else if dotted then none
  else
    match rest with
    | ':' :: ':' :: rest =>
      let (back, _, rest) := scanParts (8 - (front.length + 1)) 0 rest
      let zeros := List.replicate (8 - front.length - back.length) 0
      (ofParts? (front ++ zeros ++ back)).map fun address => (address, rest)
    | _ => none

/-- The address that a whole text denotes. -/
def parse? (text : List Char) : Option Ipv6 :=
  match scan text with
  | some (address, []) => some address
  | _ => none

/-! ## Writing -/

/-- The length of the run of zeros at the start of a list. -/
def zeroRun (parts : List UInt16) : Nat :=
  (parts.takeWhile (· = 0)).length

/-- The first of the longest runs of zeros: where it begins and how long it is. -/
def longestZeroRun : (index : Nat) → List UInt16 → Nat × Nat
  | _, [] => (0, 0)
  | index, part :: parts =>
    let here := zeroRun (part :: parts)
    let later := longestZeroRun (index + 1) parts
    if later.2 > here then later else (index, here)

/-- A part to base sixteen. -/
def partText (part : UInt16) : String :=
  String.ofList (Text.hexDigits part.toNat)

/-- Parts with colons in between. -/
def partsText (parts : List UInt16) : String :=
  ":".intercalate (parts.map partText)

/-- The address with its longest run of zeros as two colons, if the run has more than one. -/
def text (address : Ipv6) : String :=
  let parts := address.parts.toList
  let (start, length) := longestZeroRun 0 parts
  if length > 1 then partsText (parts.take start) ++ "::" ++ partsText (parts.drop (start + length))
  else partsText parts

/-- The address of the fourth version that is mapped into the sixth. -/
def mapped? (address : Ipv6) : Option Ipv4 :=
  match address.parts.toList with
  | [0, 0, 0, 0, 0, 0xFFFF, high, low] => some ⟨UInt32.ofNat (high.toNat * 0x10000 + low.toNat)⟩
  | _ => none

/-- The address with a mapped address of the fourth version written as such. -/
def dottedText (address : Ipv6) : String :=
  match address.mapped? with
  | some inner => "::ffff:" ++ inner.text
  | none => address.text

end Ipv6

namespace IpAddress

/-- The address that a text denotes. -/
def parse? (text : String) : Option IpAddress :=
  match Ipv4.scan text.toList with
  | some (address, []) => some (.v4 address)
  | _ => (Ipv6.parse? text.toList).map .v6

/-- The address with a port behind it. -/
def withPort (address : IpAddress) (port : Nat) : String :=
  match address with
  | .v4 address => address.text ++ ":" ++ toString port
  | .v6 address => "[" ++ address.dottedText ++ "]:" ++ toString port

/-- The address of every interface of a machine. -/
def unspecified : IpAddress := .v4 ⟨0⟩

end IpAddress

end BearerGate
