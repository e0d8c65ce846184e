import BearerGate.Net.Domain
import BearerGate.Net.Ip
import BearerGate.Net.Percent

/-!
# Hosts

The host of an address with a well-known scheme is a domain, in lower case and in ASCII, or an
internet address, whose parts may be written to base eight, ten or sixteen, and the last of which
may stand for several. The host of any other address is taken as it is.
-/

namespace BearerGate

/-- Why a text is no address. -/
inductive UrlFault
  | relative
  | emptyHost
  | port
  | ipv4
  | ipv6
  | domainName
  | hostCharacter
  deriving DecidableEq

/-- The wording of a fault. -/
def UrlFault.message : UrlFault → String
  | .relative => "relative URL without a base"
  | .emptyHost => "empty host"
  | .port => "invalid port number"
  | .ipv4 => "invalid IPv4 address"
  | .ipv6 => "invalid IPv6 address"
  | .domainName => "invalid international domain name"
  | .hostCharacter => "invalid domain character"

/-- The host of an address. -/
inductive Host
  | name (text : String)
  | v4 (address : Ipv4)
  | v6 (address : Ipv6)
  deriving DecidableEq

namespace Host

/-- The host as it is written in an address. -/
def text : Host → String
  | .name text => text
  | .v4 address => address.text
  | .v6 address => "[" ++ address.text ++ "]"

/-! ## Numbers of four parts -/

/-- The number that digits to a base denote, zero if there are none. -/
def numberTo? (base : Nat) (digits : List Char) : Option Nat :=
  (digits.mapM (Text.digit? base)).map (Text.ofDigits base)

/-- A part of an internet address: a number to base eight, ten or sixteen. -/
def numberPart? : List Char → Option Nat
  | [] => none
  | '0' :: 'x' :: digits | '0' :: 'X' :: digits => numberTo? 16 digits
  | '0' :: d :: digits => numberTo? 8 (d :: digits)
  | digits => numberTo? 10 digits

/-- The parts of a domain, without an empty one at its end. -/
def domainParts (domain : List Char) : List (List Char) :=
  let parts := Text.splitEach '.' domain
  if parts.getLast? = some [] then parts.dropLast else parts

/-- Whether a domain ends in a number, so that it has to be an internet address. -/
def endsInNumber (domain : List Char) : Bool :=
  match (domainParts domain).getLast? with
  | none => false
  | some last =>
    (!last.isEmpty && last.all Text.isDigit) || (numberPart? last).isSome

/-- The internet address that a list of numbers denotes, the last of which fills all that is left.
-/
def ipv4OfNumbers? (numbers : List Nat) : Option Ipv4 :=
  match numbers.getLast? with
  | none => none
  | some last =>
    let front := numbers.dropLast
    if numbers.length > 4 ∨ last ≥ Nat.pow 256 (4 - front.length) ∨ front.any (· > 255) then none
    else
      let high := Text.ofDigits 256 (front ++ List.replicate (4 - front.length) 0)
      some ⟨UInt32.ofNat (high + last)⟩

/-- The internet address that a domain which ends in a number denotes. -/
def ipv4? (domain : List Char) : Option Ipv4 :=
  ((domainParts domain).mapM numberPart?).bind ipv4OfNumbers?

/-! ## Domains -/

/-- The domain that bytes denote, in lower case and in ASCII. -/
def domainInAscii? (bytes : List UInt8) : Option (List Char) :=
  (Text.Utf8.chars? (Text.Utf8.decode bytes)).bind Domain.inAscii?

/-! ## Reading -/

/-- The host between brackets. -/
def bracketed (text : List Char) : Except UrlFault Host :=
  match text.getLast? with
  | some ']' =>
    match Ipv6.parse? (text.drop 1).dropLast with
    | some address => .ok (.v6 address)
    | none => .error .ipv6
  | _ => .error .ipv6

/-- The host of an address with a well-known scheme. -/
def parse (text : List Char) : Except UrlFault Host :=
  if text.head? = some '[' then bracketed text
  else
    match domainInAscii? (Percent.decode (text.flatMap Text.Utf8.encodeChar)) with
    | none => .error .domainName
    | some [] => .error .emptyHost
    | some domain =>
      if endsInNumber domain then
        match ipv4? domain with
        | some address => .ok (.v4 address)
        | none => .error .ipv4
      else .ok (.name (String.ofList domain))

/-- Whether a character may not stand in a host that is taken as it is. -/
def isForbiddenOpaque (c : Char) : Bool :=
  ['\x00', '\t', '\n', '\r', ' ', '#', '/', ':', '<', '>', '?', '@', '[', '\\', ']', '^',
    '|'].contains c

/-- The host of any other address. -/
def parseOpaque (text : List Char) : Except UrlFault Host :=
  if text.head? = some '[' then bracketed text
  else if text.any isForbiddenOpaque then .error .hostCharacter
  else .ok (.name (String.ofList (Percent.encode Percent.isControl text)))

end Host

end BearerGate
