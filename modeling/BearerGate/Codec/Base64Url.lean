/-!
# Base64 for URLs

Base64 with the alphabet that is safe in URLs, without padding.

Four symbols of six bits stand for three bytes. The last group may have two or three symbols, for
one or two bytes, and then the bits that are left over must be zero. A padding mark is never
accepted, but a mark in a place where padding could stand is told apart from a foreign symbol.
-/

namespace BearerGate.Base64Url

/-- Why a text is not the encoding of bytes. Offsets count bytes from the start. -/
inductive Fault
  /-- A byte outside the alphabet. -/
  | symbol (byte : UInt8) (offset : Nat)
  /-- The last group has fewer than two symbols; the number is how many symbols there are. -/
  | length (symbols : Nat)
  /-- Padding marks at the end. -/
  | padding
  /-- The bits that are left over in the last symbol are not zero. -/
  | lastSymbol (byte : UInt8) (offset : Nat)
  deriving DecidableEq

/-- The wording of a fault. -/
def Fault.message : Fault → String
  | .symbol byte offset =>
    "Invalid symbol " ++ toString byte.toNat ++ ", offset " ++ toString offset ++ "."
  | .length symbols => "Invalid input length: " ++ toString symbols
  | .padding => "Invalid padding"
  | .lastSymbol byte offset =>
    "Invalid last symbol " ++ toString byte.toNat ++ ", offset " ++ toString offset ++ "."

/-- The padding mark `=`. -/
def paddingMark : UInt8 := 61

/-- The six bits of a symbol. -/
def sixBits? (byte : UInt8) : Option Nat :=
  let b := byte.toNat
  if 65 ≤ b ∧ b ≤ 90 then some (b - 65)
  else if 97 ≤ b ∧ b ≤ 122 then some (b - 71)
  else if 48 ≤ b ∧ b ≤ 57 then some (b + 4)
  else if b = 45 then some 62
  else if b = 95 then some 63
  else none

/-- The six bits of the symbol at `offset`. -/
def sixBits (byte : UInt8) (offset : Nat) : Except Fault Nat :=
  match sixBits? byte with
  | some bits => .ok bits
  | none => .error (.symbol byte offset)

/-- The symbols before the padding of the last group, and where the padding starts, if anywhere. -/
def scanLast (start : Nat) : Nat → Option Nat → List UInt8 → Except Fault (List Nat × Option Nat)
  | _, pad, [] => .ok ([], pad)
  | i, none, byte :: rest =>
    if byte = paddingMark then
      if i < 2 then .error (.symbol byte (start + i))
      else scanLast start (i + 1) (some (start + i)) rest
    else
      match sixBits? byte with
      | none => .error (.symbol byte (start + i))
      | some bits =>
        match scanLast start (i + 1) none rest with
        | .ok (symbols, pad) => .ok (bits :: symbols, pad)
        | .error fault => .error fault
  | i, some first, byte :: rest =>
    if byte = paddingMark then scanLast start (i + 1) (some first) rest
    else .error (.symbol paddingMark first)

/-- The bytes of a whole group of four symbols. -/
def bytesOfFour (a b c d : Nat) : List UInt8 :=
  [UInt8.ofNat (a * 4 + b / 16), UInt8.ofNat (b % 16 * 16 + c / 4), UInt8.ofNat (c % 4 * 64 + d)]

/-- The bytes of the last group, which starts at offset `start`. -/
def decodeLast (start : Nat) (group : List UInt8) : Except Fault (List UInt8) :=
  match scanLast start 0 none group with
  | .error fault => .error fault
  | .ok (symbols, pad) =>
    match symbols with
    | [] => if group.isEmpty then .ok [] else .error (.length start)
    | [_] => .error (.length (start + 1))
    | a :: b :: more =>
      if pad.isSome then .error .padding
      else
        match more with
        | [] =>
          if b % 16 ≠ 0 then .error (.lastSymbol (group.getD 1 0) (start + 1))
          else .ok [UInt8.ofNat (a * 4 + b / 16)]
        | [c] =>
          if c % 4 ≠ 0 then .error (.lastSymbol (group.getD 2 0) (start + 2))
          else .ok [UInt8.ofNat (a * 4 + b / 16), UInt8.ofNat (b % 16 * 16 + c / 4)]
        | c :: d :: _ => .ok (bytesOfFour a b c d)

/-- Decodes group by group; every group but the last has four symbols and no padding. -/
def decodeGroups (start : Nat) : List UInt8 → Except Fault (List UInt8)
  | a :: b :: c :: d :: e :: rest => do
    let w ← sixBits a start
    let x ← sixBits b (start + 1)
    let y ← sixBits c (start + 2)
    let z ← sixBits d (start + 3)
    let more ← decodeGroups (start + 4) (e :: rest)
    pure (bytesOfFour w x y z ++ more)
  | group => decodeLast start group

/-- The bytes that the text encodes. A foreign last byte that stands alone in its group is
reported before anything else. -/
def decode (text : List UInt8) : Except Fault (List UInt8) :=
  match text.getLast? with
  | none => .ok []
  | some last =>
    if text.length % 4 = 1 ∧ last ≠ paddingMark ∧ (sixBits? last).isNone then
      .error (.symbol last (text.length - 1))
    else decodeGroups 0 text

/-- The symbol of six bits. -/
def symbol (bits : Nat) : UInt8 :=
  if bits < 26 then UInt8.ofNat (bits + 65)
  else if bits < 52 then UInt8.ofNat (bits + 71)
  else if bits < 62 then UInt8.ofNat (bits - 4)
  else if bits = 62 then 45
  else 95

/-- The text that encodes the bytes. -/
def encode : List UInt8 → List UInt8
  | a :: b :: c :: rest =>
    symbol (a.toNat / 4) :: symbol (a.toNat % 4 * 16 + b.toNat / 16) ::
      symbol (b.toNat % 16 * 4 + c.toNat / 64) :: symbol (c.toNat % 64) :: encode rest
  | [a, b] =>
    [symbol (a.toNat / 4), symbol (a.toNat % 4 * 16 + b.toNat / 16), symbol (b.toNat % 16 * 4)]
  | [a] => [symbol (a.toNat / 4), symbol (a.toNat % 4 * 16)]
  | [] => []

end BearerGate.Base64Url
