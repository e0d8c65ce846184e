/-!
# Labels of other scripts

A label of a domain with characters outside of ASCII is written in ASCII: its ASCII characters, a
hyphen, and digits to base 36 that tell which other characters stand where. Those are numbered in
increasing order of code point and place, each by its distance from the one before, and the
lengths of the numbers adapt to the distances seen so far.

`encode` writes a label, and `decode` reads what it has written.
-/

namespace BearerGate.Punycode

/-- A digit to base 36. -/
def digitChar (d : Nat) : Char :=
  if d < 26 then Char.ofNat (97 + d) else Char.ofNat (22 + d)

/-- The value of a digit to base 36, whose letters may be capital. -/
def digitValue? (c : Char) : Option Nat :=
  if 'a' ≤ c ∧ c ≤ 'z' then some (c.toNat - 97)
  else if 'A' ≤ c ∧ c ≤ 'Z' then some (c.toNat - 65)
  else if '0' ≤ c ∧ c ≤ '9' then some (c.toNat - 22)
  else none

/-- The least digit at a place that ends a number. -/
def threshold (place bias : Nat) : Nat :=
  if place ≤ bias then 1 else if bias + 26 ≤ place then 26 else place - bias

theorem threshold_pos (place bias : Nat) : 1 ≤ threshold place bias := by
  unfold threshold
  split
  · exact Nat.le_refl _
  · split <;> omega

/-- How often a distance is divided by 35 until it is small, times 36, and what is left of it. -/
def shrink (distance steps : Nat) : Nat × Nat :=
  if 455 < distance then shrink (distance / 35) (steps + 36) else (distance, steps)
termination_by distance
decreasing_by exact Nat.div_lt_self (by omega) (by omega)

/-- The bias for the next number, after a distance and with so many characters written. -/
def adapt (distance written : Nat) (isFirst : Bool) : Nat :=
  let scaled := if isFirst then distance / 700 else distance / 2
  let (rest, steps) := shrink (scaled + scaled / written) 0
  steps + 36 * rest / (rest + 38)

/-! ## Writing -/

/-- The digits of a number. -/
def numberChars (bias place n : Nat) : List Char :=
  let t := threshold place bias
  if h : n < t then [digitChar n]
  else digitChar (t + (n - t) % (36 - t)) :: numberChars bias (place + 36) ((n - t) / (36 - t))
termination_by n
decreasing_by
  have := threshold_pos place bias
  exact Nat.lt_of_le_of_lt (Nat.div_le_self _ _) (by omega)

/-- How far the encoding of a label has come. -/
structure State where
  digits : List Char
  distance : Nat
  bias : Nat
  written : Nat

/-- Goes on to the next character of a label while characters with the code point `point` are
written. -/
def visit (basic point : Nat) (state : State) (c : Char) : State :=
  if c.toNat < point then { state with distance := state.distance + 1 }
  else if c.toNat = point then
    { digits := state.digits ++ numberChars state.bias 36 state.distance
      distance := 0
      bias := adapt state.distance (state.written + 1) (state.written = basic)
      written := state.written + 1 }
  else state

/-- Writes the characters of each code point in turn, `next` being the least that is not written.
-/
def visitPoints (label : List Char) (basic : Nat) : (next : Nat) → List Nat → State → State
  | _, [], state => state
  | next, point :: points, state =>
    let skipped := { state with distance := state.distance + (point - next) * (state.written + 1) }
    let visited := label.foldl (visit basic point) skipped
    visitPoints label basic (point + 1) points { visited with distance := visited.distance + 1 }

/-- The code points outside of ASCII in a label, in increasing order. -/
def points (label : List Char) : List Nat :=
  ((label.filter fun c => 128 ≤ c.toNat).map Char.toNat).eraseDups.mergeSort

/-- The encoded label, without the mark that tells that it is encoded. -/
def encode (label : List Char) : List Char :=
  let basic := label.filter fun c => c.toNat < 128
  let state := visitPoints label basic.length 128 (points label) ⟨[], 0, 72, basic.length⟩
  basic ++ (if basic.isEmpty then [] else ['-']) ++ state.digits

/-! ## Reading -/

/-- The least number that is too large to be read. -/
def numberLimit : Nat := 4294967296

/-- The number at the start of a text, added to `total`, and what stands behind it. -/
def readNumber? (bias : Nat) :
    (place weight total : Nat) → List Char → Option (Nat × List Char)
  | _, _, _, [] => none
  | place, weight, total, c :: rest =>
    match digitValue? c with
    | none => none
    | some d =>
      let t := threshold place bias
      if numberLimit ≤ total + d * weight then none
      else if d < t then some (total + d * weight, rest)
      else if numberLimit ≤ weight * (36 - t) then none
      else readNumber? bias (place + 36) (weight * (36 - t)) (total + d * weight) rest

theorem length_lt_of_readNumber? {bias place weight total n : Nat} {text rest : List Char}
    (h : readNumber? bias place weight total text = some (n, rest)) :
    rest.length < text.length := by
  fun_induction readNumber? bias place weight total text with
  | case1 => simp at h
  | case2 => simp at h
  | case3 => simp at h
  | case4 =>
    simp only [Option.some.injEq, Prod.mk.injEq] at h
    simp [← h.2]
  | case5 => simp at h
  | case6 _ _ _ _ _ _ _ _ _ _ _ ih => exact Nat.lt_succ_of_lt (ih h)

/-- Puts in the characters that numbers tell, from the code point `point` and the place `index`
on. -/
def insertChars (point index bias : Nat) (label digits : List Char) : Option (List Char) :=
  if digits.isEmpty then some label
  else
    match _h : readNumber? bias 36 1 index digits with
    | none => none
    | some (reached, rest) =>
      let size := label.length + 1
      let next := point + reached / size
      let place := reached % size
      if next.isValidChar then
        insertChars next (place + 1) (adapt (reached - index) size (index = 0))
          (label.take place ++ Char.ofNat next :: label.drop place) rest
      else none
termination_by digits.length
decreasing_by exact length_lt_of_readNumber? _h

/-- The characters in front of the last hyphen, and those behind it. If nothing stands in front of
it, it is not taken apart. -/
def splitBasic (text : List Char) : List Char × List Char :=
  let digits := (text.reverse.takeWhile (· ≠ '-')).reverse
  let basic := text.take (text.length - digits.length - 1)
  if basic.isEmpty then ([], text) else (basic, digits)

/-- The label that is encoded in a text without the mark that tells that it is encoded. -/
def decode (text : List Char) : Option (List Char) :=
  let (basic, digits) := splitBasic text
  insertChars 128 0 72 basic digits

end BearerGate.Punycode
