import BearerGate.Number.Double

/-!
# Shortest decimals

The fewest decimal digits that determine a double.

The reals that round to a finite double form an interval around it, whose ends belong to it
exactly if its significand is even. With `n` digits there are two candidates, the neighbours of
the value on the grid of decimals of that precision; the least `n` for which one of them lies in
the interval wins, and of two that do the nearer.
-/

namespace BearerGate

/-- A decimal number `digits · 10 ^ exponent`. -/
structure Decimal where
  digits : Nat
  exponent : Int
  deriving DecidableEq

namespace Double

/-- Compares `a · 10 ^ k` with `b · 2 ^ q`, both as integers over a common denominator. -/
def gridPair (a : Nat) (k : Int) (b : Nat) (q : Int) : Nat × Nat :=
  ((a * Nat.pow 10 k.toNat) <<< (-q).toNat, (b * Nat.pow 10 (-k).toNat) <<< q.toNat)

/-- The interval of a double, in units of a quarter of its last place: the lower end, the value
and the upper end. Below a power of two the doubles lie twice as close. -/
def interval (x : Double) : Nat × Nat × Nat :=
  let m := x.significand
  let low := if m = leadingBit ∧ 2 * leadingBit ≤ x.magnitude then 4 * m - 1 else 4 * m - 2
  (low, 4 * m, 4 * m + 2)

/-- Whether `a · 10 ^ k` rounds to the double. -/
def admits (x : Double) (a : Nat) (k : Int) : Bool :=
  let (low, _, high) := x.interval
  let q := x.exponent - 2
  let (p, l) := gridPair a k low q
  let (r, h) := gridPair a k high q
  if x.significand % 2 = 0 then l ≤ p && r ≤ h else l < p && r < h

/-- The largest `a` with `a · 10 ^ k` not above the double. -/
def floorOn (x : Double) (k : Int) : Nat :=
  let q := x.exponent
  ((x.significand * Nat.pow 10 (-k).toNat) <<< q.toNat) / (Nat.pow 10 k.toNat <<< (-q).toNat)

/-- Whether `a · 10 ^ k` is at least as near to the double as `(a + 1) · 10 ^ k`. -/
def lowerIsNearer (x : Double) (a : Nat) (k : Int) : Bool :=
  let (grid, value) := gridPair (2 * a + 1) k (2 * x.significand) x.exponent
  value < grid || (value = grid && a % 2 = 0)

/-- The exponent of ten of the leading digit of a positive double, found by counting down. -/
def leadingExponent (x : Double) : Nat → Int → Int
  | 0, k => k
  | fuel + 1, k => if floorOn x k ≥ 1 then k else leadingExponent x fuel (k - 1)

/-- The first precision from `n` digits on at which a neighbour on the grid rounds to the double.
-/
def searchDigits (x : Double) (lead : Int) : Nat → Nat → Decimal
  | 0, n => ⟨floorOn x (lead - n), lead - n⟩
  | fuel + 1, n =>
    let k := lead - n
    let a := floorOn x k
    let below := a > 0 && x.admits a k
    let above := x.admits (a + 1) k
    if below && (!above || lowerIsNearer x a k) then ⟨a, k⟩
    else if above then ⟨a + 1, k⟩
    else searchDigits x lead fuel (n + 1)

/-- The number without zeros at the end of its digits. -/
def dropZeros : Nat → Decimal → Decimal
  | 0, d => d
  | fuel + 1, d =>
    if d.digits ≠ 0 ∧ d.digits % 10 = 0 then dropZeros fuel ⟨d.digits / 10, d.exponent + 1⟩ else d

/-- The shortest decimal that reads back as the absolute value of a finite double. -/
def shortest (x : Double) : Decimal :=
  if x.significand = 0 then ⟨0, 0⟩
  else dropZeros 20 (searchDigits x (leadingExponent x 640 309) 17 0)

/-- The decimal digits of a natural number. -/
def digitChars (n : Nat) : List Char :=
  Nat.toDigits 10 n

/-- The digits of `d` with the point put where it belongs, without a fraction of zero. -/
def positional (d : Decimal) : List Char :=
  let digits := digitChars d.digits
  match d.exponent with
  | .ofNat k => digits ++ List.replicate k '0'
  | .negSucc k =>
    let places := k + 1
    if digits.length ≤ places then
      '0' :: '.' :: (List.replicate (places - digits.length) '0' ++ digits)
    else
      digits.take (digits.length - places) ++ '.' :: digits.drop (digits.length - places)

/-- The text of a finite double in positional notation, whatever its size. -/
def plainText (x : Double) : String :=
  String.ofList ((if x.isNegative then ['-'] else []) ++ positional x.shortest)

end Double

end BearerGate
