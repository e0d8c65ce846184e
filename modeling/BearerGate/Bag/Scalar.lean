import BearerGate.Json.Basic

/-!
# Scalars

The values that annotations can have: no lists, no objects and no null. A number is kept as an
integer where it is one, with or without a sign as its size demands, and as a double otherwise.
-/

namespace BearerGate

/-- A value without parts. -/
inductive Scalar
  | bool (value : Bool)
  | int (value : Int64)
  | uint (value : UInt64)
  | double (value : Double)
  | string (value : String)
  deriving DecidableEq

namespace Scalar

/-- The scalar of an integer: with a sign if 64 bits suffice for that, and without one above. -/
def ofInt (n : Int) : Scalar :=
  if n < 0x8000000000000000 then .int (Int64.ofInt n) else .uint (UInt64.ofNat n.toNat)

/-- The scalar that a value is, unless it is null or has parts. -/
def ofJson? : Json → Option Scalar
  | .bool b => some (.bool b)
  | .number (.integer n) => some (ofInt n)
  | .number (.double x) => some (.double x)
  | .string s => some (.string s)
  | .null | .array _ | .object _ => none

/-- The scalar as a value. -/
def toJson : Scalar → Json
  | .bool b => .bool b
  | .int n => .int n.toInt
  | .uint n => .int n.toNat
  | .double x => if x.isFinite then .number (.double x) else .null
  | .string s => .string s

end Scalar

end BearerGate
