import DocumentQuery.Json.Fields
import DocumentQuery.Decimal.Layout

namespace DocumentQuery

/-!
# Scalars

A scalar is what the store keeps in one cell and what is bound to a placeholder of a
statement.  Numbers compare as doubles, truth values counting as zero and one.
-/

/-- A value that is bound to a placeholder. -/
inductive Scalar where
  | null
  | integer (n : Int64)
  | real (x : Float)
  | text (s : String)
  | bool (b : Bool)
  | blob (bytes : List UInt8)
deriving Repr, BEq, Inhabited

namespace Scalar

/-- One for true, zero for false. -/
def ofBool (b : Bool) : Int64 :=
  if b then 1 else 0

/-- The scalar of a JSON value; arrays and objects have none.  A number that is no 64-bit
integer counts as a real. -/
def ofJson? : Json → Option Scalar
  | .null => some .null
  | .bool b => some (.bool b)
  | .number n =>
    match n.integer? with
    | some i => some (.integer i)
    | none => some (.real n.toFloat)
  | .string s => some (.text s)
  | .array _ => none
  | .object _ => none

/-- A scalar as a number, if it counts as one. -/
def toFloat? : Scalar → Option Float
  | .integer n => some (Decimal.ofInt64 n)
  | .real x => some x
  | .bool b => some (if b then 1.0 else 0.0)
  | _ => none

/-- The JSON form of a scalar; bytes are an array of numbers. -/
def toJson : Scalar → Json
  | .null => .null
  | .integer n => .ofInt64 n
  | .real x => .ofFloat x
  | .text s => .string s
  | .bool b => .bool b
  | .blob bytes => .array (bytes.map fun b => .ofUInt64 b.toUInt64)

/-- A byte that a document holds as a number. -/
def byteOfJson? : Json → Option UInt8
  | .number (.integer n) => if 0 ≤ n ∧ n < 256 then some n.toInt.toNat.toUInt8 else none
  | _ => none

/-- The scalar whose JSON form a document is; a number beyond 64-bit integers counts as a
real, and an array must hold bytes. -/
def ofDocument? : Json → Option Scalar
  | .array items => (items.mapM byteOfJson?).map .blob
  | json => ofJson? json

end Scalar

def integerText (n : Int64) : String :=
  String.ofList (Decimal.integer n.toInt)

def realText (x : Float) : String :=
  String.ofList (Decimal.plainText.write x)

def boolText (b : Bool) : String :=
  if b then "true" else "false"

end DocumentQuery
