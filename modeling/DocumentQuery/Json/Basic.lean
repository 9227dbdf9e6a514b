import DocumentQuery.OrderedMap
import DocumentQuery.Decimal.Double

namespace DocumentQuery

/-!
# JSON documents

Filters, changes and rows are given as JSON documents.  Three kinds of number are told
apart, because what a number may be used for depends on how it was written: a literal
without point or exponent is an integer if 64 bits with a sign hold it, a large integer if
64 bits without a sign hold it, and every other literal is a real.
-/

inductive Json.Number where
  | integer (n : Int64)
  | large (n : UInt64)
  | real (x : Float)
deriving Repr, BEq, Inhabited

/-- A JSON document.  The members of an object keep the order in which they were
written. -/
inductive Json where
  | null
  | bool (b : Bool)
  | number (n : Json.Number)
  | string (s : String)
  | array (items : List Json)
  | object (members : OrderedMap Json)
deriving Repr, BEq, Inhabited

namespace Json

/-- The integer that a number is, if it has 64 bits with a sign. -/
def Number.integer? : Number → Option Int64
  | .integer n => some n
  | _ => none

def Number.toFloat : Number → Float
  | .integer n => Decimal.ofInt64 n
  | .large n => Float.ofNat n.toNat
  | .real x => x

def integer? : Json → Option Int64
  | .number n => n.integer?
  | _ => none

def string? : Json → Option String
  | .string s => some s
  | _ => none

/-- The number for a double, where there is one: infinities and NaN have none. -/
def ofFloat (x : Float) : Json :=
  if x.isFinite then .number (.real x) else .null

def ofInt64 (n : Int64) : Json :=
  .number (.integer n)

def ofUInt64 (n : UInt64) : Json :=
  if n.toNat < 0x8000000000000000 then .number (.integer (Int64.ofNat n.toNat)) else .number (.large n)

/-- An object from its members in order. -/
def ofMembers (members : List (String × Json)) : Json :=
  .object (OrderedMap.ofList members)

/-- The document for a value that may be missing. -/
def ofOption {α : Type} (f : α → Json) : Option α → Json
  | some x => f x
  | none => .null

end Json
end DocumentQuery
