namespace DocumentQuery
namespace Decimal

/-!
# The exact value of a double

A finite double is an integer times a power of two.  Whether it is an integer, which
integer it truncates to and which decimal denotes it are questions about that exact
value; they are answered here in integers, never by rounding again.
-/

/-- A finite double without its sign, as `significand * 2 ^ exponent`. -/
structure Binary where
  significand : Nat
  exponent : Int
  /-- The double below is only half as far away as the double above. -/
  halvedBelow : Bool
deriving Repr, DecidableEq

/-- The magnitude that the bits of a finite double stand for. -/
def Binary.ofBits (bits : UInt64) : Binary :=
  let scale : Nat := (bits.toNat / 0x10000000000000) % 0x800
  let fraction : Nat := bits.toNat % 0x10000000000000
  if scale = 0 then ⟨fraction, -1074, false⟩
  else ⟨0x10000000000000 + fraction, (scale : Int) - 1075, fraction == 0 && scale != 1⟩

def magnitude (x : Float) : Binary :=
  Binary.ofBits x.toBits

/-- The sign bit is set; so it is for negative zero. -/
def isNegative (x : Float) : Bool :=
  x.toBits.toNat / 0x8000000000000000 == 1

def Binary.floor (b : Binary) : Nat :=
  if 0 ≤ b.exponent then b.significand * Nat.pow 2 b.exponent.toNat
  else b.significand / Nat.pow 2 (-b.exponent).toNat

def Binary.isIntegral (b : Binary) : Bool :=
  decide (0 ≤ b.exponent) || b.significand % Nat.pow 2 (-b.exponent).toNat == 0

/-- The integer that a finite double truncates to; zero for the others. -/
def truncate (x : Float) : Int :=
  if x.isFinite then
    let whole : Int := (magnitude x).floor
    if isNegative x then -whole else whole
  else 0

/-- The double is an integer.  Infinities and NaN are none. -/
def isIntegral (x : Float) : Bool :=
  x.isFinite && (magnitude x).isIntegral

/-- The nearest 64-bit integer: integers out of range give the end of the range they are
beyond. -/
def clampInt64 (n : Int) : Int64 :=
  if n < -0x8000000000000000 then Int64.minValue
  else if 0x8000000000000000 ≤ n then Int64.maxValue
  else Int64.ofInt n

/-- Truncation to a 64-bit integer: what is out of range, infinities included, gives the
end of the range, and NaN gives zero. -/
def toInt64 (x : Float) : Int64 :=
  if x.isNaN then 0
  else if x.isInf then if isNegative x then Int64.minValue else Int64.maxValue
  else clampInt64 (truncate x)

/-- The double nearest to a 64-bit integer. -/
def ofInt64 (n : Int64) : Float :=
  Float.ofInt n.toInt

end Decimal
end DocumentQuery
