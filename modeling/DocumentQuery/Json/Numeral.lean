import DocumentQuery.Json.Basic
import DocumentQuery.Decimal.Reading

namespace DocumentQuery
namespace Json

/-!
# Numerals of JSON texts

A numeral is checked against the grammar first and given its value then.  The value of a
real is found in two roundings: as many leading digits as 64 bits hold form an integer,
which is rounded to a double, and that double is multiplied or divided by a power of ten.
A real beyond the largest double has no value.
-/

/-- A numeral after its grammar has been checked, with digits as numbers. -/
structure Numeral where
  negative : Bool
  whole : List Nat
  fraction : Option (List Nat)
  exponent : Option (Bool × List Nat)
deriving Repr, DecidableEq

/-- A nonempty run of digits. -/
def digits? : List Char → Option (List Nat)
  | [] => none
  | c :: rest => (c :: rest).mapM Decimal.digit?

/-- The sign of an exponent and what follows it; an exponent without a sign is positive. -/
def exponentSign : List Char → Bool × List Char
  | '-' :: rest => (true, rest)
  | '+' :: rest => (false, rest)
  | s => (false, s)

/-- Read the exponent of a numeral, if one is there. -/
def exponentPart? : List Char → Option (Option (Bool × List Nat))
  | [] => some none
  | c :: rest =>
    if c = 'e' || c = 'E' then
      let (negative, digits) := exponentSign rest
      (digits? digits).map fun ds => some (negative, ds)
    else none

/-- Read a numeral: no leading zeros, at least one digit on each side of the point. -/
def Numeral.read? (s : List Char) : Option Numeral := do
  let (negative, unsigned) := match s with
    | '-' :: rest => (true, rest)
    | _ => (false, s)
  let whole ← digits? (unsigned.takeWhile Text.isDigit)
  let afterWhole := unsigned.dropWhile Text.isDigit
  if whole.head? = some 0 && whole.length ≠ 1 then none
  else
    match afterWhole with
    | '.' :: rest =>
      let fraction ← digits? (rest.takeWhile Text.isDigit)
      let exponent ← exponentPart? (rest.dropWhile Text.isDigit)
      pure ⟨negative, whole, some fraction, exponent⟩
    | _ =>
      let exponent ← exponentPart? afterWhole
      pure ⟨negative, whole, none, exponent⟩

/-- Add digits to a significand as long as it stays below `2 ^ 64`, and return the digits
left over. -/
def gather (significand : Nat) : List Nat → Nat × List Nat
  | [] => (significand, [])
  | d :: rest =>
    if 10 * significand + d < 0x10000000000000000 then gather (10 * significand + d) rest
    else (significand, d :: rest)

/-- The double nearest to a power of ten. -/
def powerOfTen (n : Nat) : Float :=
  Float.ofScientific 1 false n

/-- Divide so many times by the largest power of ten that is a double; zero stays as it
is. -/
def divideRepeatedly : Nat → Float → Float
  | 0, x => x
  | times + 1, x => if x == 0.0 then x else divideRepeatedly times (x / powerOfTen 308)

/-- Divide by a power of ten, by the largest one that is a double as long as that is too
little. -/
def divideByPowerOfTen (x : Float) (n : Nat) : Float :=
  let times := (n - 1) / 308
  divideRepeatedly times x / powerOfTen (n - 308 * times)

/-- Multiply by a power of ten, which must not lead beyond the largest double. -/
def scale (x : Float) (exponent : Int) : Option Float :=
  if exponent < 0 then some (divideByPowerOfTen x exponent.natAbs)
  else if exponent ≤ 308 then
    let product := x * powerOfTen exponent.natAbs
    if product.isInf then none else some product
  else if x == 0.0 then some x
  else none

def valueOfDigits (digits : List Nat) : Nat :=
  digits.foldl (fun n d => 10 * n + d) 0

def exponentValue : Option (Bool × List Nat) → Int
  | none => 0
  | some (negative, digits) => if negative then -(valueOfDigits digits) else valueOfDigits digits

def Numeral.real? (n : Numeral) : Option Float :=
  let (significand, wholeLeft) := gather 0 n.whole
  let fraction := n.fraction.getD []
  let (significand, fractionLeft) := gather significand fraction
  let exponent : Int :=
    wholeLeft.length - (fraction.length - fractionLeft.length : Nat) + exponentValue n.exponent
  (scale (Float.ofNat significand) exponent).map fun x => if n.negative then -x else x

/-- The value of a numeral.  An integer that is negative zero, below the signed or above
the unsigned 64-bit range is a real. -/
def Numeral.value? (n : Numeral) : Option Number :=
  let magnitude := valueOfDigits n.whole
  if n.fraction.isNone && n.exponent.isNone && (gather 0 n.whole).2.isEmpty then
    if n.negative then
      if magnitude = 0 || 0x8000000000000000 < magnitude then some (.real (-(Float.ofNat magnitude)))
      else some (.integer (Int64.ofInt (-(magnitude : Int))))
    else if magnitude < 0x8000000000000000 then some (.integer (Int64.ofNat magnitude))
    else some (.large (UInt64.ofNat magnitude))
  else n.real?.map .real

end Json
end DocumentQuery
