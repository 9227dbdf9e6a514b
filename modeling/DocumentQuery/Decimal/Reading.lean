import DocumentQuery.Decimal.Double
import DocumentQuery.Text.CodePoints

namespace DocumentQuery
namespace Decimal

/-!
# Numbers read from text

The numeral texts that text values are converted from: integers with an optional sign,
and reals that may also lack the digits on one side of the point or be the words for
infinity and NaN.  The real read is the one nearest to the decimal.
-/

def digit? (c : Char) : Option Nat :=
  if Text.isDigit c then some (c.toNat - '0'.toNat) else none

/-- The number that a list of digits denotes, continuing the number `start`. -/
def digitsValue (start : Nat) : List Char → Option Nat
  | [] => some start
  | c :: rest =>
    match digit? c with
    | some d => digitsValue (10 * start + d) rest
    | none => none

/-- One or more digits and nothing else. -/
def natural? : List Char → Option Nat
  | [] => none
  | c :: rest => digitsValue 0 (c :: rest)

/-- An integer: digits after an optional sign. -/
def integer? : List Char → Option Int
  | '-' :: rest => (natural? rest).map fun n => -(n : Int)
  | '+' :: rest => (natural? rest).map fun n => (n : Int)
  | s => (natural? s).map fun n => (n : Int)

/-- The 64-bit integer of this value, if there is one. -/
def int64? (n : Int) : Option Int64 :=
  if -0x8000000000000000 ≤ n ∧ n < 0x8000000000000000 then some (Int64.ofInt n) else none

/-- A 64-bit integer: digits after an optional sign, in range. -/
def readInt64 (s : List Char) : Option Int64 :=
  (integer? s).bind int64?

/-- An unsigned 64-bit integer: digits after an optional plus sign, in range. -/
def readUInt64 (s : List Char) : Option UInt64 :=
  let digits := match s with
    | '+' :: rest => rest
    | _ => s
  match natural? digits with
  | some n => if n < 0x10000000000000000 then some (UInt64.ofNat n) else none
  | none => none

/-- The double nearest to `digits * 10 ^ exponent`.  A decimal whose order of magnitude is
beyond all doubles is decided by that order alone. -/
def nearest (digits : Nat) (exponent : Int) : Float :=
  let leading : Int := (Nat.toDigits 10 digits).length + exponent
  if digits = 0 then 0.0
  else if 400 < leading then 1.0 / 0.0
  else if leading < -400 then 0.0
  else Float.ofScientific digits (exponent < 0) exponent.natAbs

/-- The exponent of a decimal: nothing, or a letter E before an integer. -/
def exponent? : List Char → Option Int
  | [] => some 0
  | c :: rest => if c = 'e' || c = 'E' then integer? rest else none

/-- A decimal without a sign: digits with an optional point, at least one digit, and an
optional exponent. -/
def unsignedReal? (s : List Char) : Option Float :=
  let whole := s.takeWhile Text.isDigit
  let afterWhole := s.dropWhile Text.isDigit
  let (fraction, tail) := match afterWhole with
    | '.' :: rest => (rest.takeWhile Text.isDigit, rest.dropWhile Text.isDigit)
    | _ => ([], afterWhole)
  match natural? (whole ++ fraction), exponent? tail with
  | some digits, some exponent => some (nearest digits (exponent - fraction.length))
  | _, _ => none

/-- The words for infinity and NaN, in any letter case. -/
def realWord? (s : List Char) : Option Float :=
  let word := String.ofList (s.map Text.smallLatin)
  if word = "inf" || word = "infinity" then some (1.0 / 0.0)
  else if word = "nan" then some (0.0 / 0.0)
  else none

/-- A real number: an optional sign before a decimal or a word. -/
def readReal (s : List Char) : Option Float :=
  let magnitude? (rest : List Char) := (realWord? rest).or (unsignedReal? rest)
  match s with
  | '-' :: rest => (magnitude? rest).map fun x => -x
  | '+' :: rest => magnitude? rest
  | _ => magnitude? s

end Decimal
end DocumentQuery
