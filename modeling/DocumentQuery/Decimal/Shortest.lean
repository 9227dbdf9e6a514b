import DocumentQuery.Decimal.Double

namespace DocumentQuery
namespace Decimal

/-!
# The shortest decimal of a double

Of the decimals that read back as a given double, the one with the fewest digits denotes
it.  The search goes over grids of 1, 2, … 17 digits.  On each grid only the two
neighbours of the exact value can be the nearest ones inside the rounding interval; the
first grid on which one of them lies inside gives the answer, the closer of two, and the
caller's rule decides an exact tie.
-/

/-- The decimal `digits * 10 ^ exponent`. -/
structure Scaled where
  digits : Nat
  exponent : Int
deriving Repr, DecidableEq

/-- Which of two equally close decimals is taken. -/
inductive Tie where
  | even
  | upper
deriving Repr, DecidableEq

/-- Compare `a * 10 ^ i` with `b * 2 ^ j`, exactly. -/
def compareScaled (a : Nat) (i : Int) (b : Nat) (j : Int) : Ordering :=
  compare (a * Nat.pow 10 i.toNat * Nat.pow 2 (-j).toNat)
    (b * Nat.pow 2 j.toNat * Nat.pow 10 (-i).toNat)

/-- The decimal rounds to this magnitude: it lies between the midpoints to the two
neighbouring doubles, and on a midpoint only if the significand is even. -/
def Binary.readsBack (b : Binary) (d : Scaled) : Bool :=
  let lower := 4 * b.significand - (if b.halvedBelow then 1 else 2)
  let upper := 4 * b.significand + 2
  let closed := b.significand % 2 == 0
  let fromBelow := compareScaled d.digits d.exponent lower (b.exponent - 2)
  let fromAbove := compareScaled d.digits d.exponent upper (b.exponent - 2)
  (fromBelow == .gt || (closed && fromBelow == .eq)) &&
    (fromAbove == .lt || (closed && fromAbove == .eq))

/-- The integer part of `b * 10 ^ scale`. -/
def Binary.floorScaled (b : Binary) (scale : Int) : Nat :=
  (b.significand * Nat.pow 2 b.exponent.toNat * Nat.pow 10 scale.toNat) /
    (Nat.pow 2 (-b.exponent).toNat * Nat.pow 10 (-scale).toNat)

def digitCount (n : Nat) : Nat :=
  (Nat.toDigits 10 n).length

/-- The least `k` with `b < 10 ^ k`, for a magnitude that is not zero.  Ten to the 340 is
enough to lift every double above one. -/
def Binary.order (b : Binary) : Int :=
  (digitCount (b.floorScaled 340) : Int) - 340

/-- The decimal with at most `count` digits that reads back and is closest, if there is
one. -/
def Binary.withDigits (b : Binary) (tie : Tie) (order : Int) (count : Nat) : Option Scaled :=
  let exponent := order - count
  let below := b.floorScaled (-exponent)
  let lower : Scaled := ⟨below, exponent⟩
  let upper : Scaled := ⟨below + 1, exponent⟩
  match b.readsBack lower, b.readsBack upper with
  | false, false => none
  | true, false => some lower
  | false, true => some upper
  | true, true =>
    match compareScaled (2 * below + 1) exponent (2 * b.significand) b.exponent with
    | .gt => some lower
    | .lt => some upper
    | .eq =>
      match tie with
      | .even => some (if below % 2 = 0 then lower else upper)
      | .upper => some upper

/-- The magnitude itself, written out as a decimal. -/
def Binary.toScaled (b : Binary) : Scaled :=
  if 0 ≤ b.exponent then ⟨b.significand * Nat.pow 2 b.exponent.toNat, 0⟩
  else ⟨b.significand * Nat.pow 5 (-b.exponent).toNat, b.exponent⟩

/-- Move trailing zeros of the digits into the exponent. -/
def Scaled.strip (d : Scaled) : Scaled :=
  let zeros := ((Nat.toDigits 10 d.digits).reverse.takeWhile fun c => c == '0').length
  ⟨d.digits / Nat.pow 10 zeros, d.exponent + zeros⟩

/-- The decimal with the fewest digits that reads back as the magnitude, which is not
zero. -/
def Binary.shortest (b : Binary) (tie : Tie) : Scaled :=
  let order := b.order
  match (List.range 17).findSome? fun i => b.withDigits tie order (i + 1) with
  | some d => d.strip
  | none => b.toScaled.strip

end Decimal
end DocumentQuery
