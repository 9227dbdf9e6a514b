import DocumentQuery.Decimal.Shortest

namespace DocumentQuery
namespace Decimal

/-!
# How a number is laid out

Which digits denote a double is settled in `Decimal.Shortest`; how they are written is a
matter of the format.  A `Layout` holds those decisions, and each format that writes
numbers has one value of it.
-/

/-- The decisions of a format that writes doubles. -/
structure Layout where
  /-- Exponents of the leading digit for which no exponent is written. -/
  positional : Int → Bool
  /-- A whole number written positionally keeps one zero after the point. -/
  keepsPoint : Bool
  /-- Choice between two equally close decimals. -/
  tie : Tie
  /-- Text of NaN. -/
  notANumber : List Char
  /-- Text of positive infinity. -/
  infinite : List Char

/-- The digits of a natural number. -/
def natural (n : Nat) : List Char :=
  Nat.toDigits 10 n

/-- The digits of an integer after its sign, if it is negative. -/
def integer (n : Int) : List Char :=
  if n < 0 then '-' :: natural n.natAbs else natural n.natAbs

/-- The digits of a natural number, filled up with zeros on the left to a given width. -/
def padded (width n : Nat) : List Char :=
  List.replicate (width - (natural n).length) '0' ++ natural n

/-- The decimal without an exponent. -/
def Layout.writePositional (layout : Layout) (digits : List Char) (exponent : Int) : List Char :=
  if 0 ≤ exponent then
    digits ++ List.replicate exponent.toNat '0' ++ (if layout.keepsPoint then ['.', '0'] else [])
  else
    let places := (-exponent).toNat
    if places < digits.length then
      digits.take (digits.length - places) ++ '.' :: digits.drop (digits.length - places)
    else ['0', '.'] ++ List.replicate (places - digits.length) '0' ++ digits

/-- The decimal with the point after its first digit and an exponent with a sign. -/
def writeScientific (digits : List Char) (leading : Int) : List Char :=
  let mantissa :=
    match digits with
    | [] => []
    | [d] => [d]
    | d :: rest => d :: '.' :: rest
  mantissa ++ ['e', if leading < 0 then '-' else '+'] ++ natural leading.natAbs

/-- A positive decimal in this layout. -/
def Layout.writeDecimal (layout : Layout) (d : Scaled) : List Char :=
  let digits := natural d.digits
  let leading : Int := d.exponent + digits.length - 1
  if layout.positional leading then layout.writePositional digits d.exponent
  else writeScientific digits leading

def Layout.write (layout : Layout) (x : Float) : List Char :=
  if x.isNaN then layout.notANumber
  else
    let text :=
      if x.isInf then layout.infinite
      else
        let b := magnitude x
        if b.significand = 0 then layout.writePositional ['0'] 0
        else layout.writeDecimal (b.shortest layout.tie)
    if isNegative x then '-' :: text else text

/-- Numbers turned into text, for text columns, text elements and pattern matching, are
written out in full: never with an exponent, and without a point when they are whole. -/
def plainText : Layout where
  positional := fun _ => true
  keepsPoint := false
  tie := .upper
  notANumber := ['N', 'a', 'N']
  infinite := ['i', 'n', 'f']

end Decimal
end DocumentQuery
