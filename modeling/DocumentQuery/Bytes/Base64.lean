namespace DocumentQuery
namespace Bytes

/-!
# Base 64

Bytes in documents are written in base 64: three bytes make four characters, and equals
signs fill up the last group.
-/

/-- The 64 characters, in the order of their values. -/
def alphabet : List Char :=
  "ABCDEFGHIJKLMNOPQRSTUVWXYZabcdefghijklmnopqrstuvwxyz0123456789+/".toList

/-- The character of a value below 64. -/
def sextet (n : Nat) : Char :=
  alphabet.getD (n % 64) 'A'

def base64 : List UInt8 → List Char
  | [] => []
  | [a] =>
    let n := a.toNat * 16
    [sextet (n / 64), sextet n, '=', '=']
  | [a, b] =>
    let n := (a.toNat * 256 + b.toNat) * 4
    [sextet (n / 4096), sextet (n / 64), sextet n, '=']
  | a :: b :: c :: rest =>
    let n := (a.toNat * 256 + b.toNat) * 256 + c.toNat
    sextet (n / 262144) :: sextet (n / 4096) :: sextet (n / 64) :: sextet n :: base64 rest

end Bytes
end DocumentQuery
