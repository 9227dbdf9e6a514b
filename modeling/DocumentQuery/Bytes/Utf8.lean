namespace DocumentQuery
namespace Bytes

/-!
# UTF-8

Bytes in a text column are read as UTF-8.  Bytes that are no UTF-8 become replacement
characters, one for each longest run of bytes that could have begun a character.
-/

def utf8 (s : String) : List UInt8 :=
  s.toUTF8.toList

/-- A character of which some bytes have been read: its bits so far, the number of bytes
still to come, and the bounds of the next one. -/
structure Begun where
  value : Nat
  left : Nat
  least : Nat
  greatest : Nat

/-- The character that stands for bytes that are no UTF-8. -/
def replacement : Char := '\ufffd'

/-- What the first byte of a character announces; bytes that begin no character announce
nothing.  The bounds of the second byte leave out characters in longer form than needed,
surrogates, and numbers beyond the last character. -/
def announced (b : Nat) : Option Begun :=
  if 0xC2 ≤ b ∧ b ≤ 0xDF then some ⟨b - 0xC0, 1, 0x80, 0xBF⟩
  else if b = 0xE0 then some ⟨0, 2, 0xA0, 0xBF⟩
  else if b = 0xED then some ⟨13, 2, 0x80, 0x9F⟩
  else if 0xE1 ≤ b ∧ b ≤ 0xEF then some ⟨b - 0xE0, 2, 0x80, 0xBF⟩
  else if b = 0xF0 then some ⟨0, 3, 0x90, 0xBF⟩
  else if 0xF1 ≤ b ∧ b ≤ 0xF3 then some ⟨b - 0xF0, 3, 0x80, 0xBF⟩
  else if b = 0xF4 then some ⟨4, 3, 0x80, 0x8F⟩
  else none

/-- A byte at the start of a character: what it completes and what it announces. -/
def beginChar (b : Nat) : List Char × Option Begun :=
  if b < 0x80 then ([Char.ofNat b], none)
  else
    match announced b with
    | some p => ([], some p)
    | none => ([replacement], none)

/-- The text of bytes after a partly read character. -/
def decodeFrom : Option Begun → List UInt8 → List Char
  | none, [] => []
  | some _, [] => [replacement]
  | none, b :: rest =>
    let (chars, next) := beginChar b.toNat
    chars ++ decodeFrom next rest
  | some p, b :: rest =>
    let n := b.toNat
    if p.least ≤ n ∧ n ≤ p.greatest then
      let value := 64 * p.value + (n - 0x80)
      if p.left ≤ 1 then Char.ofNat value :: decodeFrom none rest
      else decodeFrom (some ⟨value, p.left - 1, 0x80, 0xBF⟩) rest
    else
      let (chars, next) := beginChar n
      replacement :: chars ++ decodeFrom next rest

/-- The text of bytes read as UTF-8. -/
def decode (bytes : List UInt8) : String :=
  String.ofList (decodeFrom none bytes)

end Bytes
end DocumentQuery
