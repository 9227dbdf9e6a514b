import DocumentQuery.Text.HiddenTable

namespace DocumentQuery
namespace Text

/-!
# Quoted display

Descriptions of connections, tables and registries show names in double quotes.  Double
quotes, backslashes and line breaks are escaped, and so is every character that would not
show by itself, so that a description is always one readable line.
-/

/-- The hexadecimal digits of a number, in small letters and without leading zeros. -/
def hexDigits (n : Nat) : List Char :=
  Nat.toDigits 16 n

def quotedChar (c : Char) : List Char :=
  if c = '\u0000' then ['\\', '0']
  else if c = '\t' then ['\\', 't']
  else if c = '\r' then ['\\', 'r']
  else if c = '\n' then ['\\', 'n']
  else if c = '\\' || c = '"' then ['\\', c]
  else if inRanges hiddenRanges c.toNat then ['\\', 'u', '\x7b'] ++ hexDigits c.toNat ++ ['\x7d']
  else [c]

/-- A text in double quotes, with everything escaped that would not show by itself. -/
def quoted (s : String) : String :=
  String.ofList ('"' :: s.toList.flatMap quotedChar ++ ['"'])

end Text
end DocumentQuery
