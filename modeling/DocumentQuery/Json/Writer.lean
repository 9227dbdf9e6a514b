import DocumentQuery.Json.Basic
import DocumentQuery.Decimal.Layout

namespace DocumentQuery
namespace Json

/-!
# JSON texts

The two written forms of a document: the compact one without any blanks, which is stored
in columns and bound to statements, and the indented one for files and reports.  The
compact form of an array is the bracketed list of the compact forms of its items; that is
what the editing of stored sets relies on.
-/

/-- A real is positional for exponents from -5 to 15 and keeps one decimal there; the exponent
of all others carries a sign. -/
def realLayout : Decimal.Layout where
  positional := fun leading => decide (-5 ≤ leading) && decide (leading < 16)
  keepsPoint := true
  tie := .even
  notANumber := ['n', 'u', 'l', 'l']
  infinite := ['n', 'u', 'l', 'l']

/-- A real that no numeral denotes is written as null. -/
def writeReal (x : Float) : List Char :=
  if x.isFinite then realLayout.write x else ['n', 'u', 'l', 'l']

def Number.write : Number → List Char
  | .integer n => Decimal.integer n.toInt
  | .large n => Decimal.natural n.toNat
  | .real x => writeReal x

def hexDigit (n : Nat) : Char :=
  Nat.digitChar n

/-- One character inside a written string: quotes, backslashes and control characters are
escaped, all others stand for themselves. -/
def escapeChar (c : Char) : List Char :=
  if c = '"' then ['\\', '"']
  else if c = '\\' then ['\\', '\\']
  else if c = '\x08' then ['\\', 'b']
  else if c = '\x0c' then ['\\', 'f']
  else if c = '\n' then ['\\', 'n']
  else if c = '\r' then ['\\', 'r']
  else if c = '\t' then ['\\', 't']
  else if c.toNat < 0x20 then
    ['\\', 'u', '0', '0', hexDigit (c.toNat / 16), hexDigit (c.toNat % 16)]
  else [c]

/-- A string in quotes. -/
def writeString (s : List Char) : List Char :=
  '"' :: s.flatMap escapeChar ++ ['"']

mutual

/-- The compact text of a document. -/
def write : Json → List Char
  | .null => ['n', 'u', 'l', 'l']
  | .bool b => if b then ['t', 'r', 'u', 'e'] else ['f', 'a', 'l', 's', 'e']
  | .number n => n.write
  | .string s => writeString s.toList
  | .array items => '[' :: writeItems items ++ [']']
  | .object ⟨members⟩ => '\x7b' :: writeMembers members ++ ['\x7d']

/-- The compact texts of items, with commas between them. -/
def writeItems : List Json → List Char
  | [] => []
  | [item] => write item
  | item :: next :: rest => write item ++ ',' :: writeItems (next :: rest)

/-- The compact texts of members, with commas between them. -/
def writeMembers : List (String × Json) → List Char
  | [] => []
  | [(name, value)] => writeString name.toList ++ ':' :: write value
  | (name, value) :: next :: rest =>
    writeString name.toList ++ ':' :: write value ++ ',' :: writeMembers (next :: rest)

end

def compact (json : Json) : String :=
  String.ofList json.write

/-- A line break and the indentation of a nesting level, two blanks each. -/
def lineBreak (level : Nat) : List Char :=
  '\n' :: List.replicate (2 * level) ' '

mutual

/-- The indented text of a document inside `level` containers. -/
def indent (level : Nat) : Json → List Char
  | .array [] => ['[', ']']
  | .array (item :: rest) =>
    '[' :: lineBreak (level + 1) ++ indentItems (level + 1) (item :: rest) ++
      lineBreak level ++ [']']
  | .object ⟨[]⟩ => ['\x7b', '\x7d']
  | .object ⟨member :: rest⟩ =>
    '\x7b' :: lineBreak (level + 1) ++ indentMembers (level + 1) (member :: rest) ++
      lineBreak level ++ ['\x7d']
  | .null => ['n', 'u', 'l', 'l']
  | .bool b => if b then ['t', 'r', 'u', 'e'] else ['f', 'a', 'l', 's', 'e']
  | .number n => n.write
  | .string s => writeString s.toList

/-- The indented texts of items, each on lines of its own. -/
def indentItems (level : Nat) : List Json → List Char
  | [] => []
  | [item] => indent level item
  | item :: next :: rest =>
    indent level item ++ ',' :: lineBreak level ++ indentItems level (next :: rest)

/-- The indented texts of members, each on lines of its own. -/
def indentMembers (level : Nat) : List (String × Json) → List Char
  | [] => []
  | [(name, value)] => writeString name.toList ++ ':' :: ' ' :: indent level value
  | (name, value) :: next :: rest =>
    writeString name.toList ++ ':' :: ' ' :: indent level value ++
      ',' :: lineBreak level ++ indentMembers level (next :: rest)

end

def pretty (json : Json) : String :=
  String.ofList (json.indent 0)

end Json
end DocumentQuery
