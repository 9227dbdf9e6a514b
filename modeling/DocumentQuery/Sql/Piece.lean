import DocumentQuery.Value.Scalar
import DocumentQuery.Decimal.Layout

namespace DocumentQuery
namespace Sql

/-!
# Statements

A statement is a list of pieces and the scalars bound to its placeholders.  Only four
kinds of piece exist: the fixed words of the language, names in quotes, literals in
apostrophes, and numbered placeholders.  What a caller gives as a value can reach a
statement only as a bound scalar.
-/

inductive Piece where
  | word (text : String)
  | name (text : String)
  | literal (text : String)
  | param (number : Nat)
deriving Repr, DecidableEq

/-- A text with every occurrence of a quote written twice. -/
def doubled (quote : Char) : List Char → List Char
  | [] => []
  | c :: rest => if c = quote then c :: c :: doubled quote rest else c :: doubled quote rest

/-- A text between two quotes, with quotes inside it written twice. -/
def enclosed (quote : Char) (s : String) : List Char :=
  quote :: doubled quote s.toList ++ [quote]

def Piece.text : Piece → List Char
  | .word text => text.toList
  | .name text => enclosed '"' text
  | .literal text => enclosed '\'' text
  | .param number => '?' :: Decimal.natural number

/-- The text of pieces, one after the other. -/
def piecesText (pieces : List Piece) : String :=
  String.ofList (pieces.flatMap Piece.text)

/-- A name in quotes. -/
def quoteName (name : String) : String :=
  piecesText [.name name]

/-- The names of a path, in quotes and with points between them. -/
def pathPieces : List String → List Piece
  | [] => []
  | [name] => [.name name]
  | name :: next :: rest => .name name :: .word "." :: pathPieces (next :: rest)

/-- Parts of a statement with a separator between them. -/
def separated (separator : String) : List (List Piece) → List Piece
  | [] => []
  | [part] => part
  | part :: next :: rest => part ++ .word separator :: separated separator (next :: rest)

/-- A statement and the scalars bound to its placeholders. -/
structure Statement where
  pieces : List Piece
  params : List Scalar
deriving Repr, BEq

def Statement.text (s : Statement) : String :=
  piecesText s.pieces

end Sql
end DocumentQuery
