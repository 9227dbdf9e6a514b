import DocumentQuery.Text.CodePoints

namespace DocumentQuery
namespace Pattern

/-!
# Patterns

In a pattern a percent sign stands for any run of characters and an underscore for any one
character; all others stand for themselves, capital letters of ASCII and small ones alike.
The matcher goes through the text once and keeps, for every beginning of the pattern,
whether it matches the part of the text read so far.
-/

/-- For every beginning of the pattern longer than a given one, whether it matches the
empty text; `matched` says it of the given one. -/
def emptyRow (matched : Bool) : List Char → List Bool
  | [] => []
  | p :: rest =>
    let here := matched && p == '%'
    here :: emptyRow here rest

/-- The row after one more character of the text.  `above` is the row before without its
first entry, `aboveLeft` that entry, and `left` the entry just found. -/
def nextRow (c : Char) (aboveLeft left : Bool) : List Char → List Bool → List Bool
  | p :: pattern, above :: row =>
    let here :=
      if p = '%' then left || above
      else if p = '_' then aboveLeft
      else aboveLeft && p == c
    here :: nextRow c above here pattern row
  | _, _ => []

/-- The rows of all characters of a text, one after the other, starting from a first entry
and the rest of a row. -/
def lastRow (pattern : List Char) : Bool → List Bool → List Char → Bool × List Bool
  | first, row, [] => (first, row)
  | first, row, c :: text => lastRow pattern false (nextRow c first false pattern row) text

/-- A pattern matches the whole of a text, both in small letters. -/
def matchesChars (text pattern : List Char) : Bool :=
  let (first, row) := lastRow pattern true (emptyRow true pattern) text
  row.getLastD first

/-- A text is like a pattern: the pattern matches the whole of it. -/
def isLike (text pattern : String) : Bool :=
  matchesChars (text.toList.map Text.smallLatin) (pattern.toList.map Text.smallLatin)

end Pattern
end DocumentQuery
