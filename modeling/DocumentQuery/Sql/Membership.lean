import DocumentQuery.Sql.Expr

namespace DocumentQuery
namespace Sql

/-!
# Membership in stored sets

A set is stored as the compact text of a JSON array, so an element stands in it in one of
four positions: alone, first, in the middle or last.  Each position is recognized by the
characters on both sides of the element, and those are also what an element is inserted
and removed with.
-/

/-- The texts that show an element in each position. -/
structure Positions where
  element : Expr
  only : Expr
  first : Expr
  middle : Expr
  last : Expr

/-- An element between two texts. -/
def between (before : String) (element : Expr) (after : String) : Expr :=
  .binary .concat (.binary .concat (.literal before) element) (.literal after)

/-- The positions of an element, given by its JSON text. -/
def Positions.of (element : Expr) : Positions where
  element := element
  only := between "[" element "]"
  first := between "[" element ","
  middle := between "," element ","
  last := between "," element "]"

/-- A text occurs in a column. -/
def occurs (column part : Expr) : Expr :=
  .binary .gt (.instr column part) (.number 0)

/-- The element occurs in a column in one of its positions. -/
def Positions.contained (p : Positions) (column : Expr) : Expr :=
  .group (.binary .or (.binary .or (.binary .or (occurs column p.only) (occurs column p.first))
    (occurs column p.middle)) (occurs column p.last))

/-- Bind an element; the store writes it as JSON. -/
def boundPositions (element : Scalar) : Binder Positions := do
  let placeholder ← bound element
  pure (.of (.jsonQuote placeholder))

/-- A set with an element: a set that has it stays as it is, and a missing or empty set
becomes the set of it alone. -/
def Positions.inserted (p : Positions) (column : Expr) : Expr :=
  let isAlone : Expr :=
    .binary .or (.binary .or (.isNull column) (.binary .eq column (.literal "[]")))
      (.binary .eq column p.only)
  let isThere : Expr :=
    .binary .or (.binary .or (occurs column p.first) (occurs column p.middle))
      (occurs column p.last)
  let withoutBracket : Expr :=
    .substr column (.number 1) (.binary .minus (.length column) (.number 1))
  let appended : Expr :=
    .binary .concat (.binary .concat (.binary .concat withoutBracket (.literal ",")) p.element)
      (.literal "]")
  .choice (.when isAlone p.only (.when isThere column (.otherwise appended)))

/-- A set without an element: what shows its position is replaced by what is left there. -/
def Positions.removed (p : Positions) (column : Expr) : Expr :=
  let empty : Expr := .literal "[]"
  .choice (.when (.isNull column) .null (.when (.binary .eq column empty) empty
    (.when (.binary .eq column p.only) empty
      (.when (occurs column p.first) (.replace column p.first (.literal "["))
        (.when (occurs column p.middle) (.replace column p.middle (.literal ","))
          (.when (occurs column p.last) (.replace column p.last (.literal "]"))
            (.otherwise column)))))))

end Sql
end DocumentQuery
