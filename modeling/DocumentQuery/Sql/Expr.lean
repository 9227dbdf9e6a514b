import DocumentQuery.Error
import DocumentQuery.Sql.Piece

namespace DocumentQuery
namespace Sql

/-!
# Expressions

The expressions of conditions and assignments.  They are built as trees, so that what an
expression means can be said without reading its text; the pieces of the text follow from
the tree.
-/

inductive Operator where
  | eq
  | ne
  | lt
  | le
  | gt
  | ge
  | like
  | notLike
  | plus
  | minus
  | times
  | concat
  | and
  | or
deriving Repr, DecidableEq

def Operator.text : Operator → String
  | .eq => " = "
  | .ne => " <> "
  | .lt => " < "
  | .le => " <= "
  | .gt => " > "
  | .ge => " >= "
  | .like => " like "
  | .notLike => " not like "
  | .plus => " + "
  | .minus => " - "
  | .times => " * "
  | .concat => " || "
  | .and => " and "
  | .or => " or "

mutual

/-- An expression.  Parentheses are part of the tree. -/
inductive Expr where
  | column (path : List String)
  | param (number : Nat)
  | number (n : Nat)
  | literal (text : String)
  | null
  | binary (operator : Operator) (left right : Expr)
  | isNull (operand : Expr)
  | isNotNull (operand : Expr)
  | not (operand : Expr)
  | oneOf (operand : Expr) (params : List Nat)
  | noneOf (operand : Expr) (params : List Nat)
  | group (operand : Expr)
  | cast (operand : Expr) (type : String)
  | jsonQuote (operand : Expr)
  | length (operand : Expr)
  | instr (text part : Expr)
  | substr (text start count : Expr)
  | replace (text part other : Expr)
  | choice (cases : Cases)

/-- The cases of a choice: the first condition that is true decides. -/
inductive Cases where
  | otherwise (value : Expr)
  | when (condition value : Expr) (rest : Cases)

end

deriving instance Repr for Expr, Cases
deriving instance Inhabited for Expr, Cases

/-- Placeholders with commas between them. -/
def paramPieces (params : List Nat) : List Piece :=
  separated ", " (params.map fun number => [.param number])

mutual

def Expr.pieces : Expr → List Piece
  | .column path => pathPieces path
  | .param number => [.param number]
  | .number n => [.word (String.ofList (Decimal.natural n))]
  | .literal text => [.literal text]
  | .null => [.word "null"]
  | .binary operator left right => left.pieces ++ .word operator.text :: right.pieces
  | .isNull operand => operand.pieces ++ [.word " is null"]
  | .isNotNull operand => operand.pieces ++ [.word " is not null"]
  | .not operand => .word "not" :: operand.pieces
  | .oneOf operand params => operand.pieces ++ .word " in (" :: paramPieces params ++ [.word ")"]
  | .noneOf operand params =>
    operand.pieces ++ .word " not in (" :: paramPieces params ++ [.word ")"]
  | .group operand => .word "(" :: operand.pieces ++ [.word ")"]
  | .cast operand type => .word "cast(" :: operand.pieces ++ [.word (" as " ++ type ++ ")")]
  | .jsonQuote operand => .word "json_quote(" :: operand.pieces ++ [.word ")"]
  | .length operand => .word "length(" :: operand.pieces ++ [.word ")"]
  | .instr text part => .word "instr(" :: text.pieces ++ .word ", " :: part.pieces ++ [.word ")"]
  | .substr text start count =>
    .word "substr(" :: text.pieces ++ .word ", " :: start.pieces ++
      .word ", " :: count.pieces ++ [.word ")"]
  | .replace text part other =>
    .word "replace(" :: text.pieces ++ .word ", " :: part.pieces ++
      .word ", " :: other.pieces ++ [.word ")"]
  | .choice cases => .word "(CASE" :: cases.pieces ++ [.word " END)"]

def Cases.pieces : Cases → List Piece
  | .otherwise value => .word " ELSE " :: value.pieces
  | .when condition value rest =>
    .word " WHEN " :: condition.pieces ++ .word " THEN " :: value.pieces ++ rest.pieces

end

/-! ## Binding -/

/-- Building an expression: scalars are bound one after the other, and arguments may be
refused. -/
abbrev Binder := StateT (List Scalar) (Except QueryError)

/-- Bind a scalar to the next placeholder. -/
def bind (value : Scalar) : Binder Nat := fun params =>
  .ok (params.length + 1, params ++ [value])

/-- Bind a scalar, and refer to it. -/
def bound (value : Scalar) : Binder Expr := do
  let number ← bind value
  pure (.param number)

end Sql
end DocumentQuery
