import DocumentQuery.Table.Basic
import DocumentQuery.Value.Basic

namespace DocumentQuery
namespace CommandLine

/-!
# Reports

What is printed for people: definitions and rows as lines of text, with colours where the
terminal has them.
-/

inductive Style where
  | redBold
  | blueBold
  | whiteBold
  | cyanBold
  | gray
deriving Repr, DecidableEq

/-- The codes that turn a style on. -/
def Style.codes : Style → List Char
  | .redBold => ['1', ';', '3', '1']
  | .blueBold => ['1', ';', '3', '4']
  | .whiteBold => ['1', ';', '9', '7']
  | .cyanBold => ['1', ';', '9', '6']
  | .gray => ['9', '0']

def Style.start (s : Style) : List Char :=
  '\x1b' :: '[' :: s.codes ++ ['m']

/-- The sequence that turns every style off. -/
def reset : List Char :=
  ['\x1b', '[', '0', 'm']

/-- A text in which a style is turned on again wherever styles are turned off. -/
def keepStyle (s : Style) : List Char → List Char
  | [] => []
  | '\x1b' :: '[' :: '0' :: 'm' :: rest => reset ++ s.start ++ keepStyle s rest
  | c :: rest => c :: keepStyle s rest

/-- A text in a style, if colours are on. -/
def styled (color : Bool) (s : Style) (text : String) : String :=
  if color then String.ofList (s.start ++ keepStyle s text.toList ++ reset) else text

def line (text : String) : String :=
  text ++ "\n"

/-- A line as long as a number of characters. -/
def rule (color : Bool) (width : Nat) : String :=
  styled color .gray (String.ofList (List.replicate width '─'))

def errorLine (color : Bool) (message : String) : String :=
  line (styled color .redBold "✗" ++ " " ++ message)

def infoLine (color : Bool) (message : String) : String :=
  line (styled color .blueBold "ℹ" ++ " " ++ message)

/-- A title with a line under it. -/
def header (color : Bool) (title : String) : String :=
  line ("\n" ++ styled color .cyanBold title) ++ line (rule color title.length)

/-- A name and a value. -/
def entry (color : Bool) (key value : String) : String :=
  line ("  " ++ styled color .whiteBold key ++ ": " ++ value)

/-- The remarks about a column. -/
def remarks (c : Column) : List String :=
  (if c.primaryKey then ["primary key"] else if c.unique then ["unique"] else []) ++
    if c.required then ["required"] else []

def columnEntry (color : Bool) (c : Column) : String :=
  let type := c.type.display
  match remarks c with
  | [] => entry color c.name type
  | words =>
    entry color c.name (type ++ " " ++ styled color .gray ("(" ++ ", ".intercalate words ++ ")"))

def definition (color : Bool) (table : Table) : String :=
  header color table.storeName ++ String.join (table.columns.map (columnEntry color))

/-- The number of characters that a cell may have. -/
def cellWidth : Nat := 40

/-- A text that is cut if it has too many characters. -/
def shortened (width : Nat) (text : String) : String :=
  if text.length ≤ width then text
  else String.ofList (text.toList.take (width - 1) ++ ['…'])

def cell (color : Bool) : Value → String
  | .null => styled color .gray "NULL"
  | .text s => shortened cellWidth s
  | value => shortened cellWidth value.jsonText

def cellSeparator : String := " │ "

/-- The names of columns with a line under them. -/
def columnHeader (color : Bool) (columns : List String) : String :=
  let names := columns.map (styled color .whiteBold)
  let width := columns.foldl (fun width column => width + column.length) 0 + 3 * (columns.length - 1)
  line ("  " ++ cellSeparator.intercalate names) ++ line ("  " ++ rule color width)

/-- The cells of a row under the given columns. -/
def rowLine (color : Bool) (columns : List String) (row : Row) : String :=
  let cells := columns.map fun column =>
    match row.get? column with
    | some value => cell color value
    | none => ""
  line ("  " ++ cellSeparator.intercalate cells)

/-- Rows under the columns of the first of them, and their number. -/
def rowsReport (color : Bool) : List Row → String
  | [] => infoLine color "No rows"
  | first :: rest =>
    let columns := first.keys
    let rows := first :: rest
    let number := String.ofList (Decimal.natural rows.length)
    columnHeader color columns ++ String.join (rows.map (rowLine color columns)) ++
      line ("\n  " ++ styled color .whiteBold number ++ " row(s)")

end CommandLine
end DocumentQuery
