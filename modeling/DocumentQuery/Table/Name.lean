import DocumentQuery.Text.CodePoints
import DocumentQuery.Text.LetterCase

namespace DocumentQuery

/-!
# Names

Names in filters and definitions are identifiers, so that they can never be anything but
names in a statement.  A column may be referred to alone or with the name of its table.
The store knows no schemas: a table outside the default schema is kept under the names of
its schema and itself with a point between them, which no identifier contains.
-/

namespace Name

/-- A character that an identifier may start with. -/
def isFirstChar (c : Char) : Bool :=
  Text.isLatinLetter c || c = '_'

def isNameChar (c : Char) : Bool :=
  isFirstChar c || Text.isDigit c

/-- Letters, digits and underscores, beginning with no digit. -/
def isIdentifier (name : String) : Bool :=
  match name.toList with
  | [] => false
  | c :: rest => isFirstChar c && rest.all isNameChar

def defaultSchema : String := "default"

/-- The name under which the store keeps a table or an index. -/
def qualified (schema name : String) : String :=
  let schema := Text.lowercase schema
  let name := Text.lowercase name
  if schema = defaultSchema then name else schema ++ "." ++ name

end Name

/-- A reference to a column, alone or with the name of a table. -/
structure Reference where
  qualifier : Option String
  column : String
deriving Repr, DecidableEq

namespace Reference

/-- The reference that a text makes: what stands before the first point names a table. -/
def ofText (text : String) : Reference :=
  match Text.splitAtFirst '.' text.toList with
  | some (qualifier, column) => ⟨some (String.ofList qualifier), String.ofList column⟩
  | none => ⟨none, text⟩

/-- Every name in the reference is an identifier. -/
def isValid (r : Reference) : Bool :=
  (match r.qualifier with
    | some qualifier => Name.isIdentifier qualifier
    | none => true) && Name.isIdentifier r.column

/-- The names of the reference, in order. -/
def path (r : Reference) : List String :=
  match r.qualifier with
  | some qualifier => [qualifier, r.column]
  | none => [r.column]

end Reference

/-- The text is an identifier, or two with a point between them. -/
def isColumnReference (text : String) : Bool :=
  (Reference.ofText text).isValid

end DocumentQuery
