import DocumentQuery.Json.Tree

namespace DocumentQuery
namespace Json

/-!
# Records in JSON texts

Configurations, column definitions and other records with fixed fields are read from an
object whose members are the fields by name, or from a list of the fields in their order.
By name, members of other names are passed over unread, a field may be given only once,
and an optional field may be left out.  In a list nothing may follow the last field, and
only fields with a default may be left out at the end.
-/

/-- The fields of a record that a tree gives. -/
structure Fields where
  byName : Bool
  given : List (String × Tree)

/-- The names of members, all of which must have a value. -/
def memberNames? : List (Option String × Tree) → Option (List (String × Tree))
  | [] => some []
  | (name, tree) :: rest =>
    match name, memberNames? rest with
    | some name, some members => some ((name, tree) :: members)
    | _, _ => none

/-- No name comes twice. -/
def namesDistinct : List (String × Tree) → Bool
  | [] => true
  | (name, _) :: rest => !(rest.any fun entry => entry.1 == name) && namesDistinct rest

/-- The fields with the given names that a tree holds. -/
def Tree.fields? (names : List String) : Tree → Option Fields
  | .members entries => do
    let members ← memberNames? entries
    let known := members.filter fun entry => names.contains entry.1
    if namesDistinct known then some ⟨true, known⟩ else none
  | .list items => if items.length ≤ names.length then some ⟨false, names.zip items⟩ else none
  | _ => none

namespace Fields

def get? (f : Fields) (name : String) : Option Tree :=
  (f.given.find? fun entry => entry.1 == name).map Prod.snd

/-- A field that must be given. -/
def required {α : Type} (f : Fields) (name : String) (read : Tree → Option α) : Option α :=
  (f.get? name).bind read

/-- A field that has a default. -/
def withDefault {α : Type} (f : Fields) (name : String) (default : α)
    (read : Tree → Option α) : Option α :=
  match f.get? name with
  | some tree => read tree
  | none => some default

end Fields

def Tree.text? : Tree → Option String
  | .string value => value
  | _ => none

def Tree.bool? : Tree → Option Bool
  | .bool b => some b
  | _ => none

def Tree.int64? : Tree → Option Int64
  | .number (some (.integer n)) => some n
  | _ => none

def Tree.uint64? : Tree → Option UInt64
  | .number (some (.integer n)) => if 0 ≤ n then some n.toUInt64 else none
  | .number (some (.large n)) => some n
  | _ => none

def Tree.orNull? {α : Type} (read : Tree → Option α) : Tree → Option (Option α)
  | .null => some none
  | tree => (read tree).map some

def Tree.listOf? {α : Type} (read : Tree → Option α) : Tree → Option (List α)
  | .list items => items.mapM read
  | _ => none

/-- A field that is null when it is left out by name. -/
def Fields.optional {α : Type} (f : Fields) (name : String) (read : Tree → Option α) :
    Option (Option α) :=
  match f.get? name with
  | some tree => tree.orNull? read
  | none => if f.byName then some none else none

/-- The name of an alternative: a text, or an object with one member that is null. -/
def Tree.alternative? : Tree → Option String
  | .string value => value
  | .members [(name, .null)] => name
  | _ => none

end Json
end DocumentQuery
