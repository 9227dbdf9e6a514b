import DocumentQuery.Value.Scalar
import DocumentQuery.Json.Writer
import DocumentQuery.Calendar.Moment
import DocumentQuery.Bytes.Base64

namespace DocumentQuery

/-!
# Values and rows

The store keeps numbers, texts and bytes; the values of rows also have dates, times, sets
and records.  Every value has a JSON form and a scalar that stands for it in statements.
A row is a map from column names to values.
-/

inductive Value where
  | null
  | bool (b : Bool)
  | integer (n : Int64)
  | real (x : Float)
  | text (s : String)
  | blob (bytes : List UInt8)
  | date (d : Calendar.Date)
  | time (t : Calendar.TimeOfDay)
  | moment (m : Calendar.Moment)
  | integerSet (items : List Int64)
  | textSet (items : List String)
  | record (fields : OrderedMap Value)
deriving Repr, Inhabited

/-- Column names and their values. -/
abbrev Row := OrderedMap Value

namespace Value

def isNull : Value → Bool
  | .null => true
  | _ => false

theorem isNull_iff (x : Value) : x.isNull = true ↔ x = .null := by
  cases x <;> simp [isNull]

/-- The integer of an integer or a truth value. -/
def toInt64? : Value → Option Int64
  | .integer n => some n
  | .bool b => some (Scalar.ofBool b)
  | _ => none

/-- The double of a number or a truth value. -/
def toFloat? : Value → Option Float
  | .integer n => some (Decimal.ofInt64 n)
  | .real x => some x
  | .bool b => some (if b then 1.0 else 0.0)
  | _ => none

def toText? : Value → Option String
  | .text s => some s
  | _ => none

def toBool? : Value → Option Bool
  | .bool b => some b
  | _ => none

def toRecord? : Value → Option Row
  | .record fields => some fields
  | _ => none

def ofScalar : Scalar → Value
  | .null => .null
  | .integer n => .integer n
  | .real x => .real x
  | .text s => .text s
  | .bool b => .bool b
  | .blob bytes => .blob bytes

/-! ## JSON forms -/

/-- The value of a JSON array: a set where all items are integers or all are strings, and
the compact text of the array otherwise.  The empty array is a set of integers. -/
def ofJsonArray (items : List Json) : Value :=
  match items.mapM Json.integer? with
  | some integers => .integerSet integers
  | none =>
    match items.mapM Json.string? with
    | some texts => .textSet texts
    | none => .text (Json.array items).compact

mutual

def ofJson : Json → Value
  | .null => .null
  | .bool b => .bool b
  | .number n =>
    match n.integer? with
    | some i => .integer i
    | none => .real n.toFloat
  | .string s => .text s
  | .array items => ofJsonArray items
  | .object ⟨members⟩ => .record (OrderedMap.ofList (ofMembers members))

def ofMembers : List (String × Json) → List (String × Value)
  | [] => []
  | (name, json) :: rest => (name, ofJson json) :: ofMembers rest

end

mutual

def toJson : Value → Json
  | .null => .null
  | .bool b => .bool b
  | .integer n => .ofInt64 n
  | .real x => .ofFloat x
  | .text s => .string s
  | .blob bytes => .string (String.ofList (Bytes.base64 bytes))
  | .date d => .string d.text
  | .time t => .string t.text
  | .moment m => .string m.text
  | .integerSet items => .array (items.map Json.ofInt64)
  | .textSet items => .array (items.map Json.string)
  | .record ⟨fields⟩ => .ofMembers (toMembers fields)

def toMembers : List (String × Value) → List (String × Json)
  | [] => []
  | (name, value) :: rest => (name, toJson value) :: toMembers rest

end

/-- The compact text of the JSON form. -/
def jsonText (value : Value) : String :=
  value.toJson.compact

/-! ## Scalars for values -/

/-- The scalar that stands for a value.  What is no scalar itself is represented by its text. -/
def toScalar : Value → Scalar
  | .null => .null
  | .bool b => .bool b
  | .integer n => .integer n
  | .real x => .real x
  | .text s => .text s
  | .blob bytes => .blob bytes
  | .date d => .text d.text
  | .time t => .text t.text
  | .moment m => .text m.text
  | value => .text value.jsonText

/-- Order of two doubles; NaN has none. -/
def compareFloats (a b : Float) : Option Ordering :=
  if a < b then some .lt
  else if a == b then some .eq
  else if b < a then some .gt
  else none

/-- Order of two truth values: false comes first. -/
def compareBools (a b : Bool) : Ordering :=
  if a = b then .eq else if b then .lt else .gt

/-- The order of a value and a scalar, where they are comparable: two nulls are equal,
texts compare by their characters, also with the written forms of dates and times, bytes
compare one by one, and numbers compare as doubles. -/
def compareScalar (value : Value) (scalar : Scalar) : Option Ordering :=
  match value, scalar with
  | .null, .null => some .eq
  | .null, _ => none
  | _, .null => none
  | .text a, .text b => some (compare a b)
  | .blob a, .blob b => some (List.compareLex compare a b)
  | .date d, .text b => some (compare d.text b)
  | .time t, .text b => some (compare t.text b)
  | .moment m, .text b => some (compare m.text b)
  | .bool a, .bool b => some (compareBools a b)
  | _, _ =>
    match value.toFloat?, scalar.toFloat? with
    | some a, some b => compareFloats a b
    | _, _ => none

end Value

namespace Row

/-- The row of the members of a JSON object. -/
def ofMembers (members : OrderedMap Json) : Row :=
  OrderedMap.ofList (Value.ofMembers members.entries)

def toJson (row : Row) : Json :=
  .ofMembers (Value.toMembers row.entries)

/-- The compact text of the JSON form. -/
def jsonText (row : Row) : String :=
  (Row.toJson row).compact

end Row
end DocumentQuery
