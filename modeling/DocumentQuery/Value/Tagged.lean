import DocumentQuery.Json.Access
import DocumentQuery.Json.Tree
import DocumentQuery.Value.Basic

namespace DocumentQuery

/-!
# Tagged values

The JSON form of a value does not tell a date from a text.  In the tagged form every value
has its kind written with it: an object with one member, whose name is the kind.  Nulls
and truth values stand for themselves.  On reading, documents without a tag are taken as
values in their JSON form, dates and times are lists of numbers, and a row is a list of
pairs or an object.
-/

namespace Bytes

def hex (bytes : List UInt8) : String :=
  String.ofList (bytes.flatMap fun b => [Nat.digitChar (b.toNat / 16), Nat.digitChar (b.toNat % 16)])

/-- The bytes that pairs of hexadecimal digits stand for. -/
def ofHex? : List Char → Option (List UInt8)
  | [] => some []
  | [_] => none
  | high :: low :: rest =>
    match Json.hexValue? high, Json.hexValue? low, ofHex? rest with
    | some high, some low, some bytes => some ((16 * high + low).toUInt8 :: bytes)
    | _, _, _ => none

end Bytes

/-- A real as a number, or as a word if it has no numeral. -/
def taggedReal (x : Float) : Json :=
  if x.isNaN then .string "nan"
  else if x.isInf then .string (if x < 0.0 then "-inf" else "inf")
  else .number (.real x)

/-- The real that a number or a word stands for. -/
def realOfTagged? : Json → Option Float
  | .number n => some n.toFloat
  | .string "nan" => some (0.0 / 0.0)
  | .string "inf" => some (1.0 / 0.0)
  | .string "-inf" => some (-1.0 / 0.0)
  | _ => none

/-- An object with one member. -/
def tagged (tag : String) (json : Json) : Json :=
  .ofMembers [(tag, json)]

namespace Value

mutual

def toTagged : Value → Json
  | .null => .null
  | .bool b => .bool b
  | .integer n => tagged "int" (.ofInt64 n)
  | .real x => tagged "real" (taggedReal x)
  | .text s => tagged "text" (.string s)
  | .blob bytes => tagged "blob" (.string (Bytes.hex bytes))
  | .date d => tagged "date" (.string d.text)
  | .time t => tagged "time" (.string t.text)
  | .moment m => tagged "datetime" (.string m.text)
  | .integerSet items => tagged "iset" (.array (items.map Json.ofInt64))
  | .textSet items => tagged "tset" (.array (items.map Json.string))
  | .record ⟨fields⟩ => tagged "record" (.array (pairs fields))

/-- The tagged forms of fields, each as a pair with its name. -/
def pairs : List (String × Value) → List Json
  | [] => []
  | (name, value) :: rest => .array [.string name, toTagged value] :: pairs rest

end

def dateOfNumbers? : List Int64 → Option Calendar.Date
  | [year, month, day] =>
    Calendar.Date.ofNumbers? year.toInt month.toInt.toNat day.toInt.toNat
  | _ => none

def timeOfNumbers? : List Int64 → Option Calendar.TimeOfDay
  | [hour, minute, second, nanosecond] =>
    Calendar.TimeOfDay.ofNumbers? hour.toInt.toNat minute.toInt.toNat second.toInt.toNat
      nanosecond.toInt.toNat
  | _ => none

def momentOfNumbers? (numbers : List Int64) : Option Calendar.Moment :=
  match dateOfNumbers? (numbers.take 3), timeOfNumbers? (numbers.drop 3) with
  | some d, some t => some ⟨d, t⟩
  | _, _ => none

/-- The value of a kind that has no other values inside. -/
def ofTag? (tag : String) (json : Json) : Option Value :=
  let numbers? := json.items?.bind fun items => items.mapM Json.integer?
  match tag with
  | "int" => json.integer?.map .integer
  | "real" => (realOfTagged? json).map .real
  | "text" => json.string?.map .text
  | "blob" => (json.string?.bind fun s => Bytes.ofHex? s.toList).map .blob
  | "date" => (numbers?.bind dateOfNumbers?).map .date
  | "time" => (numbers?.bind timeOfNumbers?).map .time
  | "datetime" => (numbers?.bind momentOfNumbers?).map .moment
  | "iset" => numbers?.map .integerSet
  | "tset" => (json.items?.bind fun items => items.mapM Json.string?).map .textSet
  | "json" => some (.ofJson json)
  | _ => none

mutual

def ofTagged? : Json → Option Value
  | .object ⟨[(tag, json)]⟩ =>
    if tag = "record" then (rowOfTagged? json).map .record else ofTag? tag json
  | .object _ => none
  | json => some (.ofJson json)

def rowOfTagged? : Json → Option Row
  | .array items => (pairsOfTagged? items).map OrderedMap.ofList
  | .object members => some (Row.ofMembers members)
  | _ => none

/-- The fields that pairs of a name and a value give. -/
def pairsOfTagged? : List Json → Option (List (String × Value))
  | [] => some []
  | .array [.string name, json] :: rest =>
    match ofTagged? json, pairsOfTagged? rest with
    | some value, some fields => some ((name, value) :: fields)
    | _, _ => none
  | _ :: _ => none

end

def scalar? : Value → Option Scalar
  | .null => some .null
  | .bool b => some (.bool b)
  | .integer n => some (.integer n)
  | .real x => some (.real x)
  | .text s => some (.text s)
  | .blob bytes => some (.blob bytes)
  | _ => none

end Value

namespace Row

/-- The tagged form of a row: a list of pairs. -/
def toTagged (row : Row) : Json :=
  .array (Value.pairs row.entries)

/-- The row that a list of pairs or an object gives. -/
def ofTagged? (json : Json) : Option Row :=
  Value.rowOfTagged? json

end Row

namespace Scalar

def toTagged (s : Scalar) : Json :=
  (Value.ofScalar s).toTagged

def ofTagged? (json : Json) : Option Scalar :=
  (Value.ofTagged? json).bind Value.scalar?

end Scalar
end DocumentQuery
