import DocumentQuery.Error
import DocumentQuery.Value.Basic

namespace DocumentQuery

/-!
# Changes

An update gives each column it changes a new value, or an operator and an operand.  Changes
are read from documents such as `{"name": "ann", "visits": {"$inc": 1}}`.
-/

inductive Change where
  | set (value : Value)
  | increase (value : Value)
  | decrease (value : Value)
  | multiply (value : Value)
  | add (value : Value)
  | remove (value : Value)
deriving Repr

namespace Change

def operator : Change → String
  | .set _ => "$set"
  | .increase _ => "$inc"
  | .decrease _ => "$dec"
  | .multiply _ => "$mul"
  | .add _ => "$add"
  | .remove _ => "$del"

/-- The change of an operator and its operand. -/
def ofOperator (operator : String) (value : Value) : Except QueryError Change :=
  if operator = "$set" then .ok (.set value)
  else if operator = "$inc" then .ok (.increase value)
  else if operator = "$dec" then .ok (.decrease value)
  else if operator = "$mul" then .ok (.multiply value)
  else if operator = "$add" then .ok (.add value)
  else if operator = "$del" || operator = "$remove" then .ok (.remove value)
  else .error (.unknownOperator operator)

def ofJson : Json → Except QueryError Change
  | .object ⟨[(operator, operand)]⟩ => ofOperator operator (.ofJson operand)
  | .object _ => reject .notOneOperator
  | json => .ok (.set (.ofJson json))

end Change

/-- The changes of an update, by column and in order. -/
structure Changes where
  entries : List (String × Change) := []
deriving Repr, Inhabited

namespace Changes

def push (changes : Changes) (column : String) (change : Change) : Changes :=
  ⟨changes.entries ++ [(column, change)]⟩

/-- The changes of the members of a document, in order. -/
def ofMembers : Changes → List (String × Json) → Except QueryError Changes
  | changes, [] => .ok changes
  | changes, (column, json) :: rest => do
    let change ← Change.ofJson json
    ofMembers (changes.push column change) rest

def ofJson : Json → Except QueryError Changes
  | .object members => ofMembers {} members.entries
  | _ => reject .changesNotObject

end Changes
end DocumentQuery
