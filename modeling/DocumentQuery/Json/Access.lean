import DocumentQuery.Json.Basic

namespace DocumentQuery
namespace Json

/-!
# Members of documents

Short ways to what a document holds under a name.  A member that is missing or of another
kind gives the default.
-/

def member? : Json → String → Option Json
  | .object members, name => members.get? name
  | _, _ => none

/-- The member with a name; null if there is none. -/
def member (json : Json) (name : String) : Json :=
  (json.member? name).getD .null

def items? : Json → Option (List Json)
  | .array items => some items
  | _ => none

def entries? : Json → Option (List (String × Json))
  | .object members => some members.entries
  | _ => none

def uint64? : Json → Option UInt64
  | .number (.integer n) => if 0 ≤ n then some n.toUInt64 else none
  | .number (.large n) => some n
  | _ => none

def listAt (json : Json) (name : String) : List Json :=
  ((json.member name).items?).getD []

def stringAt (json : Json) (name : String) (default : String) : String :=
  ((json.member name).string?).getD default

def boolAt (json : Json) (name : String) : Bool :=
  match json.member name with
  | .bool b => b
  | _ => false

def uint64At (json : Json) (name : String) : UInt64 :=
  ((json.member name).uint64?).getD 0

def stringsAt (json : Json) (name : String) : List String :=
  (json.listAt name).filterMap string?

end Json
end DocumentQuery
