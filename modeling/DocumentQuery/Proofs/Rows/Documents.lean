import DocumentQuery.Proofs.Rows.Entries
import DocumentQuery.Proofs.Sets.Arrays

namespace DocumentQuery

/-!
# Documents and values

A document becomes a value, and a value has a document.  The types of the two differ.  There are
no documents for bytes, dates and times apart from their texts, and no values for integers beyond
64 bits, for arrays of arrays and for arrays with items of several kinds.

On what both can tell the two ways are inverse to each other: nothing changes its kind, its digits
or its place.  Objects and records may hold each other to any depth.  Since a record is built by
inserting its fields one after the other, the names in it must be distinct, or an earlier field
would be replaced; then it has the fields of the object in their order.  The only array that could
be two values is the empty one.  It is a set of integers, so that the empty set of texts does not
come back.
-/

/-- A document that values can tell: its numbers are 64-bit integers or finite, the items of each
array are all 64-bit integers or all strings, and no object has a name twice. -/
inductive Json.Expressible : Json → Prop where
  | null : Expressible .null
  | bool (b : Bool) : Expressible (.bool b)
  | integer (n : Int64) : Expressible (.ofInt64 n)
  | real {x : Float} (finite : x.isFinite = true) : Expressible (.number (.real x))
  | string (s : String) : Expressible (.string s)
  | array {items : List Json} (uniform : Uniform items) : Expressible (.array items)
  | object {members : OrderedMap Json} (distinct : members.Distinct)
      (each : ∀ member ∈ members.entries, Expressible member.2) : Expressible (.object members)

/-- A value that documents can tell: it is of a kind that documents have, its reals are finite, a
set of texts is not empty, and no record has a name twice. -/
inductive Value.Expressible : Value → Prop where
  | null : Expressible .null
  | bool (b : Bool) : Expressible (.bool b)
  | integer (n : Int64) : Expressible (.integer n)
  | real {x : Float} (finite : x.isFinite = true) : Expressible (.real x)
  | text (s : String) : Expressible (.text s)
  | integerSet (items : List Int64) : Expressible (.integerSet items)
  | textSet {items : List String} (nonempty : items ≠ []) : Expressible (.textSet items)
  | record {fields : OrderedMap Value} (distinct : fields.Distinct)
      (each : ∀ field ∈ fields.entries, Expressible field.2) : Expressible (.record fields)

namespace Value

theorem toJson_real {x : Float} (finite : x.isFinite = true) :
    (real x).toJson = .number (.real x) := by
  rw [toJson, Json.ofFloat, if_pos finite]

/-! ## Members and fields -/

theorem keys_ofMembers (members : List (String × Json)) :
    (ofMembers members).map Prod.fst = members.map Prod.fst := by
  induction members with
  | nil => rfl
  | cons member rest inductionHypothesis =>
      rw [ofMembers, List.map_cons, List.map_cons, inductionHypothesis]

theorem keys_toMembers (fields : List (String × Value)) :
    (toMembers fields).map Prod.fst = fields.map Prod.fst := by
  induction fields with
  | nil => rfl
  | cons field rest inductionHypothesis =>
      rw [toMembers, List.map_cons, List.map_cons, inductionHypothesis]

/-- Members that each come back all come back, in their order. -/
theorem toMembers_ofMembers {members : List (String × Json)}
    (each : ∀ member ∈ members, (ofJson member.2).toJson = member.2) :
    toMembers (ofMembers members) = members := by
  induction members with
  | nil => rfl
  | cons member rest inductionHypothesis =>
      rcases List.forall_mem_cons.mp each with ⟨first, later⟩
      rw [ofMembers, toMembers, first, inductionHypothesis later]

theorem ofMembers_toMembers {fields : List (String × Value)}
    (each : ∀ field ∈ fields, ofJson field.2.toJson = field.2) :
    ofMembers (toMembers fields) = fields := by
  induction fields with
  | nil => rfl
  | cons field rest inductionHypothesis =>
      rcases List.forall_mem_cons.mp each with ⟨first, later⟩
      rw [toMembers, ofMembers, first, inductionHypothesis later]

/-- The record of an object without a repeated name has its members as fields. -/
theorem ofJson_object {members : OrderedMap Json} (distinct : members.Distinct) :
    ofJson (.object members) = .record ⟨ofMembers members.entries⟩ := by
  have names : ((ofMembers members.entries).map Prod.fst).Nodup := by
    rw [keys_ofMembers]
    exact distinct
  rw [ofJson, OrderedMap.ofList_of_nodup names]

theorem toJson_record {fields : OrderedMap Value} (distinct : fields.Distinct) :
    (record fields).toJson = .object ⟨toMembers fields.entries⟩ := by
  have names : ((toMembers fields.entries).map Prod.fst).Nodup := by
    rw [keys_toMembers]
    exact distinct
  rw [toJson, Json.ofMembers, OrderedMap.ofList_of_nodup names]

/-! ## Both ways -/

theorem toJson_ofJson {json : Json} (expressible : json.Expressible) :
    (ofJson json).toJson = json := by
  induction expressible with
  | null => rfl
  | bool b => rfl
  | integer n => rfl
  | real finite => exact toJson_real finite
  | string s => rfl
  | array uniform =>
      rcases uniform with ⟨integers, rfl⟩ | ⟨texts, rfl⟩
      · rw [ofJson_integers, toJson]
      · by_cases empty : texts = []
        -- no strings are no integers, which are the same array
        · subst empty
          rfl
        · rw [ofJson_strings empty, toJson]
  | @object members distinct _ inductionHypothesis =>
      have names : (⟨ofMembers members.entries⟩ : OrderedMap Value).Distinct := by
        rw [OrderedMap.Distinct, OrderedMap.keys, keys_ofMembers]
        exact distinct
      rw [ofJson_object distinct, toJson_record names, toMembers_ofMembers inductionHypothesis]

theorem ofJson_toJson {value : Value} (expressible : value.Expressible) :
    ofJson value.toJson = value := by
  induction expressible with
  | null => rfl
  | bool b => rfl
  | integer n => rfl
  | real finite =>
      rw [toJson_real finite]
      rfl
  | text s => rfl
  | integerSet items => exact ofJson_integers items
  | textSet nonempty => exact ofJson_strings nonempty
  | @record fields distinct _ inductionHypothesis =>
      have names : (⟨toMembers fields.entries⟩ : OrderedMap Json).Distinct := by
        rw [OrderedMap.Distinct, OrderedMap.keys, keys_toMembers]
        exact distinct
      rw [toJson_record distinct, ofJson_object names, ofMembers_toMembers inductionHypothesis]

/-- Documents and values that can tell the same are turned into each other without a loss. -/
theorem documents_and_values_survive :
    (∀ json : Json, json.Expressible → (ofJson json).toJson = json) ∧
      ∀ value : Value, value.Expressible → ofJson value.toJson = value :=
  ⟨fun _ expressible => toJson_ofJson expressible, fun _ expressible => ofJson_toJson expressible⟩

/-- An object whose names are not in alphabetical order, with an object, an array of strings, an
empty array and a negative zero in it. -/
theorem documents_and_values_survive_nested :
    let inner : Json := .object ⟨[("b", .number (.real (-0.0))), ("a", .array [])]⟩
    let json : Json := .object ⟨[("z", inner), ("tags", .array [.string "x", .string "x"]),
      ("n", .ofInt64 (-9007199254740993))]⟩
    let value : Value := .record ⟨[
      ("z", .record ⟨[("b", .real (-0.0)), ("a", .integerSet [])]⟩),
      ("tags", .textSet ["x", "x"]), ("n", .integer (-9007199254740993))]⟩
    json.Expressible ∧ value.Expressible ∧ ofJson json = value ∧
      (ofJson json).toJson = json ∧ ofJson value.toJson = value := by
  intro inner json value
  have finite : (-0.0 : Float).isFinite = true := by decide
  have innerExpressible : inner.Expressible := by
    refine .object (by decide) (List.forall_mem_cons.mpr ⟨.real finite, ?_⟩)
    exact List.forall_mem_singleton.mpr (.array (.inl ⟨[], rfl⟩))
  have expressible : json.Expressible := by
    refine .object (by decide) (List.forall_mem_cons.mpr ⟨innerExpressible, ?_⟩)
    refine List.forall_mem_cons.mpr ⟨.array (.inr ⟨["x", "x"], rfl⟩), ?_⟩
    exact List.forall_mem_singleton.mpr (.integer _)
  have valueExpressible : value.Expressible := by
    refine .record (by decide) (List.forall_mem_cons.mpr ⟨?_, ?_⟩)
    · refine .record (by decide) (List.forall_mem_cons.mpr ⟨.real finite, ?_⟩)
      exact List.forall_mem_singleton.mpr (.integerSet [])
    · refine List.forall_mem_cons.mpr ⟨.textSet (by decide), ?_⟩
      exact List.forall_mem_singleton.mpr (.integer _)
  exact ⟨expressible, valueExpressible, rfl, documents_and_values_survive.1 json expressible,
    documents_and_values_survive.2 value valueExpressible⟩

end Value
end DocumentQuery
