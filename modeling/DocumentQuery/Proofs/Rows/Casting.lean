import DocumentQuery.Proofs.Rows.Entries
import DocumentQuery.Value.Cast

namespace DocumentQuery

/-!
# Cast rows

Casting a row changes the values of its adaptable columns and nothing else: no name is added or
moved, and the value of every other column is the one that the row had.  A definition may list a
name twice, so that its value is cast twice; that is no different from once, as a value that has
been cast is cast to itself.
-/

/-! ## Values -/

namespace ColumnType

variable {type : ColumnType} {value : Value}

/-- What is read from a text in a column of sets is a set of the elements of the type. -/
theorem exists_of_readSet? {s : String} {converted : Value} (isSet : type.isSet = true)
    (found : type.readSet? s = some converted) :
    (type = .integerSet ∧ ∃ items : List Int64, converted = .integerSet items) ∨
      (type = .textSet ∧ ∃ items : List String, converted = .textSet items) := by
  rw [readSet?] at found
  split at found
  · cases type with
    | integerSet =>
        rcases Option.map_eq_some_iff.mp found with ⟨items, _, rfl⟩
        exact .inl ⟨rfl, items, rfl⟩
    | textSet =>
        rcases Option.map_eq_some_iff.mp found with ⟨items, _, rfl⟩
        exact .inr ⟨rfl, items, rfl⟩
    | _ => exact absurd isSet Bool.false_ne_true
  · cases found

/-- A set that is read from a text converts to itself. -/
theorem convert?_of_readSet? (type : ColumnType) {s : String} {converted : Value}
    (isSet : type.isSet = true) (found : type.readSet? s = some converted) :
    type.convert? converted = some converted ∧ converted.isNull = false ∧
      converted.toRecord? = none := by
  rcases exists_of_readSet? isSet found with ⟨rfl, items, rfl⟩ | ⟨rfl, items, rfl⟩
  · exact ⟨rfl, rfl, rfl⟩
  · exact ⟨rfl, rfl, rfl⟩

/-- What a value converts to converts to itself, and it is neither null nor a record unless it is
the value as it was. -/
theorem convert?_converted {converted : Value} (found : type.convert? value = some converted) :
    type.convert? converted = some converted ∧
      (converted = value ∨ converted.isNull = false ∧ converted.toRecord? = none) := by
  cases type with
  | other name =>
      cases found
      exact ⟨rfl, .inl rfl⟩
  | integerSet =>
      cases value with
      | text s => exact (convert?_of_readSet? .integerSet rfl found).imp_right .inr
      | integerSet items =>
          cases found
          exact ⟨rfl, .inl rfl⟩
      | _ => exact nomatch found
  | textSet =>
      cases value with
      | text s => exact (convert?_of_readSet? .textSet rfl found).imp_right .inr
      | textSet items =>
          cases found
          exact ⟨rfl, .inl rfl⟩
      | _ => exact nomatch found
  | _ =>
      rcases Option.map_eq_some_iff.mp found with ⟨content, _, rfl⟩
      exact ⟨rfl, .inr ⟨rfl, rfl⟩⟩

/-- Null is cast to null, and every other value to what it converts to, or else it is given back. -/
theorem cast_cases (type : ColumnType) (value : Value) :
    (value = .null ∧ type.cast value = .ok .null) ∨
      (value.isNull = false ∧
        ((∃ converted : Value,
            type.convert? value = some converted ∧ type.cast value = .ok converted) ∨
          type.cast value = .error value)) := by
  cases isNull : value.isNull with
  | true =>
      have null := value.isNull_iff.mp isNull
      subst null
      exact .inl ⟨rfl, rfl⟩
  | false =>
      right
      cases found : type.convert? value with
      | none =>
          refine ⟨rfl, .inr ?_⟩
          rw [cast, isNull, found]
          rfl
      | some converted =>
          refine ⟨rfl, .inl ⟨converted, rfl, ?_⟩⟩
          rw [cast, isNull, found]
          rfl

theorem castOrKeep_of_convert? {converted : Value} (notNull : value.isNull = false)
    (found : type.convert? value = some converted) : type.castOrKeep value = converted := by
  rw [castOrKeep, cast, notNull, found]
  rfl

/-- A value is kept, or becomes one that is cast to itself and is neither null nor a record. -/
theorem castOrKeep_cases (type : ColumnType) (value : Value) : type.castOrKeep value = value ∨
    (value.isNull = false ∧ (type.castOrKeep value).isNull = false ∧
      (type.castOrKeep value).toRecord? = none ∧
      type.castOrKeep (type.castOrKeep value) = type.castOrKeep value) := by
  rcases cast_cases type value with
    ⟨rfl, _⟩ | ⟨isNull, ⟨converted, found, _⟩ | refused⟩
  · exact .inl rfl
  · rcases convert?_converted found with ⟨again, same | ⟨notNull, plain⟩⟩
    · exact .inl ((castOrKeep_of_convert? isNull found).trans same)
    · rw [castOrKeep_of_convert? isNull found]
      exact .inr ⟨isNull, notNull, plain, castOrKeep_of_convert? notNull again⟩
  · left
    rw [castOrKeep, refused]

theorem castOrKeep_castOrKeep (type : ColumnType) (value : Value) :
    type.castOrKeep (type.castOrKeep value) = type.castOrKeep value := by
  rcases castOrKeep_cases type value with kept | ⟨_, _, _, same⟩
  · rw [kept, kept]
  · exact same

theorem isNull_castOrKeep (type : ColumnType) (value : Value) :
    (type.castOrKeep value).isNull = value.isNull := by
  rcases castOrKeep_cases type value with kept | ⟨isNull, notNull, _, _⟩
  · rw [kept]
  · rw [isNull, notNull]

/-- Casting makes no records. -/
theorem toRecord?_castOrKeep (plain : value.toRecord? = none) :
    (type.castOrKeep value).toRecord? = none := by
  rcases castOrKeep_cases type value with kept | ⟨_, _, plain, _⟩
  · rwa [kept]
  · exact plain

end ColumnType

/-- The value of a column as it is read: cast to the type of the column, as far as it converts, if
the column is adaptable. -/
def Table.read (t : Table) (name : String) (value : Value) : Value :=
  if t.isAdaptable name then
    match t.columnType? name with
    | some type => type.castOrKeep value
    | none => value
  else value

theorem Table.isNull_read (t : Table) (name : String) (value : Value) :
    (t.read name value).isNull = value.isNull := by
  rw [read]
  split
  · split
    · exact ColumnType.isNull_castOrKeep _ value
    · rfl
  · rfl

theorem Table.toRecord?_read (t : Table) (name : String) {value : Value}
    (plain : value.toRecord? = none) : (t.read name value).toRecord? = none := by
  rw [read]
  split
  · split
    · exact ColumnType.toRecord?_castOrKeep plain
    · exact plain
  · exact plain

/-! ## Rows -/

namespace Row

variable (table : Table) (row : Row)

theorem keys_castColumn (name : String) : (castColumn table row name).keys = row.keys := by
  rw [castColumn]
  split
  · exact OrderedMap.keys_modify _
  · rfl

/-- Casting keeps the names of a row and their order. -/
theorem keys_castColumns (names : List String) : (castColumns table names row).keys = row.keys := by
  induction names generalizing row with
  | nil => rfl
  | cons name rest inductionHypothesis =>
      exact (inductionHypothesis (castColumn table row name)).trans (keys_castColumn table row name)

theorem get?_castColumn_of_ne {name other : String} (different : other ≠ name) :
    (castColumn table row name).get? other = row.get? other := by
  rw [castColumn]
  split
  · exact row.get?_modify_of_ne _ different
  · rfl

variable {table} in
theorem get?_castColumn_self {name : String} {type : ColumnType}
    (typed : table.columnType? name = some type) :
    (castColumn table row name).get? name = (row.get? name).map type.castOrKeep := by
  rw [castColumn, typed]
  exact row.get?_modify_self name _

/-- The value of a column that is not cast, or that has no type, stays as it was. -/
theorem get?_castColumns_of_untouched {names : List String} {name : String}
    (untouched : name ∉ names ∨ table.columnType? name = none) :
    (castColumns table names row).get? name = row.get? name := by
  induction names generalizing row with
  | nil => rfl
  | cons first rest inductionHypothesis =>
      have later := inductionHypothesis (castColumn table row first)
        (untouched.imp_left fun notMember member => notMember (List.mem_cons_of_mem first member))
      refine later.trans ?_
      by_cases same : name = first
      · subst same
        have untyped := untouched.resolve_left fun notMember => notMember List.mem_cons_self
        rw [castColumn, untyped]
      · exact get?_castColumn_of_ne table row same

variable {table} in
/-- The value of a column that is cast, however often, is cast once. -/
theorem get?_castColumns_of_mem {names : List String} {name : String} {type : ColumnType}
    (member : name ∈ names) (typed : table.columnType? name = some type) :
    (castColumns table names row).get? name = (row.get? name).map type.castOrKeep := by
  induction names generalizing row with
  | nil => exact nomatch member
  | cons first rest inductionHypothesis =>
      change (castColumns table rest (castColumn table row first)).get? name = _
      by_cases again : name ∈ rest
      -- a column that is listed again is cast again, which changes nothing
      · rw [inductionHypothesis (castColumn table row first) again]
        by_cases same : name = first
        · subst same
          rw [get?_castColumn_self row typed, Option.map_map]
          exact congrFun (congrArg Option.map (funext fun value =>
            type.castOrKeep_castOrKeep value)) _
        · rw [get?_castColumn_of_ne table row same]
      · have same : name = first := (List.mem_cons.mp member).resolve_right again
        subst same
        rw [get?_castColumns_of_untouched table _ (.inl again), get?_castColumn_self row typed]

theorem keys_cast : (cast table row).keys = row.keys :=
  keys_castColumns table row table.adaptableColumns

/-- A cast row has for each column the value as it is read. -/
theorem get?_cast (name : String) :
    (cast table row).get? name = (row.get? name).map (table.read name) := by
  have untouched_eq (reads : ∀ value, table.read name value = value)
      (untouched : name ∉ table.adaptableColumns ∨ table.columnType? name = none) :
      (cast table row).get? name = (row.get? name).map (table.read name) := by
    rw [cast, get?_castColumns_of_untouched table row untouched, funext reads, Option.map_id']
  by_cases adaptable : table.isAdaptable name = true
  · have member : name ∈ table.adaptableColumns := List.contains_iff_mem.mp adaptable
    cases typed : table.columnType? name with
    | none =>
        exact untouched_eq (fun value => by rw [Table.read, if_pos adaptable, typed]) (.inr typed)
    | some type =>
        rw [cast, get?_castColumns_of_mem row member typed]
        congr 1
        funext value
        rw [Table.read, if_pos adaptable, typed]
  · have notMember : name ∉ table.adaptableColumns := fun member =>
      adaptable (List.contains_iff_mem.mpr member)
    exact untouched_eq (fun value => by rw [Table.read, if_neg adaptable]) (.inl notMember)

end Row
end DocumentQuery
