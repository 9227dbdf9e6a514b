import DocumentQuery.Proofs.Rows.Casting

namespace DocumentQuery

/-!
# Canonical values

A value that converts to the type of a column becomes a value of the kind that columns of this type
hold, and such a value converts to itself.  So casting is settled after one time.  A value that
does not convert is given back as it was, and null stays the only null.

A row is *settled* for some columns when the value of each of them is cast to itself.  Casting
leaves a settled row as it is, down to its last entry, and a row that has been cast is settled.
That is why casting twice is casting once, also where a table lists a name twice.  If it does not,
then each column is changed as its own type says, whatever the row has in other columns.
-/

/-! ## Values -/

namespace ColumnType

/-- The value is of the kind that columns of this type hold.  A type without a meaning has none. -/
inductive IsNative : ColumnType → Value → Prop where
  | text (s : String) : IsNative .text (.text s)
  | integer (n : Int64) : IsNative .integer (.integer n)
  | real (x : Float) : IsNative .real (.real x)
  | boolean (b : Bool) : IsNative .boolean (.bool b)
  | date (d : Calendar.Date) : IsNative .date (.date d)
  | time (t : Calendar.TimeOfDay) : IsNative .time (.time t)
  | moment (m : Calendar.Moment) : IsNative .moment (.moment m)
  | blob (bytes : List UInt8) : IsNative .blob (.blob bytes)
  | integerSet (items : List Int64) : IsNative .integerSet (.integerSet items)
  | textSet (items : List String) : IsNative .textSet (.textSet items)

variable {type : ColumnType} {value converted : Value}

theorem isNative_readSet? {s : String} (isSet : type.isSet = true)
    (found : type.readSet? s = some converted) : type.IsNative converted := by
  rcases exists_of_readSet? isSet found with ⟨rfl, items, rfl⟩ | ⟨rfl, items, rfl⟩
  · exact .integerSet items
  · exact .textSet items

/-- What a value converts to is of the kind of the type, if the type has a meaning. -/
theorem isNative_convert? (found : type.convert? value = some converted) :
    type.IsNative converted ∨ ∃ name : String, type = .other name := by
  cases type with
  | other name => exact .inr ⟨name, rfl⟩
  | integerSet =>
      left
      cases value with
      | text s => exact isNative_readSet? rfl found
      | integerSet items =>
          cases found
          exact .integerSet items
      | _ => exact nomatch found
  | textSet =>
      left
      cases value with
      | text s => exact isNative_readSet? rfl found
      | textSet items =>
          cases found
          exact .textSet items
      | _ => exact nomatch found
  | _ =>
      rcases Option.map_eq_some_iff.mp found with ⟨content, _, rfl⟩
      exact .inl (by constructor)

/-- What a value is cast to: null if it is null, and otherwise what it converts to. -/
theorem cast_eq_ok (accepted : type.cast value = .ok converted) :
    (value = .null ∧ converted = .null) ∨
      (value.isNull = false ∧ type.convert? value = some converted) := by
  rcases cast_cases type value with
    ⟨null, becomes⟩ | ⟨notNull, ⟨other, found, becomes⟩ | refused⟩
  · rw [becomes] at accepted
    cases accepted
    exact .inl ⟨null, rfl⟩
  · rw [becomes] at accepted
    cases accepted
    exact .inr ⟨notNull, found⟩
  · rw [refused] at accepted
    cases accepted

theorem cast_eq_error {kept : Value} (refused : type.cast value = .error kept) : kept = value := by
  rcases cast_cases type value with
    ⟨_, becomes⟩ | ⟨_, ⟨other, _, becomes⟩ | givenBack⟩
  · rw [becomes] at refused
    cases refused
  · rw [becomes] at refused
    cases refused
  · rw [givenBack] at refused
    cases refused
    rfl

/-- Casting a value settles it: it becomes null exactly if it is null, otherwise a value of the kind
of the type, and it is then cast to itself.  A value that does not convert comes back. -/
structure Settles (type : ColumnType) (value : Value) : Prop where
  null_iff : ∀ converted : Value, type.cast value = .ok converted →
    (converted = .null ↔ value = .null)
  isNative : ∀ converted : Value, type.cast value = .ok converted →
    converted = .null ∨ type.IsNative converted ∨ ∃ name : String, type = .other name
  again : ∀ converted : Value, type.cast value = .ok converted →
    type.cast converted = .ok converted
  comesBack : ∀ kept : Value, type.cast value = .error kept → kept = value

theorem settles (type : ColumnType) (value : Value) : type.Settles value where
  null_iff converted accepted := by
    rcases cast_eq_ok accepted with ⟨null, becomesNull⟩ | ⟨notNull, found⟩
    · exact iff_of_true becomesNull null
    · rw [← converted.isNull_iff, ← value.isNull_iff]
      rcases convert?_converted found with ⟨_, same | ⟨stillNotNull, _⟩⟩
      · rw [same]
      · rw [notNull, stillNotNull]
  isNative converted accepted := by
    rcases cast_eq_ok accepted with ⟨_, becomesNull⟩ | ⟨_, found⟩
    · exact .inl becomesNull
    · exact .inr (isNative_convert? found)
  again converted accepted := by
    rcases cast_eq_ok accepted with ⟨_, rfl⟩ | ⟨notNull, found⟩
    · rfl
    · have stillNotNull : converted.isNull = false := by
        rcases convert?_converted found with ⟨_, rfl | ⟨stillNotNull, _⟩⟩
        · exact notNull
        · exact stillNotNull
      rw [cast, stillNotNull, (convert?_converted found).1]
      rfl
  comesBack _ refused := cast_eq_error refused

end ColumnType

/-! ## Columns -/

namespace Table

variable {table : Table} {column : Column}

/-- In a table without repeated names there is one column for each name. -/
theorem eq_of_name (distinct : table.columnNames.Nodup) {other : Column}
    (member : column ∈ table.columns) (otherMember : other ∈ table.columns)
    (same : other.name = column.name) : other = column :=
  List.inj_on_of_nodup_map distinct otherMember member same

theorem columnType?_of_mem (distinct : table.columnNames.Nodup) (member : column ∈ table.columns) :
    table.columnType? column.name = some column.type := by
  rw [columnType?, column?]
  cases found : table.columns.find? fun other => other.name == column.name with
  | none => exact absurd (beq_self_eq_true column.name) (List.find?_eq_none.mp found column member)
  | some other =>
      have otherMember := List.mem_of_find?_eq_some found
      have same := List.find?_some found
      rw [Option.map_some, eq_of_name distinct member otherMember (beq_iff_eq.mp same)]

theorem isAdaptable_of_mem (distinct : table.columnNames.Nodup) (member : column ∈ table.columns) :
    table.isAdaptable column.name = column.type.isAdaptable := by
  rw [Bool.eq_iff_iff, isAdaptable, List.contains_iff_mem, adaptableColumns, List.mem_map]
  constructor
  · rintro ⟨other, listed, same⟩
    have ⟨otherMember, adaptable⟩ := List.mem_filter.mp listed
    rwa [eq_of_name distinct member otherMember same] at adaptable
  · exact fun adaptable => ⟨column, List.mem_filter.mpr ⟨member, adaptable⟩, rfl⟩

/-- A value is read by the type of its own column. -/
theorem read_of_mem (distinct : table.columnNames.Nodup) (member : column ∈ table.columns) :
    table.read column.name =
      if column.type.isAdaptable then column.type.castOrKeep else id := by
  funext value
  rw [read, isAdaptable_of_mem distinct member, columnType?_of_mem distinct member]
  by_cases adaptable : column.type.isAdaptable = true
  · rw [if_pos adaptable, if_pos adaptable]
  · rw [if_neg adaptable, if_neg adaptable, id]

theorem read_of_notMem {name : String} (unknown : name ∉ table.columnNames) :
    table.read name = id := by
  have notAdaptable : ¬ table.isAdaptable name = true := by
    rw [isAdaptable, List.contains_iff_mem, adaptableColumns, List.mem_map]
    rintro ⟨column, listed, rfl⟩
    exact unknown (List.mem_map_of_mem (List.mem_filter.mp listed).1)
  funext value
  rw [read, if_neg notAdaptable, id]

end Table

/-! ## Rows -/

namespace OrderedMap

variable {α : Type}

/-- To put the value that is there is to change nothing. -/
theorem insert_of_get? (m : OrderedMap α) {key : String} {value : α}
    (found : m.get? key = some value) : m.insert key value = m := by
  rcases m with ⟨entries⟩
  rw [insert]
  congr 1
  rw [get?] at found
  induction entries with
  | nil => cases found
  | cons entry rest inductionHypothesis =>
      rcases entry with ⟨name, old⟩
      rw [lookup] at found
      by_cases here : name = key
      · rw [if_pos here] at found
        cases found
        rw [insertEntry, if_pos here]
      · rw [if_neg here] at found
        rw [insertEntry, if_neg here, inductionHypothesis found]

theorem modify_of_fixed (m : OrderedMap α) {key : String} {change : α → α}
    (fixed : ∀ value : α, m.get? key = some value → change value = value) :
    m.modify key change = m := by
  rw [modify]
  cases found : m.get? key with
  | none => rfl
  | some value =>
      change m.insert key (change value) = m
      rw [fixed value found, m.insert_of_get? found]

end OrderedMap

namespace Row

/-- The value of each of the columns is cast to itself. -/
def Settled (table : Table) (names : List String) (row : Row) : Prop :=
  ∀ name ∈ names, ∀ (type : ColumnType) (value : Value),
    table.columnType? name = some type → row.get? name = some value → type.castOrKeep value = value

variable {table : Table} {names : List String} {row : Row}

theorem castColumn_of_settled (settled : Settled table names row) {name : String}
    (member : name ∈ names) : castColumn table row name = row := by
  rw [castColumn]
  cases typed : table.columnType? name with
  | none => rfl
  | some type =>
      exact row.modify_of_fixed fun value found => settled name member type value typed found

/-- Casting leaves a settled row as it is. -/
theorem castColumns_of_settled (settled : Settled table names row) :
    castColumns table names row = row := by
  induction names with
  | nil => rfl
  | cons first rest inductionHypothesis =>
      change castColumns table rest (castColumn table row first) = row
      rw [castColumn_of_settled settled List.mem_cons_self]
      exact inductionHypothesis fun name member =>
        settled name (List.mem_cons_of_mem first member)

/-- A row that has been cast is settled. -/
theorem settled_castColumns (table : Table) (names : List String) (row : Row) :
    Settled table names (castColumns table names row) := by
  intro name member type value typed found
  rw [get?_castColumns_of_mem row member typed] at found
  rcases Option.map_eq_some_iff.mp found with ⟨old, _, rfl⟩
  exact type.castOrKeep_castOrKeep old

theorem cast_cast (table : Table) (row : Row) : cast table (cast table row) = cast table row :=
  castColumns_of_settled (settled_castColumns table table.adaptableColumns row)

/-- A row is cast column by column: it keeps its names and their order, each column is changed by
its own type if that is adaptable, and everything else in it stays. -/
structure CastByColumn (table : Table) (row result : Row) : Prop where
  keys_eq : result.keys = row.keys
  adaptable : ∀ column ∈ table.columns, column.type.isAdaptable = true →
    result.get? column.name = (row.get? column.name).map column.type.castOrKeep
  plain : ∀ column ∈ table.columns, column.type.isAdaptable = false →
    result.get? column.name = row.get? column.name
  unknown : ∀ name ∉ table.columnNames, result.get? name = row.get? name
  again : cast table result = result

theorem castByColumn_cast (distinct : table.columnNames.Nodup) (row : Row) :
    CastByColumn table row (cast table row) where
  keys_eq := keys_cast table row
  adaptable column member adaptable := by
    rw [get?_cast, Table.read_of_mem distinct member, if_pos adaptable]
  plain column member plain := by
    rw [get?_cast, Table.read_of_mem distinct member, plain]
    exact Option.map_id_apply
  unknown name unknown := by
    rw [get?_cast, Table.read_of_notMem unknown]
    exact Option.map_id_apply
  again := cast_cast table row

/-- Casting makes values canonical and does it once: for each type and value, and for each row and
each table whose columns have different names. -/
theorem casts_settle :
    (∀ (type : ColumnType) (value : Value), type.Settles value) ∧
      ∀ (table : Table) (row : Row), table.columnNames.Nodup →
        CastByColumn table row (cast table row) :=
  ⟨ColumnType.settles, fun _ row distinct => castByColumn_cast distinct row⟩

/-- A flag that converts, a day that does not, a number that is not adaptable, and a name that the
table does not have. -/
theorem casts_settle_visits :
    let table : Table := ⟨"default", "visits",
      [⟨"n", .integer, false, false, false⟩, ⟨"seen", .boolean, false, false, false⟩,
        ⟨"day", .date, false, false, false⟩]⟩
    let row : Row := ⟨[("day", .text "soon"), ("other", .integer 1), ("seen", .text ""),
      ("n", .text "7")]⟩
    let result : Row := ⟨[("day", .text "soon"), ("other", .integer 1), ("seen", .bool false),
      ("n", .text "7")]⟩
    table.columnNames.Nodup ∧ cast table row = result ∧ CastByColumn table row result ∧
      ColumnType.boolean.cast (.text "") = .ok (.bool false) ∧
      ColumnType.boolean.cast (.bool false) = .ok (.bool false) := by
  intro table row result
  have distinct : table.columnNames.Nodup := by decide
  have cast_eq : cast table row = result := by rfl
  have converted : ColumnType.boolean.cast (.text "") = .ok (.bool false) := rfl
  refine ⟨distinct, cast_eq, ?_, converted, ?_⟩
  · rw [← cast_eq]
    exact casts_settle.2 table row distinct
  · exact (casts_settle.1 .boolean (.text "")).again _ converted

end Row
end DocumentQuery
