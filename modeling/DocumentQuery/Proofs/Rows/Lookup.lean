import DocumentQuery.Proofs.Rows.Flat
import DocumentQuery.Proofs.Rows.Nested
import DocumentQuery.Filter.Matching
import DocumentQuery.Sql.Scope
import Mathlib.Data.List.Dedup

namespace DocumentQuery

/-!
# Columns that are looked up in joined rows

A statement resolves a reference by the definitions of the tables, and a filter that is applied to
the rows of the result resolves it by the names in the rows.  What the filter finds depends on
whether the qualifier of the reference is written exactly like the name of the target: then the
alias and the record of the target are tried, and otherwise the name of the column alone.  So a
column of the target is missed where it is not alone under its name, or where it is in a record; and
a column of the source is missed where the record has taken its name.
-/

open Sql

namespace Row

variable {source target : Table} {raw : Row} {sourceColumn targetColumn : String}

/-! ## Values of references -/

theorem valueOf_bare {row : Row} {reference : String}
    (bare : Reference.ofText reference = ⟨none, reference⟩) :
    row.valueOf reference = (row.get? reference).getD .null := by
  rw [valueOf, bare]
  cases row.get? reference <;> rfl

theorem valueOf_qualified {row : Row} {reference qualifier name : String}
    (qualified : Reference.ofText reference = ⟨some qualifier, name⟩) :
    row.valueOf reference = (((row.get? reference).or
      (((row.get? qualifier).bind Value.toRecord?).bind (OrderedMap.get? · name))).or
        (row.get? name)).getD .null := by
  rw [valueOf, qualified]
  cases row.get? reference with
  | some value => rfl
  | none =>
      rw [Option.none_or]
      dsimp only
      cases ((row.get? qualifier).bind Value.toRecord?).bind (OrderedMap.get? · name) <;> rfl

/-- A qualifier that names no record is of no use. -/
theorem valueOf_of_noRecord {row : Row} {reference qualifier name : String}
    (qualified : Reference.ofText reference = ⟨some qualifier, name⟩)
    (noRecord : (row.get? qualifier).bind Value.toRecord? = none) :
    row.valueOf reference = ((row.get? reference).or (row.get? name)).getD .null := by
  rw [valueOf_qualified qualified, noRecord, Option.bind_none, Option.or_none]

/-! ## References to flat rows -/

section Flat

variable {shape : JoinShape} (joined : IsJoined source target raw)
  (sourceIdentifiers : source.HasIdentifiers) (targetIdentifiers : target.HasIdentifiers)
  (flat : shape ≠ .oneToOne)

include joined sourceIdentifiers targetIdentifiers flat

/-- Under the name of a column the source comes first. -/
theorem get?_flat_name {name : String} (noPoint : '.' ∉ name.toList) :
    (adaptJoined source target shape sourceColumn targetColumn raw).get? name =
      ((sourcePart source target raw).get? name).or
        ((targetPart target sourceColumn targetColumn raw).get? name) := by
  rw [get?_flat joined sourceIdentifiers targetIdentifiers flat]
  rcases Table.flatName_eq source target name with ⟨own, _⟩ | ⟨_, taken⟩
  · nth_rewrite 2 [← own]
    rw [get?_renamed_flatName joined sourceIdentifiers targetIdentifiers noPoint]
  · have member := (mem_keys_sourcePart joined sourceIdentifiers).mpr (Table.hasColumn_iff.mp taken)
    rcases OrderedMap.exists_of_mem_keys member with ⟨value, found⟩
    rw [found, Option.some_or, Option.some_or]

/-- Under the alias of a column that column is found, if it has no name of its own. -/
theorem get?_flat_alias {name : String} (noPoint : '.' ∉ name.toList) :
    (adaptJoined source target shape sourceColumn targetColumn raw).get? (targetAlias target name) =
      if source.hasColumn name then (targetPart target sourceColumn targetColumn raw).get? name
      else none := by
  rw [get?_flat joined sourceIdentifiers targetIdentifiers flat,
    get?_sourcePart_of_point joined sourceIdentifiers (point_mem_targetAlias target name),
    Option.none_or]
  rcases Table.flatName_eq source target name with ⟨own, free⟩ | ⟨own, taken⟩
  · rw [free, if_neg Bool.false_ne_true]
    refine OrderedMap.get?_renamed_eq_none fun other member same => ?_
    have noPoint' := noPoint_of_mem_targetPart joined sourceIdentifiers targetIdentifiers member
    by_cases other_eq : other = name
    · rw [other_eq, own] at same
      exact Table.ne_targetAlias noPoint (Option.some.inj same)
    · exact Table.targetAlias_ne_flatName noPoint' (Ne.symm other_eq) (Option.some.inj same).symm
  · rw [taken, if_pos rfl, ← own]
    exact get?_renamed_flatName joined sourceIdentifiers targetIdentifiers noPoint

/-- Under any other name with a point nothing is found. -/
theorem get?_flat_eq_none {qualifier name : String} (noPoint : '.' ∉ qualifier.toList)
    (noPoint' : '.' ∉ name.toList) (other : qualifier ≠ target.name) :
    (adaptJoined source target shape sourceColumn targetColumn raw).get?
      (qualifier ++ "." ++ name) = none := by
  have point : '.' ∈ (qualifier ++ "." ++ name).toList := by simp
  rw [get?_flat joined sourceIdentifiers targetIdentifiers flat,
    get?_sourcePart_of_point joined sourceIdentifiers point, Option.none_or]
  refine OrderedMap.get?_renamed_eq_none fun column member same => ?_
  have noPoint'' := noPoint_of_mem_targetPart joined sourceIdentifiers targetIdentifiers member
  rcases Table.flatName_eq source target column with ⟨own, _⟩ | ⟨own, _⟩ <;>
    rw [own, Option.some_inj] at same
  · exact noPoint'' (same ▸ point)
  · exact other ((append_point_inj noPoint noPoint' target.name column).mp same).1.symm

variable (plain : raw.IsPlain) {reference name : String} (noPoint : '.' ∉ name.toList)

include plain noPoint

theorem noRecord_flat :
    ((adaptJoined source target shape sourceColumn targetColumn raw).get? name).bind
      Value.toRecord? = none := by
  have plainSource := (isPlain_sourcePart joined sourceIdentifiers plain).noRecord name
  have plainTarget :=
    (isPlain_targetPart sourceColumn targetColumn joined sourceIdentifiers plain).noRecord name
  rw [get?_flat_name joined sourceIdentifiers targetIdentifiers flat noPoint]
  cases found : (sourcePart source target raw).get? name with
  | none => rwa [Option.none_or]
  | some value => rwa [Option.some_or, ← found]

/-- A column that is qualified with the name of the target is looked for in the target first. -/
theorem valueOf_flat_target (reads : Reference.ofText reference = ⟨some target.name, name⟩) :
    (adaptJoined source target shape sourceColumn targetColumn raw).valueOf reference =
      (((targetPart target sourceColumn targetColumn raw).get? name).or
        ((sourcePart source target raw).get? name)).getD .null := by
  rcases Reference.eq_of_qualified reads with ⟨reference_eq, qualifierNoPoint⟩
  rw [valueOf_of_noRecord reads
      (noRecord_flat joined sourceIdentifiers targetIdentifiers flat plain qualifierNoPoint),
    get?_flat_name joined sourceIdentifiers targetIdentifiers flat noPoint, reference_eq,
    ← targetAlias, get?_flat_alias joined sourceIdentifiers targetIdentifiers flat noPoint]
  -- without such a column in the source there is no alias, and nothing comes before the target
  by_cases taken : source.hasColumn name = true
  · rw [if_pos taken]
    cases (targetPart target sourceColumn targetColumn raw).get? name with
    | some value => rfl
    | none => rw [Option.none_or, Option.none_or, Option.or_none]
  · have free := get?_sourcePart_eq_none joined sourceIdentifiers
      (mt Table.hasColumn_iff.mpr taken)
    rw [if_neg taken, free, Option.none_or, Option.none_or, Option.or_none]

/-- Any other column is looked for in the source first. -/
theorem valueOf_flat_other {qualifier? : Option String}
    (reads : Reference.ofText reference = ⟨qualifier?, name⟩)
    (other : qualifier? ≠ some target.name) :
    (adaptJoined source target shape sourceColumn targetColumn raw).valueOf reference =
      (((sourcePart source target raw).get? name).or
        ((targetPart target sourceColumn targetColumn raw).get? name)).getD .null := by
  cases qualifier? with
  | none =>
      cases Reference.eq_of_bare reads
      rw [valueOf_bare reads,
        get?_flat_name joined sourceIdentifiers targetIdentifiers flat noPoint]
  | some qualifier =>
      rcases Reference.eq_of_qualified reads with ⟨reference_eq, qualifierNoPoint⟩
      have qualifier_ne : qualifier ≠ target.name := fun same => other (congrArg some same)
      rw [valueOf_of_noRecord reads
          (noRecord_flat joined sourceIdentifiers targetIdentifiers flat plain qualifierNoPoint),
        reference_eq, get?_flat_eq_none joined sourceIdentifiers targetIdentifiers flat
          qualifierNoPoint noPoint qualifier_ne, Option.none_or,
        get?_flat_name joined sourceIdentifiers targetIdentifiers flat noPoint]

end Flat

/-! ## References to nested rows -/

theorem targetAlias_ne_name (target : Table) (column : String) :
    targetAlias target column ≠ target.name := fun same => by
  have lengths := congrArg (fun text : String => text.toList.length) same
  simp [targetAlias] at lengths

section Nested

variable (joined : IsJoined source target raw) (identifiers : source.HasIdentifiers)
  {reference name : String}

include joined identifiers

/-- A column that is qualified with the name of the target is looked for in the record first. -/
theorem valueOf_nested_target (reads : Reference.ofText reference = ⟨some target.name, name⟩) :
    (adaptJoined source target .oneToOne sourceColumn targetColumn raw).valueOf reference =
      (((targetPart target sourceColumn targetColumn raw).get? name).or
        (if name = target.name then
          some (.record (targetPart target sourceColumn targetColumn raw))
        else (sourcePart source target raw).get? name)).getD .null := by
  have reference_eq : reference = targetAlias target name := (Reference.eq_of_qualified reads).1
  rw [valueOf_qualified reads, reference_eq, get?_nested joined.distinct,
    get?_nested joined.distinct, get?_nested joined.distinct,
    if_neg (targetAlias_ne_name target name), if_pos rfl,
    get?_sourcePart_of_point joined identifiers (point_mem_targetAlias target name),
    Option.none_or]
  rfl

/-- Any other column is looked for in the source, unless the record has taken its name. -/
theorem valueOf_nested_other (plain : raw.IsPlain) {qualifier? : Option String}
    (reads : Reference.ofText reference = ⟨qualifier?, name⟩)
    (other : qualifier? ≠ some target.name) :
    (adaptJoined source target .oneToOne sourceColumn targetColumn raw).valueOf reference =
      if reference = target.name ∨ name = target.name then
        .record (targetPart target sourceColumn targetColumn raw)
      else ((sourcePart source target raw).get? name).getD .null := by
  cases qualifier? with
  | none =>
      cases Reference.eq_of_bare reads
      rw [valueOf_bare reads, get?_nested joined.distinct]
      by_cases own : reference = target.name
      · rw [if_pos own, if_pos (Or.inl own)]
        rfl
      · rw [if_neg own, if_neg (not_or.mpr ⟨own, own⟩)]
  | some qualifier =>
      have qualifier_ne : qualifier ≠ target.name := fun same => other (congrArg some same)
      rcases Reference.eq_of_qualified reads with ⟨reference_eq, qualifierNoPoint⟩
      have point : '.' ∈ reference.toList := by simp [reference_eq]
      have noRecord : ((adaptJoined source target .oneToOne sourceColumn targetColumn raw).get?
          qualifier).bind Value.toRecord? = none := by
        rw [get?_nested joined.distinct, if_neg qualifier_ne]
        exact (isPlain_sourcePart joined identifiers plain).noRecord qualifier
      rw [valueOf_of_noRecord reads noRecord, get?_nested joined.distinct,
        get?_nested joined.distinct, get?_sourcePart_of_point joined identifiers point]
      by_cases whole : reference = target.name
      · rw [if_pos whole, if_pos (Or.inl whole)]
        rfl
      · by_cases own : name = target.name
        · rw [if_neg whole, if_pos own, if_pos (Or.inr own)]
          rfl
        · rw [if_neg whole, if_neg own, if_neg (not_or.mpr ⟨whole, own⟩), Option.none_or]

end Nested

/-! ## Rows that tell the columns apart -/

/-- A row of a join with nothing in the columns of the source and ones in those of the target. -/
def telling (source target : Table) : Row :=
  ⟨(joinedNames source target).dedup.map fun name =>
    (name, if source.hasColumn name then .null else .integer 1)⟩

theorem isJoined_telling (source target : Table) :
    IsJoined source target (telling source target) := by
  have keys_eq : (telling source target).keys = (joinedNames source target).dedup := by
    rw [telling, OrderedMap.keys, List.map_map]
    exact List.map_id' _
  refine ⟨?_, fun name => ?_⟩
  · rw [OrderedMap.Distinct, keys_eq]
    exact List.nodup_dedup _
  · rw [keys_eq, List.mem_dedup]

theorem get?_telling {name : String} (selected : name ∈ joinedNames source target) :
    (telling source target).get? name =
      some (if source.hasColumn name then .null else .integer 1) :=
  OrderedMap.get?_tabulate (fun name => if source.hasColumn name then Value.null else .integer 1)
    (List.mem_dedup.mpr selected)

theorem isPlain_telling (source target : Table) : (telling source target).IsPlain := by
  intro name value found
  have selected := ((isJoined_telling source target).selected name).mp
    (OrderedMap.mem_keys_of_get? found)
  rw [get?_telling selected] at found
  cases found
  split <;> rfl

/-- The columns of the source are read as null. -/
theorem get?_sourcePart_telling (identifiers : source.HasIdentifiers) {name : String}
    (member : name ∈ source.columnNames) :
    (sourcePart source target (telling source target)).get? name = some .null := by
  have selected : name ∈ joinedNames source target := by
    rw [joinedNames_eq]
    exact List.mem_append_left _ member
  rw [get?_sourcePart (identifiers.noPoint member), get?_telling selected,
    if_pos (Table.hasColumn_iff.mpr member), Option.map_some]
  exact congrArg some ((Value.isNull_iff _).mp (source.isNull_read name .null))

/-- And those of the target are read as neither null nor a record. -/
theorem get?_targetPart_telling (identifiers : source.HasIdentifiers) {column : String}
    (kept : column ∈ keptColumns target sourceColumn targetColumn) :
    ∃ value, (targetPart target sourceColumn targetColumn (telling source target)).get? column =
      some value ∧ value.isNull = false ∧ value.toRecord? = none := by
  have selected : targetAlias target column ∈ joinedNames source target := by
    rw [joinedNames_eq]
    exact List.mem_append_right _ (List.mem_map_of_mem (mem_keptColumns.mp kept).1)
  have notOfSource : ¬ source.hasColumn (targetAlias target column) = true := fun taken =>
    identifiers.noPoint (Table.hasColumn_iff.mp taken) (point_mem_targetAlias target column)
  refine ⟨target.read column (.integer 1), ?_, ?_, ?_⟩
  · rw [get?_targetPart kept, get?_telling selected, if_neg notOfSource, Option.map_some]
  · exact target.isNull_read column (.integer 1)
  · exact target.toRecord?_read column rfl

/-! ## References that are misread -/

/-- The references for which not every row has the column that they stand for in statements.  A
filter compares the qualifier as it is written, while a statement takes every letter case. -/
inductive Misread (source target : Table) (shape : JoinShape) (sourceColumn targetColumn : String)
    (reference : String) : Table → String → Prop
  /-- The name of the target is not written as it is, and its column has an alias. -/
  | shadowed {name : String} (qualifier : (Reference.ofText reference).qualifier ≠ some target.name)
      (taken : source.hasColumn name = true) :
      Misread source target shape sourceColumn targetColumn reference target name
  /-- The name of the target is not written as it is, and its column is in a record. -/
  | inRecord {name : String} (qualifier : (Reference.ofText reference).qualifier ≠ some target.name)
      (nested : shape = .oneToOne) :
      Misread source target shape sourceColumn targetColumn reference target name
  /-- The record has taken the name of the column, or that of the whole reference. -/
  | overwritten {name : String} (nested : shape = .oneToOne)
      (named : reference = target.name ∨ name = target.name) :
      Misread source target shape sourceColumn targetColumn reference source name
  /-- The qualifier is the name of the target as it is written, and yet stands for the source, as
  the name of the target is not in small letters and that of the source is its small form. -/
  | misnamed {name : String} (qualifier : (Reference.ofText reference).qualifier = some target.name)
      (kept : name ∈ keptColumns target sourceColumn targetColumn) :
      Misread source target shape sourceColumn targetColumn reference source name

theorem misread_target_iff {shape : JoinShape} {reference name : String}
    (different : source ≠ target) :
    Misread source target shape sourceColumn targetColumn reference target name ↔
      (Reference.ofText reference).qualifier ≠ some target.name ∧
        (shape = .oneToOne ∨ source.hasColumn name = true) := by
  constructor
  · intro misread
    cases misread with
    | shadowed qualifier taken => exact ⟨qualifier, .inr taken⟩
    | inRecord qualifier nested => exact ⟨qualifier, .inl nested⟩
    | overwritten => exact absurd rfl different
    | misnamed => exact absurd rfl different
  · rintro ⟨qualifier, nested | taken⟩
    · exact .inRecord qualifier nested
    · exact .shadowed qualifier taken

/-- The owner of a reference is one of the two tables and has the column that the reference names. -/
theorem owner?_cases {reference name : String} {owner : Table}
    (owned : Scope.owner? ⟨source, some target⟩ reference = some (owner, name)) :
    (owner = source ∨ owner = target) ∧ name ∈ owner.columnNames ∧
      Reference.ofText reference = ⟨(Reference.ofText reference).qualifier, name⟩ := by
  have found {test : Table → Bool} {column : String}
      (owns : ∀ table, test table = true → table.hasColumn column = true)
      (resolved : ([source, target].find? test).map (fun table => (table, column)) =
        some (owner, name)) :
      (owner = source ∨ owner = target) ∧ name ∈ owner.columnNames ∧ column = name := by
    rcases Option.map_eq_some_iff.mp resolved with ⟨table, first, same⟩
    cases same
    refine ⟨?_, Table.hasColumn_iff.mp (owns owner (List.find?_some first)), rfl⟩
    simpa using List.mem_of_find?_eq_some first
  rcases Reference.ofText_cases reference with ⟨reads, _⟩ | ⟨qualifier, column, reads, _, _⟩
  · rw [Scope.owner?, reads] at owned
    rcases found (fun _ holds => holds) owned with ⟨tables, member, column_eq⟩
    exact ⟨tables, member, by rw [reads, column_eq]⟩
  · rw [Scope.owner?, reads] at owned
    rcases found (fun _ holds => (Bool.and_eq_true_iff.mp holds).2) owned with
      ⟨tables, member, column_eq⟩
    exact ⟨tables, member, by rw [reads, column_eq]⟩

section Owned

variable {shape : JoinShape} {reference name : String} {qualifier? : Option String}
  (sourceIdentifiers : source.HasIdentifiers) (targetIdentifiers : target.HasIdentifiers)
  (noPoint : '.' ∉ name.toList) (reads : Reference.ofText reference = ⟨qualifier?, name⟩)
  (joined : IsJoined source target raw) (plain : raw.IsPlain)

include sourceIdentifiers targetIdentifiers noPoint reads joined plain

variable (shape) in
/-- Rows of every shape have the columns of the target that are qualified with its name. -/
theorem valueOf_exact (exact : qualifier? = some target.name)
    (kept : name ∈ keptColumns target sourceColumn targetColumn) :
    (targetPart target sourceColumn targetColumn raw).get? name =
      some ((adaptJoined source target shape sourceColumn targetColumn raw).valueOf reference) := by
  rcases OrderedMap.exists_of_mem_keys
    ((mem_keys_targetPart joined sourceIdentifiers).mpr kept) with ⟨value, found⟩
  subst exact
  by_cases nested : shape = .oneToOne
  · subst nested
    rw [valueOf_nested_target joined sourceIdentifiers reads, found, Option.some_or,
      Option.getD_some]
  · rw [valueOf_flat_target joined sourceIdentifiers targetIdentifiers nested plain noPoint reads,
      found, Option.some_or, Option.getD_some]

/-- A column of the target that is not misread. -/
theorem valueOf_target (kept : name ∈ keptColumns target sourceColumn targetColumn)
    (right : ¬ Misread source target shape sourceColumn targetColumn reference target name) :
    (targetPart target sourceColumn targetColumn raw).get? name =
      some ((adaptJoined source target shape sourceColumn targetColumn raw).valueOf reference) := by
  by_cases exact : qualifier? = some target.name
  · exact valueOf_exact shape sourceIdentifiers targetIdentifiers noPoint reads joined plain exact kept
  have notExact : (Reference.ofText reference).qualifier ≠ some target.name := by rwa [reads]
  have flat : shape ≠ .oneToOne := fun nested => right (.inRecord notExact nested)
  have free : name ∉ source.columnNames := fun member =>
    right (.shadowed notExact (Table.hasColumn_iff.mpr member))
  rcases OrderedMap.exists_of_mem_keys
    ((mem_keys_targetPart joined sourceIdentifiers).mpr kept) with ⟨value, found⟩
  rw [valueOf_flat_other joined sourceIdentifiers targetIdentifiers flat plain noPoint reads exact,
    get?_sourcePart_eq_none joined sourceIdentifiers free, found, Option.none_or, Option.getD_some]

/-- A column of the source that is not misread. -/
theorem valueOf_source (member : name ∈ source.columnNames)
    (right : ¬ Misread source target shape sourceColumn targetColumn reference source name) :
    (sourcePart source target raw).get? name =
      some ((adaptJoined source target shape sourceColumn targetColumn raw).valueOf reference) := by
  rcases OrderedMap.exists_of_mem_keys
    ((mem_keys_sourcePart joined sourceIdentifiers).mpr member) with ⟨value, found⟩
  have notOfTarget (exact : qualifier? = some target.name) :
      (targetPart target sourceColumn targetColumn raw).get? name = none := by
    refine get?_targetPart_eq_none joined sourceIdentifiers fun kept => ?_
    exact right (.misnamed (by rw [reads, exact]) kept)
  rw [found]
  congr 1
  by_cases nested : shape = .oneToOne
  · subst nested
    have kept : ¬ (reference = target.name ∨ name = target.name) := fun named =>
      right (.overwritten rfl named)
    by_cases exact : qualifier? = some target.name
    · have missing := notOfTarget exact
      subst exact
      rw [valueOf_nested_target joined sourceIdentifiers reads, missing, Option.none_or,
        if_neg fun own => kept (Or.inr own), found, Option.getD_some]
    · rw [valueOf_nested_other joined sourceIdentifiers plain reads exact, if_neg kept, found,
        Option.getD_some]
  · by_cases exact : qualifier? = some target.name
    · have missing := notOfTarget exact
      subst exact
      rw [valueOf_flat_target joined sourceIdentifiers targetIdentifiers nested plain noPoint reads,
        missing, found, Option.none_or, Option.getD_some]
    · rw [valueOf_flat_other joined sourceIdentifiers targetIdentifiers nested plain noPoint reads
        exact, found, Option.some_or, Option.getD_some]

end Owned

/-- The value that a joined row has of a column of one of its tables, as that table reads it. -/
def selectedValue? (target owner : Table) (name : String) (raw : Row) : Option Value :=
  (raw.get? (if owner = target then targetAlias target name else name)).map (owner.read name)

section Telling

variable {shape : JoinShape} {reference name : String}
  (sourceIdentifiers : source.HasIdentifiers) (targetIdentifiers : target.HasIdentifiers)
  (noPoint : '.' ∉ name.toList)
  (reads : Reference.ofText reference = ⟨(Reference.ofText reference).qualifier, name⟩)

include sourceIdentifiers targetIdentifiers noPoint reads

/-- The telling row shows that a column of the target is misread. -/
theorem telling_target (kept : name ∈ keptColumns target sourceColumn targetColumn)
    (misread : Misread source target shape sourceColumn targetColumn reference target name)
    (different : source ≠ target) :
    (targetPart target sourceColumn targetColumn (telling source target)).get? name ≠
      some ((adaptJoined source target shape sourceColumn targetColumn
        (telling source target)).valueOf reference) := by
  rcases (misread_target_iff different).mp misread with ⟨notExact, hidden⟩
  have joined := isJoined_telling source target
  have plain := isPlain_telling source target
  rcases get?_targetPart_telling sourceIdentifiers kept with ⟨value, found, notNull, notRecord⟩
  have null_of_mem (member : name ∈ source.columnNames) :
      (sourcePart source target (telling source target)).get? name = some .null :=
    get?_sourcePart_telling sourceIdentifiers member
  rw [found, Ne, Option.some_inj]
  rintro rfl
  by_cases nested : shape = .oneToOne
  · subst nested
    rw [valueOf_nested_other joined sourceIdentifiers plain reads notExact] at notNull notRecord
    split at notRecord
    · exact nomatch notRecord
    · rename_i free
      rw [if_neg free] at notNull
      by_cases member : name ∈ source.columnNames
      · rw [null_of_mem member] at notNull
        exact nomatch notNull
      · rw [get?_sourcePart_eq_none joined sourceIdentifiers member] at notNull
        exact nomatch notNull
  · have member := Table.hasColumn_iff.mp (hidden.resolve_left nested)
    rw [valueOf_flat_other joined sourceIdentifiers targetIdentifiers nested plain noPoint reads
      notExact, null_of_mem member] at notNull
    exact nomatch notNull

/-- Under the exact name of the target the telling row has a value. -/
theorem notNull_telling (exact : (Reference.ofText reference).qualifier = some target.name)
    (kept : name ∈ keptColumns target sourceColumn targetColumn) :
    ((adaptJoined source target shape sourceColumn targetColumn
      (telling source target)).valueOf reference).isNull = false := by
  have shown := valueOf_exact shape sourceIdentifiers targetIdentifiers noPoint reads
    (isJoined_telling source target) (isPlain_telling source target) exact kept
  rcases get?_targetPart_telling sourceIdentifiers kept with ⟨value, found, notNull, _⟩
  rw [found, Option.some_inj] at shown
  rwa [← shown]

/-- And that one of the source is. -/
theorem telling_source (member : name ∈ source.columnNames)
    (misread : Misread source target shape sourceColumn targetColumn reference source name)
    (different : source ≠ target) :
    (sourcePart source target (telling source target)).get? name ≠
      some ((adaptJoined source target shape sourceColumn targetColumn
        (telling source target)).valueOf reference) := by
  have joined := isJoined_telling source target
  have plain := isPlain_telling source target
  have notNull : ((adaptJoined source target shape sourceColumn targetColumn
      (telling source target)).valueOf reference).isNull = false := by
    cases misread with
    | shadowed => exact absurd rfl different
    | inRecord => exact absurd rfl different
    | misnamed qualifier kept =>
        exact notNull_telling sourceIdentifiers targetIdentifiers noPoint reads qualifier kept
    | overwritten nested named =>
        subst nested
        by_cases exact : (Reference.ofText reference).qualifier = some target.name
        · by_cases kept : name ∈ keptColumns target sourceColumn targetColumn
          · exact notNull_telling sourceIdentifiers targetIdentifiers noPoint reads exact kept
          -- the join column of the target is dropped, so that the record itself is found
          · rw [exact] at reads
            have reference_eq : reference = targetAlias target name :=
              (Reference.eq_of_qualified reads).1
            have own : name = target.name := named.resolve_left fun whole =>
              targetAlias_ne_name target name (reference_eq.symm.trans whole)
            rw [valueOf_nested_target joined sourceIdentifiers reads,
              get?_targetPart_eq_none joined sourceIdentifiers kept, if_pos own]
            rfl
        · rw [valueOf_nested_other joined sourceIdentifiers plain reads exact, if_pos named]
          rfl
  rw [get?_sourcePart_telling sourceIdentifiers member, Ne, Option.some_inj]
  intro same
  rw [← same] at notNull
  exact nomatch notNull

end Telling

/-- A filter finds in every row of a join the column that a reference stands for in statements,
unless the reference is misread. -/
theorem valueOf_adaptJoined_iff (sourceIdentifiers : source.HasIdentifiers)
    (targetIdentifiers : target.HasIdentifiers) (different : source.name ≠ target.name)
    (shape : JoinShape) (sourceColumn targetColumn : String) {reference name : String}
    {owner : Table}
    (owned : Scope.owner? ⟨source, some target⟩ reference = some (owner, name))
    (notDropped : ¬ (owner = target ∧ sourceColumn = targetColumn ∧ name = targetColumn)) :
    (∀ raw : Row, IsJoined source target raw → raw.IsPlain → selectedValue? target owner name raw =
      some ((adaptJoined source target shape sourceColumn targetColumn raw).valueOf reference)) ↔
        ¬ Misread source target shape sourceColumn targetColumn reference owner name := by
  have notSame : source ≠ target := fun same => different (congrArg Table.name same)
  rcases owner?_cases owned with ⟨rfl | rfl, member, reads⟩
  · have noPoint := sourceIdentifiers.noPoint member
    have selected (raw : Row) : selectedValue? target owner name raw =
        (sourcePart owner target raw).get? name := by
      rw [selectedValue?, if_neg notSame, get?_sourcePart noPoint]
    simp only [selected]
    constructor
    · intro right misread
      exact telling_source sourceIdentifiers targetIdentifiers noPoint reads member misread
        notSame (right _ (isJoined_telling owner target) (isPlain_telling owner target))
    · intro right raw joined plain
      exact valueOf_source sourceIdentifiers targetIdentifiers noPoint reads joined
        plain member right
  · have noPoint := targetIdentifiers.noPoint member
    have kept : name ∈ keptColumns owner sourceColumn targetColumn :=
      mem_keptColumns.mpr ⟨member, fun dropped => notDropped ⟨rfl, dropped⟩⟩
    have selected (raw : Row) : selectedValue? owner owner name raw =
        (targetPart owner sourceColumn targetColumn raw).get? name := by
      rw [selectedValue?, if_pos rfl, get?_targetPart kept]
    simp only [selected]
    constructor
    · intro right misread
      exact telling_target sourceIdentifiers targetIdentifiers noPoint reads kept misread
        notSame (right _ (isJoined_telling source owner) (isPlain_telling source owner))
    · intro right raw joined plain
      exact valueOf_target sourceIdentifiers targetIdentifiers noPoint reads joined
        plain kept right

open Library in
/-- Whether the card is active is found under the exact name of the cards, and missed under the same
name with a capital letter. -/
theorem valueOf_issued :
    readers.HasIdentifiers ∧ cards.HasIdentifiers ∧ readers.name ≠ cards.name ∧
      Scope.owner? ⟨readers, some cards⟩ "cards.active" = some (cards, "active") ∧
      Scope.owner? ⟨readers, some cards⟩ "Cards.active" = some (cards, "active") ∧
      (adaptJoined readers cards .oneToMany "id" "id" issued).valueOf "cards.active" =
        .bool false ∧
      ¬ ∀ raw : Row, IsJoined readers cards raw → raw.IsPlain →
        selectedValue? cards cards "active" raw =
          some ((adaptJoined readers cards .oneToMany "id" "id" raw).valueOf "Cards.active") := by
  have exactOwned : Scope.owner? ⟨readers, some cards⟩ "cards.active" = some (cards, "active") := by
    rfl
  have owned : Scope.owner? ⟨readers, some cards⟩ "Cards.active" = some (cards, "active") := by
    rfl
  have identifiers := regular_readers.identifiers
  have identifiers' := regular_cards.identifiers
  refine ⟨identifiers, identifiers', by decide, exactOwned, owned, ?_, ?_⟩
  · have right := (valueOf_adaptJoined_iff identifiers identifiers' (by decide) .oneToMany "id" "id"
      exactOwned (by decide)).mpr fun misread =>
        ((misread_target_iff (by decide)).mp misread).1 rfl
    exact (Option.some.inj (right issued (.of_keys regular_readers regular_cards keys_issued)
      isPlain_issued)).symm
  · intro right
    refine (valueOf_adaptJoined_iff identifiers identifiers' (by decide) .oneToMany "id" "id" owned
      (by decide)).mp right ?_
    exact .shadowed (by decide) (by decide)

end Row
end DocumentQuery
