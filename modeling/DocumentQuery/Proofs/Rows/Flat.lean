import DocumentQuery.Proofs.Rows.Joined

namespace DocumentQuery

/-!
# Flat joined rows

Unless a source row has at most one target row, the columns of the target are put beside those of
the source, one after the other, and a column whose name is taken is put under its alias.  Whether a
name is taken is asked of the row as it has grown so far, and yet the answer depends on the columns
of the source alone: what has been added before are other columns of the target and aliases, and an
alias is no column, as it contains a point.

So each column of the target has one name that is told by the two tables (`flatName`), different
columns have different ones, and none of them is the name of a column of the source.
-/

open Sql

/-- The name that a column of the target has beside the columns of the source. -/
def Table.flatName (source target : Table) (column : String) : String :=
  if source.hasColumn column then targetAlias target column else column

namespace Table

variable {source target : Table} {column other : String}

theorem flatName_eq (source target : Table) (column : String) :
    (source.flatName target column = column ∧ source.hasColumn column = false) ∨
      (source.flatName target column = targetAlias target column ∧
        source.hasColumn column = true) := by
  rw [flatName]
  cases taken : source.hasColumn column with
  | false => exact .inl ⟨rfl, rfl⟩
  | true => exact .inr ⟨rfl, rfl⟩

theorem ne_targetAlias (noPoint : '.' ∉ column.toList) : column ≠ targetAlias target other := by
  rintro rfl
  exact noPoint (point_mem_targetAlias target other)

/-- No name of the target is the name of another column. -/
theorem ne_flatName (noPoint : '.' ∉ other.toList) (different : other ≠ column) :
    other ≠ source.flatName target column := by
  rcases flatName_eq source target column with ⟨own, _⟩ | ⟨own, _⟩ <;> rw [own]
  · exact different
  · exact ne_targetAlias noPoint

theorem targetAlias_ne_flatName (noPoint : '.' ∉ column.toList) (different : other ≠ column) :
    targetAlias target other ≠ source.flatName target column := by
  rcases flatName_eq source target column with ⟨own, _⟩ | ⟨own, _⟩ <;> rw [own]
  · exact (ne_targetAlias noPoint).symm
  · exact fun same => different (targetAlias_inj.mp same)

theorem flatName_inj (noPoint : '.' ∉ column.toList) (noPoint' : '.' ∉ other.toList) :
    source.flatName target other = source.flatName target column ↔ other = column := by
  refine ⟨fun same => ?_, fun same => by rw [same]⟩
  by_contra different
  rcases flatName_eq source target other with ⟨own, _⟩ | ⟨own, _⟩ <;> rw [own] at same
  · exact ne_flatName noPoint' different same
  · exact targetAlias_ne_flatName noPoint different same

theorem flatName_notMem (identifiers : source.HasIdentifiers) (column : String) :
    source.flatName target column ∉ source.columnNames := by
  intro member
  rcases flatName_eq source target column with ⟨own, free⟩ | ⟨own, _⟩ <;> rw [own] at member
  · exact absurd (hasColumn_iff.mpr member) (by simp [free])
  · exact identifiers.noPoint member (point_mem_targetAlias target column)

end Table

namespace Row

variable {source target : Table} {sourceColumn targetColumn : String}

/-! ## A growing row -/

/-- The row stays such that exactly the columns of the source are taken, and no alias of a column
that is still to come. -/
theorem flatten_entries {entries : List (String × Value)} {row : Row}
    (taken : ∀ column ∈ entries.map Prod.fst, column ∈ row.keys ↔ source.hasColumn column = true)
    (fresh : ∀ column ∈ entries.map Prod.fst, targetAlias target column ∉ row.keys)
    (noPoints : ∀ column ∈ entries.map Prod.fst, '.' ∉ column.toList)
    (distinct : (entries.map Prod.fst).Nodup) :
    flatten target row ⟨entries⟩ = ⟨row.entries ++ (OrderedMap.renamed
      (fun column => some (source.flatName target column)) ⟨entries⟩).entries⟩ := by
  induction entries generalizing row with
  | nil => exact congrArg OrderedMap.mk (List.append_nil row.entries).symm
  | cons entry rest inductionHypothesis =>
      rcases entry with ⟨column, value⟩
      simp only [List.map_cons, List.forall_mem_cons] at taken fresh noPoints
      rw [List.map_cons, List.nodup_cons] at distinct
      have notThere : source.flatName target column ∉ row.keys := by
        rcases Table.flatName_eq source target column with ⟨own, free⟩ | ⟨own, _⟩ <;> rw [own]
        · rw [taken.1, free]
          exact Bool.false_ne_true
        · exact fresh.1
      have added : flatten target row ⟨(column, value) :: rest⟩ =
          flatten target ⟨row.entries ++ [(source.flatName target column, value)]⟩ ⟨rest⟩ := by
        rw [← OrderedMap.insert_of_notMem value notThere, Table.flatName]
        change flatten target (if row.contains column then _ else _) ⟨rest⟩ = _
        simp only [OrderedMap.contains_iff, taken.1]
        split <;> rfl
      have keys_eq : (⟨row.entries ++ [(source.flatName target column, value)]⟩ : Row).keys =
          row.keys ++ [source.flatName target column] := List.map_append
      have different : ∀ other ∈ rest.map Prod.fst, other ≠ column := fun other member same =>
        distinct.1 (same ▸ member)
      -- the name just added is neither a column that is still to come nor the alias of one
      rw [added, inductionHypothesis _ _ noPoints.2 distinct.2, List.append_assoc]
      · rfl
      · intro other member
        have notAdded : other ≠ source.flatName target column :=
          Table.ne_flatName (noPoints.2 other member) (different other member)
        rw [keys_eq, List.mem_append, List.mem_singleton, or_iff_left notAdded]
        exact taken.2 other member
      · intro other member
        have notAdded : targetAlias target other ≠ source.flatName target column :=
          Table.targetAlias_ne_flatName noPoints.1 (different other member)
        rw [keys_eq, List.mem_append, List.mem_singleton, or_iff_left notAdded]
        exact fresh.2 other member

/-! ## The row that is returned -/

section IsJoined

variable {raw : Row} {shape : JoinShape} (joined : IsJoined source target raw)
  (sourceIdentifiers : source.HasIdentifiers) (targetIdentifiers : target.HasIdentifiers)

include joined sourceIdentifiers targetIdentifiers

/-- A column of the target is found under its name beside the source. -/
theorem get?_renamed_flatName {column : String} (noPoint : '.' ∉ column.toList) :
    ((targetPart target sourceColumn targetColumn raw).renamed fun column =>
        some (source.flatName target column)).get? (source.flatName target column) =
      (targetPart target sourceColumn targetColumn raw).get? column := by
  refine OrderedMap.get?_renamed fun other member => ?_
  rw [Option.some_inj]
  exact Table.flatName_inj noPoint
    (noPoint_of_mem_targetPart joined sourceIdentifiers targetIdentifiers member)

variable (flat : shape ≠ .oneToOne)

include flat

/-- The entries of the source come first, and then those of the target under their names. -/
theorem adaptJoined_flat :
    adaptJoined source target shape sourceColumn targetColumn raw =
      ⟨(sourcePart source target raw).entries ++
        ((targetPart target sourceColumn targetColumn raw).renamed fun column =>
          some (source.flatName target column)).entries⟩ := by
  have names (name : String) :
      name ∈ (sourcePart source target raw).keys ↔ name ∈ source.columnNames :=
    mem_keys_sourcePart joined sourceIdentifiers
  rw [adaptJoined_eq joined.distinct]
  refine (if_neg flat).trans (flatten_entries ?_ ?_ ?_ (distinct_targetPart joined.distinct))
  · intro column _
    rw [names, Table.hasColumn_iff]
  · intro column _
    rw [names]
    exact fun member => sourceIdentifiers.noPoint member (point_mem_targetAlias target column)
  · intro column member
    exact noPoint_of_mem_targetPart joined sourceIdentifiers targetIdentifiers member

theorem keys_flat :
    (adaptJoined source target shape sourceColumn targetColumn raw).keys =
      (sourcePart source target raw).keys ++
        (targetPart target sourceColumn targetColumn raw).keys.map (source.flatName target) := by
  have renamed : ((targetPart target sourceColumn targetColumn raw).renamed fun column =>
      some (source.flatName target column)).keys =
        (targetPart target sourceColumn targetColumn raw).keys.map (source.flatName target) := by
    rw [OrderedMap.keys_renamed, ← List.filterMap_eq_map]
    rfl
  rw [adaptJoined_flat joined sourceIdentifiers targetIdentifiers flat, ← renamed]
  exact List.map_append

theorem get?_flat (key : String) :
    (adaptJoined source target shape sourceColumn targetColumn raw).get? key =
      ((sourcePart source target raw).get? key).or
        (((targetPart target sourceColumn targetColumn raw).renamed fun column =>
          some (source.flatName target column)).get? key) := by
  rw [adaptJoined_flat joined sourceIdentifiers targetIdentifiers flat]
  exact OrderedMap.lookup_append _ _

theorem get?_flat_source {name : String} (member : name ∈ source.columnNames) :
    (adaptJoined source target shape sourceColumn targetColumn raw).get? name =
      (raw.get? name).map (source.read name) := by
  rcases OrderedMap.exists_of_mem_keys
    ((mem_keys_sourcePart joined sourceIdentifiers).mpr member) with ⟨value, found⟩
  rw [get?_flat joined sourceIdentifiers targetIdentifiers flat,
    ← get?_sourcePart (sourceIdentifiers.noPoint member), found, Option.some_or]

theorem get?_flat_target {column : String}
    (kept : column ∈ keptColumns target sourceColumn targetColumn) :
    (adaptJoined source target shape sourceColumn targetColumn raw).get?
        (source.flatName target column) =
      (raw.get? (targetAlias target column)).map (target.read column) := by
  have notOfSource : (sourcePart source target raw).get? (source.flatName target column) = none :=
    get?_sourcePart_eq_none joined sourceIdentifiers
      (Table.flatName_notMem sourceIdentifiers column)
  have noPoint := targetIdentifiers.noPoint (mem_keptColumns.mp kept).1
  rw [get?_flat joined sourceIdentifiers targetIdentifiers flat, notOfSource, Option.none_or,
    get?_renamed_flatName joined sourceIdentifiers targetIdentifiers noPoint, get?_targetPart kept]

end IsJoined

/-! ## Nothing is lost -/

/-- A row that has what was selected of the source under the names that it has there, and after it
what was selected of the target under their names beside it, each value as its table reads it. -/
structure IsFlat (source target : Table) (sourceColumn targetColumn : String) (raw row : Row) :
    Prop where
  distinct : row.Distinct
  keys : row.keys = source.columnNames ++
    (keptColumns target sourceColumn targetColumn).map (source.flatName target)
  ofSource : ∀ name ∈ source.columnNames, row.get? name = (raw.get? name).map (source.read name)
  ofTarget : ∀ column ∈ keptColumns target sourceColumn targetColumn,
    row.get? (source.flatName target column) =
      (raw.get? (targetAlias target column)).map (target.read column)

/-- The rows of a join that are not nested lose nothing of what was selected. -/
theorem isFlat_adaptJoined {raw : Row} {shape : JoinShape} (sourceRegular : source.Regular)
    (targetRegular : target.Regular) (names : raw.keys = joinedNames source target)
    (flat : shape ≠ .oneToOne) (sourceColumn targetColumn : String) :
    IsFlat source target sourceColumn targetColumn raw
      (adaptJoined source target shape sourceColumn targetColumn raw) := by
  have joined := IsJoined.of_keys sourceRegular targetRegular names
  have identifiers := sourceRegular.identifiers
  have identifiers' := targetRegular.identifiers
  have keys_eq : (adaptJoined source target shape sourceColumn targetColumn raw).keys =
      source.columnNames ++
        (keptColumns target sourceColumn targetColumn).map (source.flatName target) := by
    rw [keys_flat joined identifiers identifiers' flat, keys_sourcePart_of_keys sourceRegular names,
      keys_targetPart_of_keys sourceRegular targetRegular names]
  refine ⟨?_, keys_eq, ?_, ?_⟩
  · rw [OrderedMap.Distinct, keys_eq, List.nodup_append]
    refine ⟨sourceRegular.distinct, ?_, ?_⟩
    · refine List.Nodup.map_on ?_ (targetRegular.distinct.filter _)
      intro column member other member' same
      exact (Table.flatName_inj (identifiers'.noPoint (mem_keptColumns.mp member').1)
        (identifiers'.noPoint (mem_keptColumns.mp member).1)).mp same
    · intro name member other member'
      rcases List.mem_map.mp member' with ⟨column, _, rfl⟩
      exact fun same => Table.flatName_notMem identifiers column (same ▸ member)
  · exact fun name member => get?_flat_source joined identifiers identifiers' flat member
  · exact fun column kept => get?_flat_target joined identifiers identifiers' flat kept

open Library in
/-- The number of cards is kept, and so is whether the reader is active and whether the card is. -/
theorem isFlat_issued :
    readers.Regular ∧ cards.Regular ∧ issued.keys = joinedNames readers cards ∧
      JoinShape.oneToMany ≠ .oneToOne ∧
      IsFlat readers cards "id" "id" issued
        (adaptJoined readers cards .oneToMany "id" "id" issued) ∧
      (adaptJoined readers cards .oneToMany "id" "id" issued).get? "cards.active" =
        some (.bool false) := by
  have notNested : JoinShape.oneToMany ≠ .oneToOne := by decide
  have flat := isFlat_adaptJoined regular_readers regular_cards keys_issued notNested "id" "id"
  exact ⟨regular_readers, regular_cards, keys_issued, notNested, flat,
    flat.ofTarget "active" (by decide)⟩

end Row
end DocumentQuery
