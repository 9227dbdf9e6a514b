import DocumentQuery.Proofs.Rows.Joined

namespace DocumentQuery

/-!
# Nested joined rows

Where a source row has one target row, what was selected of the target is one record, and the record
is inserted into what was selected of the source under the name of the target.  Inserting replaces:
a column of the source that is named like the target is not there any more, and no alias keeps the
two apart.  Every other column of the source and all of the record are there.
-/

open Sql

namespace Row

variable {source target : Table} {raw : Row} {sourceColumn targetColumn : String}

theorem adaptJoined_nested (distinct : raw.Distinct) :
    adaptJoined source target .oneToOne sourceColumn targetColumn raw =
      (sourcePart source target raw).insert target.name
        (.record (targetPart target sourceColumn targetColumn raw)) := by
  rw [adaptJoined_eq distinct]
  exact if_pos rfl

theorem get?_nested (distinct : raw.Distinct) (name : String) :
    (adaptJoined source target .oneToOne sourceColumn targetColumn raw).get? name =
      if name = target.name then some (.record (targetPart target sourceColumn targetColumn raw))
      else (sourcePart source target raw).get? name := by
  rw [adaptJoined_nested distinct]
  split
  · rename_i same
    rw [same, OrderedMap.get?_insert_self]
  · rename_i different
    exact OrderedMap.get?_insert_of_ne _ _ different

/-- A row that has a record of what was selected of the target, under the name of the target, and
what was selected of the source in all columns but one of that name. -/
structure IsNested (source target : Table) (sourceColumn targetColumn : String) (raw row : Row) :
    Prop where
  distinct : row.Distinct
  keys : row.keys = if target.name ∈ source.columnNames then source.columnNames
    else source.columnNames ++ [target.name]
  ofSource : ∀ name ∈ source.columnNames,
    row.get? name = (raw.get? name).map (source.read name) ↔ name ≠ target.name
  ofTarget : ∃ nested : Row, row.get? target.name = some (.record nested) ∧
    nested.keys = keptColumns target sourceColumn targetColumn ∧
    ∀ column ∈ keptColumns target sourceColumn targetColumn,
      nested.get? column = (raw.get? (targetAlias target column)).map (target.read column)

/-- The rows of a nested join lose a column of the source exactly if it is named like the target. -/
theorem isNested_adaptJoined (sourceRegular : source.Regular) (targetRegular : target.Regular)
    (names : raw.keys = joinedNames source target) (plain : raw.IsPlain)
    (sourceColumn targetColumn : String) :
    IsNested source target sourceColumn targetColumn raw
      (adaptJoined source target .oneToOne sourceColumn targetColumn raw) := by
  have joined := IsJoined.of_keys sourceRegular targetRegular names
  refine ⟨?_, ?_, ?_, ?_⟩
  · rw [adaptJoined_nested joined.distinct]
    exact (distinct_sourcePart joined.distinct).insert target.name _
  · rw [adaptJoined_nested joined.distinct, OrderedMap.keys_insert,
      keys_sourcePart_of_keys sourceRegular names]
  · intro name member
    rw [get?_nested joined.distinct]
    split
    · rename_i same
      refine iff_of_false (fun kept => ?_) (not_not_intro same)
      rcases Option.map_eq_some_iff.mp kept.symm with ⟨value, found, isRecord⟩
      have plainRead := source.toRecord?_read name (plain name value found)
      rw [isRecord] at plainRead
      exact nomatch plainRead
    · rename_i different
      exact iff_of_true (get?_sourcePart (sourceRegular.identifiers.noPoint member)) different
  · refine ⟨targetPart target sourceColumn targetColumn raw, ?_, ?_, ?_⟩
    · rw [get?_nested joined.distinct, if_pos rfl]
    · exact keys_targetPart_of_keys sourceRegular targetRegular names
    · exact fun column kept => get?_targetPart kept

open Library in
/-- The number of cards is lost to the card, and whether the reader is active is not. -/
theorem isNested_issued :
    readers.Regular ∧ cards.Regular ∧ issued.keys = joinedNames readers cards ∧ issued.IsPlain ∧
      IsNested readers cards "id" "id" issued
        (adaptJoined readers cards .oneToOne "id" "id" issued) ∧
      (adaptJoined readers cards .oneToOne "id" "id" issued).get? "cards" ≠ some (.integer 2) ∧
      (adaptJoined readers cards .oneToOne "id" "id" issued).get? "active" = some (.bool true) := by
  have nested := isNested_adaptJoined regular_readers regular_cards keys_issued isPlain_issued
    "id" "id"
  refine ⟨regular_readers, regular_cards, keys_issued, isPlain_issued, nested, fun kept => ?_, ?_⟩
  · exact (nested.ofSource "cards" (by decide)).mp kept rfl
  · exact (nested.ofSource "active" (by decide)).mpr (by decide)

end Row
end DocumentQuery
