import DocumentQuery.Proofs.Rows.Casting
import DocumentQuery.Proofs.Text.Names
import DocumentQuery.Query.Adapt

namespace DocumentQuery

/-!
# The parts of a joined row

A joined row is selected under the names of the source columns, and under the name of the target
and a point before those of the target columns.  As no column name contains a point, the row is
taken apart into what was selected from each table, and nothing else: a name that has the prefix of
the target is the alias of exactly one of its columns.

The two parts are cast by their own tables.  A part is described by its names and by what is found
in it, and both are told in terms of the row that was selected; how the row was taken apart does not
matter any more after that.
-/

namespace Sql

/-- The name that a column has in a result: the last one that is written for it. -/
def outputName? (column : List Piece) : Option String :=
  match column.getLast? with
  | some (.name name) => some name
  | _ => none

/-- The names of the columns that are selected by a join. -/
def joinedNames (source target : Table) : List String :=
  (joinedColumns source target).filterMap outputName?

theorem outputName?_columnAs (path : List String) (name : String) :
    outputName? (columnAs path name) = some name := by
  rw [outputName?, columnAs, List.getLast?_append]
  rfl

/-- The columns of the source have their own names and those of the target their aliases. -/
theorem joinedNames_eq (source target : Table) : joinedNames source target =
    source.columnNames ++ target.columnNames.map (targetAlias target) := by
  rw [joinedNames, joinedColumns, List.filterMap_append, List.filterMap_map, List.filterMap_map]
  congr 1
  · exact (List.filterMap_congr fun name _ => outputName?_columnAs _ name).trans List.filterMap_some
  · rw [← List.filterMap_eq_map]
    exact List.filterMap_congr fun name _ => outputName?_columnAs _ _

theorem point_mem_targetAlias (target : Table) (column : String) :
    '.' ∈ (targetAlias target column).toList := by
  simp [targetAlias]

theorem targetAlias_inj {target : Table} {column other : String} :
    targetAlias target column = targetAlias target other ↔ column = other := by
  simp [targetAlias, ← String.toList_inj]

end Sql

open Sql

/-! ## Columns of tables -/

namespace Table

theorem hasColumn_iff {t : Table} {name : String} :
    t.hasColumn name = true ↔ name ∈ t.columnNames := by
  simp [hasColumn, column?, columnNames]

/-- The columns have identifiers for names. -/
def HasIdentifiers (t : Table) : Prop :=
  ∀ name ∈ t.columnNames, Name.isIdentifier name = true

instance (t : Table) : Decidable t.HasIdentifiers :=
  inferInstanceAs (Decidable (∀ name ∈ t.columnNames, Name.isIdentifier name = true))

theorem HasIdentifiers.noPoint {t : Table} (identifiers : t.HasIdentifiers) {name : String}
    (member : name ∈ t.columnNames) : '.' ∉ name.toList :=
  Name.isIdentifier_noPoint (identifiers name member)

/-- The columns have identifiers for names, and no two of them the same one. -/
structure Regular (t : Table) : Prop where
  identifiers : t.HasIdentifiers
  distinct : t.columnNames.Nodup

end Table

namespace Row

/-- A row as it is returned for a join: it has the names that are selected, each of them once. -/
structure IsJoined (source target : Table) (raw : Row) : Prop where
  distinct : raw.Distinct
  selected : ∀ name : String, name ∈ raw.keys ↔ name ∈ joinedNames source target

/-- The values of the row can be kept in a store, which has no records. -/
def IsPlain (row : Row) : Prop :=
  ∀ (name : String) (value : Value), row.get? name = some value → value.toRecord? = none

/-- A row that has values as they are read of another row is plain, if the other one is. -/
theorem IsPlain.of_read {row raw : Row} {t : Table} {selectedAs : String → String}
    (plain : raw.IsPlain) (reads : ∀ name ∈ row.keys,
      row.get? name = (raw.get? (selectedAs name)).map (t.read name)) : row.IsPlain := by
  intro name value found
  rw [reads name (OrderedMap.mem_keys_of_get? found)] at found
  rcases Option.map_eq_some_iff.mp found with ⟨selected, inRaw, rfl⟩
  exact t.toRecord?_read name (plain _ selected inRaw)

theorem IsPlain.noRecord {row : Row} (plain : row.IsPlain) (name : String) :
    (row.get? name).bind Value.toRecord? = none := by
  cases found : row.get? name with
  | none => rfl
  | some value => exact plain name value found

/-! ## Taking a row apart -/

open splitJoined

/-- A name stands for a column of the target exactly if it is the alias of that column. -/
theorem targetColumn?_eq_some_iff {target : Table} {name column : String} :
    targetColumn? target name = some column ↔
      name = targetAlias target column ∧ column ∈ target.columnNames := by
  have alias_toList : (targetAlias target column).toList =
      (target.name ++ ".").toList ++ column.toList := by
    rw [targetAlias, String.toList_append]
  rw [targetColumn?, ← Table.hasColumn_iff, ← String.toList_inj, alias_toList]
  constructor
  · intro found
    by_cases begins : (target.name ++ ".").toList.isPrefixOf name.toList = true
    · rw [if_pos begins] at found
      rcases List.isPrefixOf_iff_prefix.mp begins with ⟨rest, name_eq⟩
      rw [← name_eq, List.drop_left] at found
      by_cases known : target.hasColumn (String.ofList rest) = true
      · rw [if_pos known] at found
        cases found
        exact ⟨by rw [← name_eq, String.toList_ofList], known⟩
      · rw [if_neg known] at found
        exact nomatch found
    · rw [if_neg begins] at found
      exact nomatch found
  · rintro ⟨name_eq, known⟩
    rw [name_eq, if_pos (List.isPrefixOf_iff_prefix.mpr ⟨_, rfl⟩), List.drop_left,
      String.ofList_toList, if_pos known]

/-- A name that stands for no column of the target is a name of the source. -/
def sourceName? (target : Table) (name : String) : Option String :=
  if (targetColumn? target name).isNone then some name else none

theorem sourceName?_eq_some_iff {target : Table} {name other : String} :
    sourceName? target name = some other ↔ targetColumn? target name = none ∧ name = other := by
  rw [sourceName?]
  cases targetColumn? target name <;> simp

theorem targetColumn?_eq_none {target : Table} {name : String} (noPoint : '.' ∉ name.toList) :
    targetColumn? target name = none := by
  cases found : targetColumn? target name with
  | none => rfl
  | some column =>
      rw [(targetColumn?_eq_some_iff.mp found).1] at noPoint
      exact absurd (point_mem_targetAlias target column) noPoint

/-- The entries of a row go to the one part or the other, each in their order. -/
theorem foldl_splitJoined (target : Table) (entries : List (String × Value)) (parts : Row × Row) :
    entries.foldl (fun (source, inTarget) (name, value) =>
        match targetColumn? target name with
        | some column => (source, inTarget.insert column value)
        | none => (source.insert name value, inTarget)) parts =
      (parts.1.insertAll (OrderedMap.renamed (sourceName? target) ⟨entries⟩).entries,
        parts.2.insertAll (OrderedMap.renamed (targetColumn? target) ⟨entries⟩).entries) := by
  induction entries generalizing parts with
  | nil => rfl
  | cons entry rest inductionHypothesis =>
      rcases entry with ⟨name, value⟩
      rw [List.foldl_cons, inductionHypothesis]
      cases found : targetColumn? target name with
      | none =>
          have own : sourceName? target name = some name := sourceName?_eq_some_iff.mpr ⟨found, rfl⟩
          simp only [OrderedMap.renamed, List.filterMap_cons, found, own, Option.map_none,
            Option.map_some]
          rfl
      | some column =>
          have notOwn : sourceName? target name = none := by rw [sourceName?, found]; rfl
          simp only [OrderedMap.renamed, List.filterMap_cons, found, notOwn, Option.map_none,
            Option.map_some]
          rfl

variable {target : Table} {raw : Row}

theorem distinct_sourceNames (target : Table) (distinct : raw.Distinct) :
    (raw.renamed (sourceName? target)).Distinct :=
  distinct.renamed fun first second name found found' => by
    rw [(sourceName?_eq_some_iff.mp found).2, (sourceName?_eq_some_iff.mp found').2]

theorem distinct_targetColumns (target : Table) (distinct : raw.Distinct) :
    (raw.renamed (targetColumn? target)).Distinct :=
  distinct.renamed fun first second name found found' => by
    rw [(targetColumn?_eq_some_iff.mp found).1, (targetColumn?_eq_some_iff.mp found').1]

theorem splitJoined_eq (distinct : raw.Distinct) : splitJoined target raw =
    (raw.renamed (sourceName? target), raw.renamed (targetColumn? target)) := by
  have split := foldl_splitJoined target raw.entries (.empty, .empty)
  have source := OrderedMap.ofList_of_nodup (distinct_sourceNames target distinct)
  have inTarget := OrderedMap.ofList_of_nodup (distinct_targetColumns target distinct)
  exact split.trans (congrArg₂ Prod.mk source inTarget)

/-! ## The two parts -/

/-- What was selected from the source, cast. -/
def sourcePart (source target : Table) (raw : Row) : Row :=
  Row.cast source (raw.renamed (sourceName? target))

/-- What was selected from the target, cast, without the join column if that of the source has the
same name. -/
def targetPart (target : Table) (sourceColumn targetColumn : String) (raw : Row) : Row :=
  let selected := Row.cast target (raw.renamed (targetColumn? target))
  if sourceColumn = targetColumn then selected.erase targetColumn else selected

/-- The columns of the target that are kept: all but the join column, if that of the source has the
same name. -/
def keptColumns (target : Table) (sourceColumn targetColumn : String) : List String :=
  target.columnNames.filter fun column => ¬ (sourceColumn = targetColumn ∧ column = targetColumn)

theorem mem_keptColumns {sourceColumn targetColumn column : String} :
    column ∈ keptColumns target sourceColumn targetColumn ↔
      column ∈ target.columnNames ∧ ¬ (sourceColumn = targetColumn ∧ column = targetColumn) := by
  rw [keptColumns, List.mem_filter, decide_eq_true_iff]

theorem adaptJoined_eq {source : Table} (distinct : raw.Distinct) (shape : JoinShape)
    (sourceColumn targetColumn : String) :
    adaptJoined source target shape sourceColumn targetColumn raw =
      let inTarget := targetPart target sourceColumn targetColumn raw
      if shape = .oneToOne then
        (sourcePart source target raw).insert target.name (.record inTarget)
      else flatten target (sourcePart source target raw) inTarget := by
  rw [adaptJoined, splitJoined_eq distinct]
  cases shape <;> rfl

section

variable {source : Table} {sourceColumn targetColumn : String}

theorem keys_sourcePart :
    (sourcePart source target raw).keys = raw.keys.filterMap (sourceName? target) := by
  rw [sourcePart, keys_cast, OrderedMap.keys_renamed]

theorem distinct_sourcePart (distinct : raw.Distinct) :
    (sourcePart source target raw).Distinct := by
  rw [OrderedMap.Distinct, sourcePart, keys_cast]
  exact distinct_sourceNames target distinct

theorem distinct_selectedTarget (distinct : raw.Distinct) :
    (Row.cast target (raw.renamed (targetColumn? target))).Distinct := by
  rw [OrderedMap.Distinct, keys_cast]
  exact distinct_targetColumns target distinct

theorem distinct_targetPart (distinct : raw.Distinct) :
    (targetPart target sourceColumn targetColumn raw).Distinct := by
  rw [targetPart]
  split
  · exact (distinct_selectedTarget distinct).erase targetColumn
  · exact distinct_selectedTarget distinct

theorem keys_targetPart (distinct : raw.Distinct) :
    (targetPart target sourceColumn targetColumn raw).keys =
      (raw.keys.filterMap (targetColumn? target)).filter fun column =>
        ¬ (sourceColumn = targetColumn ∧ column = targetColumn) := by
  have selected : (Row.cast target (raw.renamed (targetColumn? target))).keys =
      raw.keys.filterMap (targetColumn? target) := by
    rw [keys_cast, OrderedMap.keys_renamed]
  rw [targetPart]
  split
  · rename_i same
    rw [OrderedMap.keys_erase, List.Nodup.erase_eq_filter (distinct_selectedTarget distinct),
      selected]
    refine List.filter_congr fun column _ => ?_
    by_cases dropped : column = targetColumn <;> simp [same, dropped]
  · rename_i different
    rw [selected]
    refine (List.filter_eq_self.mpr fun column _ => ?_).symm
    simp [different]

theorem get?_sourcePart {name : String} (noPoint : '.' ∉ name.toList) :
    (sourcePart source target raw).get? name = (raw.get? name).map (source.read name) := by
  rw [sourcePart, get?_cast]
  congr 1
  refine OrderedMap.get?_renamed fun other _ => ?_
  rw [sourceName?_eq_some_iff]
  refine ⟨And.right, ?_⟩
  rintro rfl
  exact ⟨targetColumn?_eq_none noPoint, rfl⟩

theorem get?_targetPart {column : String}
    (kept : column ∈ keptColumns target sourceColumn targetColumn) :
    (targetPart target sourceColumn targetColumn raw).get? column =
      (raw.get? (targetAlias target column)).map (target.read column) := by
  rcases mem_keptColumns.mp kept with ⟨member, notDropped⟩
  have selected : (Row.cast target (raw.renamed (targetColumn? target))).get? column =
      (raw.get? (targetAlias target column)).map (target.read column) := by
    rw [get?_cast]
    congr 1
    refine OrderedMap.get?_renamed fun other _ => ?_
    rw [targetColumn?_eq_some_iff]
    exact and_iff_left member
  rw [targetPart]
  split
  · rename_i same
    exact (OrderedMap.get?_erase_of_ne _ fun dropped => notDropped ⟨same, dropped⟩).trans selected
  · exact selected

/-! ## The names of the two parts -/

/-- Of the names that a join selects, those of the source stand for themselves. -/
theorem filterMap_sourceName? (target : Table) (identifiers : source.HasIdentifiers) :
    (joinedNames source target).filterMap (sourceName? target) = source.columnNames := by
  have own : source.columnNames.filterMap (sourceName? target) = source.columnNames := by
    refine (List.filterMap_congr fun name member => ?_).trans List.filterMap_some
    exact sourceName?_eq_some_iff.mpr ⟨targetColumn?_eq_none (identifiers.noPoint member), rfl⟩
  have others :
      (target.columnNames.map (targetAlias target)).filterMap (sourceName? target) = [] := by
    rw [List.filterMap_eq_nil_iff]
    intro name member
    rcases List.mem_map.mp member with ⟨column, known, rfl⟩
    rw [sourceName?, targetColumn?_eq_some_iff.mpr ⟨rfl, known⟩]
    rfl
  rw [joinedNames_eq, List.filterMap_append, own, others, List.append_nil]

/-- And the aliases for the columns of the target. -/
theorem filterMap_targetColumn? (target : Table) (identifiers : source.HasIdentifiers) :
    (joinedNames source target).filterMap (targetColumn? target) = target.columnNames := by
  have others : source.columnNames.filterMap (targetColumn? target) = [] := by
    rw [List.filterMap_eq_nil_iff]
    exact fun name member => targetColumn?_eq_none (identifiers.noPoint member)
  have own : (target.columnNames.map (targetAlias target)).filterMap (targetColumn? target) =
      target.columnNames := by
    rw [List.filterMap_map]
    refine (List.filterMap_congr fun column known => ?_).trans List.filterMap_some
    exact targetColumn?_eq_some_iff.mpr ⟨rfl, known⟩
  rw [joinedNames_eq, List.filterMap_append, own, others, List.nil_append]

section IsJoined

variable (joined : IsJoined source target raw) (identifiers : source.HasIdentifiers)

include joined identifiers

theorem mem_keys_sourcePart {name : String} :
    name ∈ (sourcePart source target raw).keys ↔ name ∈ source.columnNames := by
  rw [keys_sourcePart, ← filterMap_sourceName? target identifiers]
  simp only [List.mem_filterMap, joined.selected]

theorem mem_keys_targetPart {column : String} :
    column ∈ (targetPart target sourceColumn targetColumn raw).keys ↔
      column ∈ keptColumns target sourceColumn targetColumn := by
  rw [keys_targetPart joined.distinct, mem_keptColumns, List.mem_filter, decide_eq_true_iff,
    ← filterMap_targetColumn? target identifiers]
  simp only [List.mem_filterMap, joined.selected]

theorem get?_sourcePart_eq_none {name : String} (notMember : name ∉ source.columnNames) :
    (sourcePart source target raw).get? name = none := by
  rwa [OrderedMap.get?_eq_none_iff, mem_keys_sourcePart joined identifiers]

/-- Nothing of the source is found under a name with a point. -/
theorem get?_sourcePart_of_point {name : String} (point : '.' ∈ name.toList) :
    (sourcePart source target raw).get? name = none :=
  get?_sourcePart_eq_none joined identifiers fun member => identifiers.noPoint member point

theorem get?_targetPart_eq_none {column : String}
    (notKept : column ∉ keptColumns target sourceColumn targetColumn) :
    (targetPart target sourceColumn targetColumn raw).get? column = none := by
  rwa [OrderedMap.get?_eq_none_iff, mem_keys_targetPart joined identifiers]

theorem isPlain_sourcePart (plain : raw.IsPlain) : (sourcePart source target raw).IsPlain :=
  plain.of_read fun _ member =>
    get?_sourcePart (identifiers.noPoint ((mem_keys_sourcePart joined identifiers).mp member))

variable (sourceColumn targetColumn) in
theorem isPlain_targetPart (plain : raw.IsPlain) :
    (targetPart target sourceColumn targetColumn raw).IsPlain :=
  plain.of_read fun _ member =>
    get?_targetPart ((mem_keys_targetPart joined identifiers).mp member)

theorem noPoint_of_mem_targetPart (targetIdentifiers : target.HasIdentifiers) {column : String}
    (member : column ∈ (targetPart target sourceColumn targetColumn raw).keys) :
    '.' ∉ column.toList :=
  targetIdentifiers.noPoint
    (mem_keptColumns.mp ((mem_keys_targetPart joined identifiers).mp member)).1

end IsJoined

/-! ## Rows in the order of the selection -/

section Regular

variable (sourceRegular : source.Regular) (targetRegular : target.Regular)
  (names : raw.keys = joinedNames source target)

include sourceRegular names

include targetRegular in
theorem IsJoined.of_keys : IsJoined source target raw where
  distinct := by
    rw [OrderedMap.Distinct, names, joinedNames_eq, List.nodup_append]
    refine ⟨sourceRegular.distinct, ?_, ?_⟩
    · exact targetRegular.distinct.map fun _ _ same => targetAlias_inj.mp same
    · intro name member other member'
      rcases List.mem_map.mp member' with ⟨column, _, rfl⟩
      exact fun same => sourceRegular.identifiers.noPoint member
        (same ▸ point_mem_targetAlias target column)
  selected := fun name => by rw [names]

theorem keys_sourcePart_of_keys : (sourcePart source target raw).keys = source.columnNames := by
  rw [keys_sourcePart, names, filterMap_sourceName? target sourceRegular.identifiers]

include targetRegular in
theorem keys_targetPart_of_keys :
    (targetPart target sourceColumn targetColumn raw).keys =
      keptColumns target sourceColumn targetColumn := by
  rw [keys_targetPart (IsJoined.of_keys sourceRegular targetRegular names).distinct, names,
    filterMap_targetColumn? target sourceRegular.identifiers, keptColumns]

end Regular

end

end Row

/-! ## A library

The readers of a library have cards, and both may be active.  How many cards there are for a reader
is written in a column that is named like the table of the cards.
-/

namespace Library

def readers : Table :=
  ⟨"default", "readers", [{ name := "id", type := .integer },
    { name := "active", type := .boolean }, { name := "cards", type := .integer }]⟩

def cards : Table :=
  ⟨"default", "cards", [{ name := "id", type := .integer },
    { name := "active", type := .boolean }, { name := "place", type := .text }]⟩

/-- A reader and a card of the same number, as the store returns them. -/
def issued : Row :=
  ⟨[("id", .integer 1), ("active", .integer 1), ("cards", .integer 2), ("cards.id", .integer 1),
    ("cards.active", .integer 0), ("cards.place", .text "Bern")]⟩

theorem regular_readers : readers.Regular :=
  ⟨by decide, by decide⟩

theorem regular_cards : cards.Regular :=
  ⟨by decide, by decide⟩

theorem keys_issued : issued.keys = Sql.joinedNames readers cards := by
  decide

theorem isPlain_issued : issued.IsPlain := by
  intro name value found
  simp only [issued, OrderedMap.get?, OrderedMap.lookup] at found
  repeat' split at found
  all_goals cases found <;> rfl

end Library
end DocumentQuery
