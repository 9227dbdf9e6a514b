import DocumentQuery.Proofs.Rows.Entries
import DocumentQuery.Proofs.Rows.Joined
import DocumentQuery.Proofs.Sql.Selections

namespace DocumentQuery

open Sql

/-!
# The names of grouped results

The store gives each selected column a name: the name that is written for it, or without one the
last name of its path.  A row keeps one value for each name.  So a grouped row has all columns that
are selected if no name is given twice, which no check of a query excludes: a result may have the
name of a column that is grouped by or of another result, and columns of both tables may have one
name.

The names are read off the statement, whose select list ends at the tables and has commas between
its columns.
-/

namespace Sql

theorem separated_eq_intercalate (separator : String) (parts : List (List Piece)) :
    separated separator parts = [Piece.word separator].intercalate parts := by
  induction parts with
  | nil => rfl
  | cons part rest inductionHypothesis =>
      cases rest with
      | nil => simp [separated]
      | cons next others =>
          rw [separated, inductionHypothesis, List.intercalate_cons_cons]
          simp

theorem mem_separated {separator : String} {parts : List (List Piece)} {piece : Piece}
    (member : piece ∈ separated separator parts) :
    piece = .word separator ∨ ∃ part ∈ parts, piece ∈ part := by
  induction parts with
  | nil => exact nomatch member
  | cons part rest inductionHypothesis =>
      cases rest with
      | nil => exact .inr ⟨part, List.mem_cons_self, member⟩
      | cons next others =>
          rcases List.mem_append.mp member with here | later
          · exact .inr ⟨part, List.mem_cons_self, here⟩
          · rcases List.mem_cons.mp later with separates | later
            · exact .inl separates
            · rcases inductionHypothesis later with separates | ⟨found, foundMember, inFound⟩
              · exact .inl separates
              · exact .inr ⟨found, List.mem_cons_of_mem part foundMember, inFound⟩

namespace Statement

/-- The columns that a statement selects, as they are written. -/
def selectList (s : Statement) : List (List Piece) :=
  ((s.pieces.drop 1).takeWhile (· ≠ .word " FROM ")).splitOn (.word ", ")

/-- The names of the columns of the result of a statement. -/
def resultNames (s : Statement) : List String :=
  s.selectList.filterMap outputName?

/-- A select list is read off its statement if none of its columns has a word that ends one. -/
theorem selectList_eq {s : Statement} {columns : List (List Piece)} {rest : List Piece}
    (pieces : s.pieces =
      .word "SELECT " :: (separated ", " columns ++ .word " FROM " :: rest))
    (nonempty : columns ≠ []) (noComma : ∀ column ∈ columns, .word ", " ∉ column)
    (noTables : ∀ column ∈ columns, .word " FROM " ∉ column) : s.selectList = columns := by
  have listed : ∀ piece ∈ separated ", " columns, decide (piece ≠ .word " FROM ") = true := by
    intro piece member
    rw [decide_eq_true_eq]
    rintro rfl
    rcases mem_separated member with separates | ⟨column, columnMember, found⟩
    · exact absurd separates (by decide)
    · exact noTables column columnMember found
  have ends : (Piece.word " FROM " :: rest).takeWhile (· ≠ .word " FROM ") = [] := by simp
  rw [selectList, pieces, List.drop_one, List.tail_cons, List.takeWhile_append_of_pos listed, ends,
    List.append_nil, separated_eq_intercalate]
  exact List.splitOn_intercalate _ noComma nonempty

end Statement

/-! ## Columns and results -/

theorem word_notMem_pathPieces {word : String} (notPoint : word ≠ ".") (path : List String) :
    Piece.word word ∉ pathPieces path := by
  fun_induction pathPieces path with
  | case1 => exact List.not_mem_nil
  | case2 name => simp
  | case3 name next rest inductionHypothesis => simp [notPoint, inductionHypothesis]

theorem outputName?_pathPieces {path : List String} {name : String}
    (last : path.getLast? = some name) : outputName? (pathPieces path) = some name := by
  have last_eq : (pathPieces path).getLast? = path.getLast?.map Piece.name := by
    clear last
    fun_induction pathPieces path with
    | case1 => rfl
    | case2 name => rfl
    | case3 first next rest inductionHypothesis =>
        have nonempty : pathPieces (next :: rest) ≠ [] := by cases rest <;> simp [pathPieces]
        rcases List.exists_cons_of_ne_nil nonempty with ⟨piece, others, pieces_eq⟩
        rw [List.getLast?_cons_cons, List.getLast?_cons_cons, ← inductionHypothesis, pieces_eq,
          List.getLast?_cons_cons]
  rw [outputName?, last_eq, last]
  rfl

end Sql

namespace Grouping

variable {scope : Scope}

/-- The names of the results of a grouping: those of its columns, without qualifiers, and those of
its aggregations. -/
def resultNames (g : Grouping) : List String :=
  (g.columns.map fun column => (Reference.ofText column).column) ++
    g.aggregations.map Aggregation.name

theorem filterMap_selected (scope : Scope) (g : Grouping) :
    (g.selected scope).filterMap outputName? = g.resultNames := by
  have columnName (column : String) :
      outputName? (columnWritten scope column) = some (Reference.ofText column).column := by
    rw [columnWritten]
    split
    · exact outputName?_columnAs _ _
    · exact outputName?_pathPieces (scope.getLast?_path column)
  have resultName (a : Aggregation) : outputName? (resultWritten scope a) = some a.name := by
    rw [outputName?, resultWritten, List.getLast?_append]
    rfl
  rw [selected, List.filterMap_append, List.filterMap_map, List.filterMap_map, resultNames]
  congr 1
  · rw [← List.filterMap_eq_map]
    exact List.filterMap_congr fun column _ => columnName column
  · rw [← List.filterMap_eq_map]
    exact List.filterMap_congr fun a _ => resultName a

/-- No selected column has a word that stands between columns or behind the last one. -/
theorem word_notMem_selected {word : String} (separates : word = ", " ∨ word = " FROM ")
    (g : Grouping) (scope : Scope) : ∀ column ∈ g.selected scope, .word word ∉ column := by
  have notPoint : word ≠ "." := by rcases separates with rfl | rfl <;> decide
  have notAs : word ≠ " AS " := by rcases separates with rfl | rfl <;> decide
  have notStar : word ≠ "*" := by rcases separates with rfl | rfl <;> decide
  have notCall (f : AggregateFunction) : word ≠ f.name ++ "(" := by
    rcases separates with rfl | rfl <;> cases f <;> decide
  have notEnd : word ≠ ") AS " := by rcases separates with rfl | rfl <;> decide
  have notPath := word_notMem_pathPieces notPoint
  intro column member
  rcases List.mem_append.mp member with isColumn | isResult
  · rcases List.mem_map.mp isColumn with ⟨name, _, rfl⟩
    rw [columnWritten]
    split
    · simp [columnAs, notPath, notAs]
    · exact notPath _
  · rcases List.mem_map.mp isResult with ⟨a, _, rfl⟩
    rw [resultWritten]
    split
    · simp [notCall, notStar, notEnd]
    · simp [notCall, notPath, notEnd]

end Grouping

namespace Query

variable {q : Query} {g : Grouping} {source : Table} {target? : Option Table}
  {statement : Statement}

/-- The statement of a grouped query gives its results the names of the grouping. -/
theorem resultNames_eq (grouped : q.grouping? = some g)
    (accepted : Sql.select q source target? = .ok statement) :
    statement.resultNames = g.resultNames := by
  rcases exists_written accepted with ⟨join?, _, written⟩
  rcases written.groups g grouped with ⟨parts, partsAccepted⟩
  have pieces := written.pieces
  simp only [Query.written, frameWritten, Query.selected, grouped, List.append_assoc,
    List.cons_append] at pieces
  rw [Statement.resultNames, Statement.selectList_eq pieces (selected_ne_nil partsAccepted)
    (g.word_notMem_selected (.inl rfl) _) (g.word_notMem_selected (.inr rfl) _),
    Grouping.filterMap_selected]

/-- A grouped row has all values that the store returns exactly if the names of the columns that
are grouped by, without qualifiers, and the names of the aggregations are all different. -/
theorem grouped_row_iff (grouped : q.grouping? = some g)
    (accepted : Sql.select q source target? = .ok statement) :
    statement.resultNames =
        (g.columns.map fun column => (Reference.ofText column).column) ++
          g.aggregations.map Aggregation.name ∧
      ((∀ values : List Value, values.length = statement.resultNames.length →
          (OrderedMap.ofList (statement.resultNames.zip values)).entries =
            statement.resultNames.zip values) ↔
        statement.resultNames.Nodup) ∧
      (statement.resultNames.Nodup ↔
        (g.columns.map fun column => (Reference.ofText column).column).Nodup ∧
          (g.aggregations.map Aggregation.name).Nodup ∧
          ∀ column ∈ g.columns, ∀ a ∈ g.aggregations,
            (Reference.ofText column).column ≠ a.name) := by
  have names_eq := resultNames_eq grouped accepted
  refine ⟨names_eq, ?_, ?_⟩
  · simp only [OrderedMap.entries_ofList_iff]
    constructor
    · intro kept
      have lengths := List.length_replicate (n := statement.resultNames.length) (a := Value.null)
      have distinct := kept _ lengths
      rwa [List.map_fst_zip (Nat.le_of_eq lengths.symm)] at distinct
    · intro distinct values lengths
      rwa [List.map_fst_zip (Nat.le_of_eq lengths.symm)]
  · rw [names_eq, Grouping.resultNames, List.nodup_append]
    simp only [List.forall_mem_map]

open Library in
/-- Cards are counted by their places, and the counts take the name of the places. -/
theorem grouped_row_places :
    let places : Grouping := ⟨["cards.place"], [⟨.count, "*", "place", []⟩]⟩
    ∃ statement : Statement,
      Sql.select { grouping? := some places } cards none = .ok statement ∧
        statement.resultNames = ["place", "place"] ∧
        ¬ ∀ values : List Value, values.length = statement.resultNames.length →
          (OrderedMap.ofList (statement.resultNames.zip values)).entries =
            statement.resultNames.zip values := by
  intro places
  have built : ∃ statement, Sql.select { grouping? := some places } cards none = .ok statement :=
    ⟨_, rfl⟩
  rcases built with ⟨statement, accepted⟩
  rcases grouped_row_iff rfl accepted with ⟨names_eq, row_iff, _⟩
  refine ⟨statement, accepted, names_eq, ?_⟩
  rw [row_iff, names_eq]
  decide

end Query
end DocumentQuery
