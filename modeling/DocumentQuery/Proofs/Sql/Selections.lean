import DocumentQuery.Proofs.Sql.Statements
import DocumentQuery.Proofs.Text.Names

namespace DocumentQuery

open Sql

/-!
# What an accepted query writes

The references, the names of results and the join columns of a query are checked one after the
other while its statement is built.  What is written in the end does not depend on the checks: it is
a function of the query and of how the scope writes references.
-/

namespace Sql

/-! ## References -/

namespace Scope

variable {scope : Scope} {reference name : String} {table : Table}

/-- The table has the column of a reference and, if the reference is qualified, its name. -/
def owns (reference : String) (table : Table) : Bool :=
  (match (Reference.ofText reference).qualifier with
    | some qualifier => table.name == Text.lowercase qualifier
    | none => true) && table.hasColumn (Reference.ofText reference).column

/-- A reference is owned by the first table that owns it. -/
theorem owner?_eq (scope : Scope) (reference : String) :
    scope.owner? reference = (scope.tables.find? (owns reference)).map fun table =>
      (table, (Reference.ofText reference).column) := by
  unfold owner? owns
  rcases Reference.ofText_cases reference with ⟨reads, _⟩ | ⟨qualifier, column, reads, _, _⟩
  · simp only [reads, Bool.true_and]
  · simp only [reads]

theorem owner?_name (owned : scope.owner? reference = some (table, name)) :
    name = (Reference.ofText reference).column := by
  rw [owner?_eq] at owned
  rcases Option.map_eq_some_iff.mp owned with ⟨_, _, same⟩
  exact (Prod.mk.inj same).2.symm

theorem owner?_mem (owned : scope.owner? reference = some (table, name)) :
    table ∈ scope.tables ∧ table.hasColumn name = true := by
  rw [owner?_eq] at owned
  rcases Option.map_eq_some_iff.mp owned with ⟨_, found, same⟩
  cases same
  have owns : owns reference table = true := List.find?_some found
  exact ⟨List.mem_of_find?_eq_some found, (Bool.and_eq_true_iff.mp owns).2⟩

/-- However a reference is written, its last name is that of the column. -/
theorem getLast?_path (scope : Scope) (reference : String) :
    (scope.path reference).getLast? = some (Reference.ofText reference).column := by
  have own : (Reference.ofText reference).path.getLast? =
      some (Reference.ofText reference).column := by
    rw [Reference.path]
    split <;> rfl
  rw [path]
  cases owned : scope.owner? reference with
  | none => exact own
  | some found =>
      rcases found with ⟨table, name⟩
      rw [← owner?_name owned] at own ⊢
      dsimp only
      split
      · rfl
      · exact own

end Scope

/-! ## Orders and tables -/

/-- An order, with its references written as they are told. -/
def orderWritten (path : String → List String) (order : List (String × Direction)) : List Piece :=
  if order.isEmpty then []
  else .word " ORDER BY " :: separated ", " (order.map fun entry =>
    pathPieces (path entry.1) ++ [.word (" " ++ entry.2.word)])

theorem orderClause_eq {path : String → List String} {order : List (String × Direction)}
    {pieces : List Piece} (accepted : orderClause path order = .ok pieces) :
    pieces = orderWritten path order := by
  rw [orderClause] at accepted
  rw [orderWritten]
  by_cases empty : order.isEmpty = true
  · rw [if_pos empty] at accepted ⊢
    exact (Except.ok.inj accepted).symm
  · rw [if_neg empty] at accepted ⊢
    rcases bind_ok accepted with ⟨parts, partsAccepted, accepted⟩
    cases accepted
    congr 2
    apply eq_map_of_mapM_ok partsAccepted
    rintro ⟨column, direction⟩ part partAccepted
    rcases bind_ok partAccepted with ⟨_, _, partAccepted⟩
    exact (Except.ok.inj partAccepted).symm

def tablesWritten (source : Table) : Option (Join × Table) → List Piece
  | none => [.name source.storeName]
  | some (join, target) =>
    .name source.storeName :: .word " INNER JOIN " :: .name target.storeName :: .word " ON " ::
      pathPieces [source.storeName, join.sourceColumn] ++
      .word " = " :: pathPieces [target.storeName, join.targetColumn]

theorem fromClause_eq {source : Table} {join? : Option (Join × Table)} {pieces : List Piece}
    (accepted : fromClause source join? = .ok pieces) : pieces = tablesWritten source join? := by
  cases join? with
  | none => exact (Except.ok.inj accepted).symm
  | some join =>
      rcases bind_ok accepted with ⟨_, _, accepted⟩
      rcases bind_ok accepted with ⟨_, _, accepted⟩
      exact (Except.ok.inj accepted).symm

end Sql

/-! ## Groups -/

namespace Grouping

/-- A column that is grouped by, as it is selected: under its own name, in a join. -/
def columnWritten (scope : Scope) (column : String) : List Piece :=
  if scope.target?.isSome then columnAs (scope.path column) (Reference.ofText column).column
  else pathPieces (scope.path column)

/-- A result, as it is selected under its name. -/
def resultWritten (scope : Scope) (a : Aggregation) : List Piece :=
  .word (a.function.name ++ "(") ::
    (if a.column = "*" then [.word "*"] else pathPieces (scope.path a.column)) ++
    [.word ") AS ", .name a.name]

/-- The columns of the result: those that are grouped by, then the aggregations. -/
def selected (scope : Scope) (g : Grouping) : List (List Piece) :=
  g.columns.map (columnWritten scope) ++ g.aggregations.map (resultWritten scope)

def groupsWritten (scope : Scope) (g : Grouping) : List Piece :=
  if g.columns.isEmpty then []
  else .word " GROUP BY " :: separated ", " (g.columns.map fun column =>
    pathPieces (scope.path column))

end Grouping

namespace Sql

variable {scope : Scope}

theorem groupColumn_eq {column : String} {parts : List Piece × List Piece}
    (accepted : groupColumn scope column = .ok parts) :
    parts = (pathPieces (scope.path column), Grouping.columnWritten scope column) ∧
      ∃ table, scope.owner? column = some (table, (Reference.ofText column).column) := by
  rcases bind_ok accepted with ⟨_, _, accepted⟩
  rcases bind_ok accepted with ⟨⟨table, name⟩, found, accepted⟩
  have owned := orReject_eq_ok found
  have name_eq := Scope.owner?_name owned
  subst name_eq
  exact ⟨(Except.ok.inj accepted).symm, table, owned⟩

theorem aggregateColumn_eq {a : Aggregation} {pieces : List Piece}
    (accepted : aggregateColumn scope a = .ok pieces) :
    pieces = Grouping.resultWritten scope a := by
  rcases bind_ok accepted with ⟨_, _, accepted⟩
  rcases bind_ok accepted with ⟨argument, argumentAccepted, accepted⟩
  rw [aggregateArgument] at argumentAccepted
  cases accepted
  rw [Grouping.resultWritten]
  by_cases wholeRows : a.column = "*"
  · rw [if_pos wholeRows] at argumentAccepted ⊢
    rcases bind_ok argumentAccepted with ⟨_, _, argumentAccepted⟩
    cases argumentAccepted
    rfl
  · rw [if_neg wholeRows] at argumentAccepted ⊢
    rcases bind_ok argumentAccepted with ⟨_, _, argumentAccepted⟩
    rcases bind_ok argumentAccepted with ⟨_, _, argumentAccepted⟩
    cases argumentAccepted
    rfl

theorem groupParts_eq {g : Grouping} {parts : List (List Piece) × List (List Piece)}
    (accepted : groupParts scope g = .ok parts) :
    parts = (g.selected scope, g.columns.map fun column => pathPieces (scope.path column)) := by
  rcases bind_ok accepted with ⟨_, _, accepted⟩
  rcases bind_ok accepted with ⟨columns, columnsAccepted, accepted⟩
  rcases bind_ok accepted with ⟨results, resultsAccepted, accepted⟩
  have columns_eq := eq_map_of_mapM_ok columnsAccepted fun _ _ given => (groupColumn_eq given).1
  have results_eq := eq_map_of_mapM_ok resultsAccepted fun _ _ given => aggregateColumn_eq given
  cases accepted
  rw [columns_eq, results_eq, List.map_map, List.map_map]
  rfl

theorem selected_ne_nil {g : Grouping} {parts : List (List Piece) × List (List Piece)}
    (accepted : groupParts scope g = .ok parts) : g.selected scope ≠ [] := by
  rcases bind_ok accepted with ⟨_, notEmpty, _⟩
  intro nothing
  rcases List.append_eq_nil_iff.mp nothing with ⟨noColumns, noResults⟩
  rw [List.map_eq_nil_iff] at noColumns noResults
  rw [noColumns, noResults] at notEmpty
  exact nomatch notEmpty

/-- Every column that is grouped by belongs to a table of the query. -/
theorem owner?_of_groupParts {g : Grouping} {parts : List (List Piece) × List (List Piece)}
    (accepted : groupParts scope g = .ok parts) {column : String} (member : column ∈ g.columns) :
    ∃ table, scope.owner? column = some (table, (Reference.ofText column).column) := by
  rcases bind_ok accepted with ⟨_, _, accepted⟩
  rcases bind_ok accepted with ⟨columns, columnsAccepted, _⟩
  rcases exists_of_mapM_ok columnsAccepted member with ⟨_, _, given⟩
  exact (groupColumn_eq given).2

end Sql

/-! ## Queries -/

namespace Query

def selected (q : Query) (scope : Scope) : List Piece :=
  match q.grouping? with
  | none => plainColumns scope
  | some g => separated ", " (g.selected scope)

def groupsWritten (q : Query) (scope : Scope) : List Piece :=
  match q.grouping? with
  | none => []
  | some g => g.groupsWritten scope

/-- How the order of a query writes its references: in groups, the names of results come first. -/
def orderPath (q : Query) (scope : Scope) : String → List String :=
  match q.grouping? with
  | none => scope.path
  | some g => groupedPath scope g

/-- The frame of a query in a scope with the given tables. -/
def frameWritten (q : Query) (scope : Scope) (tables : List Piece) : Frame where
  before := .word "SELECT " :: q.selected scope ++ .word " FROM " :: tables ++ [.word " WHERE "]
  between := q.groupsWritten scope
  after := orderWritten (q.orderPath scope) q.order ++ limitClause q.limit?

variable {q : Query} {source : Table} {target? : Option Table}

theorem frame_eq {scope : Scope} {frame : Frame}
    (accepted : q.frame source target? = .ok (scope, frame)) :
    ∃ join?, joinWith q target? = .ok join? ∧ scope = ⟨source, join?.map Prod.snd⟩ ∧
      frame = q.frameWritten scope (tablesWritten source join?) ∧
      ∀ g : Grouping, q.grouping? = some g → ∃ parts, groupParts scope g = .ok parts := by
  rcases bind_ok accepted with ⟨join?, joins, accepted⟩
  rcases bind_ok accepted with ⟨tables, tablesAccepted, accepted⟩
  rw [fromClause_eq tablesAccepted] at accepted
  cases grouping : q.grouping? with
  | none =>
      rw [grouping] at accepted
      rcases bind_ok accepted with ⟨found, frameAccepted, accepted⟩
      rcases bind_ok frameAccepted with ⟨order, orderAccepted, frameAccepted⟩
      cases frameAccepted
      cases accepted
      refine ⟨join?, joins, rfl, ?_, fun _ none => nomatch none⟩
      simp only [frameWritten, selected, groupsWritten, orderPath, grouping,
        orderClause_eq orderAccepted]
  | some g =>
      rw [grouping] at accepted
      rcases bind_ok accepted with ⟨found, frameAccepted, accepted⟩
      rcases bind_ok frameAccepted with ⟨parts, partsAccepted, frameAccepted⟩
      rcases bind_ok frameAccepted with ⟨order, orderAccepted, frameAccepted⟩
      cases frameAccepted
      cases accepted
      refine ⟨join?, joins, rfl, ?_, ?_⟩
      · simp only [frameWritten, selected, groupsWritten, orderPath, grouping,
          Grouping.groupsWritten, orderClause_eq orderAccepted, groupParts_eq partsAccepted,
          List.isEmpty_map]
      · rintro _ ⟨rfl⟩
        exact ⟨parts, partsAccepted⟩

/-- The statement of an accepted query on a table, and on another one if there is a join. -/
structure Written (q : Query) (source : Table) (join? : Option (Join × Table))
    (statement : Statement) : Prop where
  params : q.operands ⟨source, join?.map Prod.snd⟩ = .ok statement.params
  pieces : statement.pieces = q.written ⟨source, join?.map Prod.snd⟩
    (q.frameWritten ⟨source, join?.map Prod.snd⟩ (tablesWritten source join?))
  groups : ∀ g : Grouping, q.grouping? = some g →
    ∃ parts, groupParts ⟨source, join?.map Prod.snd⟩ g = .ok parts

theorem exists_written {statement : Statement}
    (accepted : Sql.select q source target? = .ok statement) :
    ∃ join?, joinWith q target? = .ok join? ∧ q.Written source join? statement := by
  rcases (select_iff q source target? statement).mp accepted with
    ⟨scope, frame, framed, params, pieces⟩
  rcases frame_eq framed with ⟨join?, joins, rfl, rfl, groups⟩
  exact ⟨join?, joins, params, pieces, groups⟩

end Query
end DocumentQuery
