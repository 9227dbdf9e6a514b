import DocumentQuery.Proofs.Sql.Operands
import DocumentQuery.Sql.Delete
import DocumentQuery.Sql.Select

namespace DocumentQuery

open Sql

/-!
# What a statement consists of

Each statement is accepted exactly if its operands are, it binds exactly these, and its
pieces are fixed words and names around what its parts write.  The parts are numbered in the
order in which they are read: changes before the filter, the filter before the condition on
groups.
-/

namespace Sql

/-- A statement is accepted with the operands of its builder and what that writes from the
start. -/
theorem Builds.build_iff {builder : Binder (List Piece)}
    {operands : Except QueryError (List Scalar)} {arity : Nat} {written : Nat → List Piece}
    (builds : Builds builder operands arity written) (statement : Statement) :
    Statement.build builder = .ok statement ↔
      operands = .ok statement.params ∧ statement.pieces = written 0 := by
  rcases statement with ⟨pieces, params⟩
  rw [Statement.build, builds.run_eq]
  cases operands with
  | error error =>
      constructor
      · exact fun accepted => nomatch accepted
      · exact fun accepted => nomatch accepted.1
  | ok values =>
      constructor
      · intro accepted
        cases accepted
        exact ⟨rfl, rfl⟩
      · rintro ⟨bound, rfl⟩
        cases bound
        rfl

end Sql

/-! ## Deletes and counts -/

theorem Sql.builds_whereIn (table : Table) (f : Filter) :
    Builds (whereIn table f) (f.operands (.ofScope (.single table))) f.arity
      (f.written (.ofScope (.single table))) :=
  builds_whereClause (.ofScope (.single table)) f

theorem Sql.delete_iff (table : Table) (f : Filter) (statement : Statement) :
    delete table f = .ok statement ↔
      f.operands (.ofScope (.single table)) = .ok statement.params ∧
        statement.pieces = .word "DELETE FROM " :: .name table.storeName :: .word " WHERE " ::
          (f.written (.ofScope (.single table)) 0).pieces :=
  ((builds_whereIn table f).map fun condition : Expr =>
    Piece.word "DELETE FROM " :: .name table.storeName :: .word " WHERE " ::
      condition.pieces).build_iff statement

theorem Sql.count_iff (table : Table) (f : Filter) (statement : Statement) :
    count table f = .ok statement ↔
      f.operands (.ofScope (.single table)) = .ok statement.params ∧
        statement.pieces = .word "SELECT count(*) AS " :: .name "count" :: .word " FROM " ::
          .name table.storeName :: .word " WHERE " ::
          (f.written (.ofScope (.single table)) 0).pieces :=
  ((builds_whereIn table f).map fun condition : Expr =>
    Piece.word "SELECT count(*) AS " :: .name "count" :: .word " FROM " ::
      .name table.storeName :: .word " WHERE " :: condition.pieces).build_iff statement

/-! ## Updates -/

namespace Changes

/-- The operand of the change of a column of a table, which must exist. -/
def entryOperands (table : Table) (entry : String × Change) : Except QueryError (List Scalar) := do
  require (Name.isIdentifier entry.1) (.invalidColumnName entry.1)
  let type ← orReject (table.columnType? entry.1) (.noColumn table.storeName entry.1)
  entry.2.operands entry.1 type

/-- The assignment of the change of a column of a table. -/
def entryWritten (table : Table) (entry : String × Change) (bound : Nat) : List Piece :=
  match table.columnType? entry.1 with
  | some type =>
    pathPieces (Reference.ofText entry.1).path ++
      .word " = " :: (entry.2.written entry.1 type bound).pieces
  | none => []

/-- The operands of the changes of a table, of which there must be one at least. -/
def operands (table : Table) (changes : Changes) : Except QueryError (List Scalar) := do
  require (!changes.entries.isEmpty) .nothingToUpdate
  operandsOf (entryOperands table) changes.entries

def arity (changes : Changes) : Nat :=
  arityOf (fun _ => 1) changes.entries

/-- The assignments of changes after so many bound scalars. -/
def written (table : Table) (changes : Changes) (bound : Nat) : List (List Piece) :=
  writtenOf (fun _ => 1) (entryWritten table) bound changes.entries

end Changes

theorem Sql.builds_assignmentIn (table : Table) (entry : String × Change) :
    Builds (assignmentIn table entry.1 entry.2) (Changes.entryOperands table entry) 1
      (Changes.entryWritten table entry) := by
  refine Builds.check fun _ _ => Builds.check fun type known => ?_
  have builds := (builds_changedValue entry.1 type entry.2).map fun value =>
    pathPieces (Reference.ofText entry.1).path ++ .word " = " :: value.pieces
  have written_eq : Changes.entryWritten table entry = fun bound =>
      pathPieces (Reference.ofText entry.1).path ++
        .word " = " :: (entry.2.written entry.1 type bound).pieces := by
    funext bound
    rw [Changes.entryWritten, orReject_eq_ok known]
  rw [written_eq]
  exact builds

theorem Sql.update_iff (table : Table) (changes : Changes) (f : Filter) (statement : Statement) :
    update table changes f = .ok statement ↔
      (do
        let values ← changes.operands table
        let others ← f.operands (.ofScope (.single table))
        pure (values ++ others)) = .ok statement.params ∧
        statement.pieces = .word "UPDATE " :: .name table.storeName :: .word " SET " ::
          separated ", " (changes.written table 0) ++ .word " WHERE " ::
          (f.written (.ofScope (.single table)) changes.arity).pieces := by
  have assignments := builds_mapM changes.entries fun entry _ => builds_assignmentIn table entry
  have builds := assignments.bind fun assignments =>
    (builds_whereIn table f).map fun condition : Expr =>
      Piece.word "UPDATE " :: .name table.storeName :: .word " SET " ::
        separated ", " assignments ++ .word " WHERE " :: condition.pieces
  have accepted := builds.build_iff statement
  rw [Nat.zero_add] at accepted
  rw [update, Changes.operands]
  cases changes.entries.isEmpty with
  | true => exact iff_of_false (fun refused => nomatch refused) fun refused => nomatch refused.1
  | false => exact accepted

theorem Changes.length_operands {table : Table} {changes : Changes} {values : List Scalar}
    (accepted : changes.operands table = .ok values) : values.length = changes.arity := by
  rcases bind_ok accepted with ⟨_, _, accepted⟩
  have assignments := builds_mapM changes.entries fun entry _ => builds_assignmentIn table entry
  exact assignments.length_eq values accepted

/-! ## Inserts -/

namespace Row

/-- The operand of a column of a row. -/
def entryOperands (table : Table) (entry : String × Value) : Except QueryError (List Scalar) := do
  let type ← orReject (table.columnType? entry.1) (.noColumn table.storeName entry.1)
  let stored ← type.stored entry.2
  pure [stored]

/-- The operands of a row, one for each of its columns. -/
def operands (table : Table) (row : Row) : Except QueryError (List Scalar) :=
  operandsOf (entryOperands table) row.entries

/-- The pieces of the statement that inserts a row. -/
def inserted (table : Table) (row : Row) : List Piece :=
  if row.isEmpty then
    [.word "INSERT INTO ", .name table.storeName, .word " DEFAULT VALUES"]
  else
    .word "INSERT INTO " :: .name table.storeName :: .word "(" ::
      separated ", " (row.keys.map fun name => [.name name]) ++ .word ") VALUES(" ::
      paramPieces (List.range' 1 row.keys.length) ++ [.word ")"]

end Row

theorem Sql.builds_insertedColumn (table : Table) (entry : String × Value) :
    Builds (insertedColumn table entry.1 entry.2) (Row.entryOperands table entry) 1
      fun bound => (entry.1, bound + 1) :=
  Builds.check fun _ _ => Builds.check fun stored _ =>
    (builds_bind stored).map fun number => (entry.1, number)

/-- The columns of a row are numbered in their order. -/
theorem Sql.writtenOf_insertedColumn (bound : Nat) (entries : List (String × Value)) :
    writtenOf (fun _ => 1) (fun entry bound => (entry.1, bound + 1)) bound entries =
      (entries.map Prod.fst).zip (List.range' (bound + 1) entries.length) := by
  induction entries generalizing bound with
  | nil => rfl
  | cons entry rest inductionHypothesis =>
      rw [writtenOf, inductionHypothesis, List.map_cons, List.length_cons, List.range'_succ,
        List.zip_cons_cons]

theorem Sql.insert_iff (table : Table) (row : Row) (statement : Statement) :
    insert table row = .ok statement ↔
      row.operands table = .ok statement.params ∧ statement.pieces = row.inserted table := by
  rcases row with ⟨entries⟩
  cases entries with
  | nil =>
      rcases statement with ⟨pieces, params⟩
      constructor
      · intro accepted
        cases accepted
        exact ⟨rfl, rfl⟩
      · rintro ⟨bound, rfl⟩
        cases bound
        rfl
  | cons entry rest =>
      let insertedPieces (columns : List (String × Nat)) : List Piece :=
        .word "INSERT INTO " :: .name table.storeName :: .word "(" ::
          separated ", " (columns.map fun column => [.name column.1]) ++ .word ") VALUES(" ::
          paramPieces (columns.map Prod.snd) ++ [.word ")"]
      have notEmpty : ¬ (OrderedMap.mk (entry :: rest)).isEmpty = true := Bool.false_ne_true
      have columns := builds_mapM (entry :: rest) fun entry _ => builds_insertedColumn table entry
      have insert_eq : insert table ⟨entry :: rest⟩ = Statement.build (do
          let columns ← (entry :: rest).mapM fun entry => insertedColumn table entry.1 entry.2
          pure (insertedPieces columns)) := by
        have ran := columns.run_eq []
        rw [insert, if_neg notEmpty, Statement.build, StateT.run_bind, ran]
        cases operandsOf (Row.entryOperands table) (entry :: rest) <;> rfl
      have pieces_eq : insertedPieces (writtenOf (fun _ => 1)
          (fun entry bound => (entry.1, bound + 1)) 0 (entry :: rest)) =
          Row.inserted table ⟨entry :: rest⟩ := by
        have lengths : ((entry :: rest).map Prod.fst).length =
            (List.range' (0 + 1) (entry :: rest).length).length := by
          rw [List.length_map, List.length_range']
        have names_eq : (fun column : String × Nat => [Piece.name column.1]) =
            (fun name => [Piece.name name]) ∘ Prod.fst := rfl
        rw [writtenOf_insertedColumn, Row.inserted, if_neg notEmpty]
        simp only [insertedPieces]
        rw [names_eq, ← List.map_map, List.map_fst_zip (Nat.le_of_eq lengths),
          List.map_snd_zip (Nat.le_of_eq lengths.symm), OrderedMap.keys, List.length_map]
      rw [insert_eq, (columns.map insertedPieces).build_iff statement, pieces_eq]
      rfl

theorem Row.length_operands {table : Table} {row : Row} {values : List Scalar}
    (accepted : row.operands table = .ok values) : values.length = row.keys.length := by
  have columns := builds_mapM row.entries fun entry _ => builds_insertedColumn table entry
  rw [columns.length_eq values accepted, OrderedMap.keys, List.length_map]
  induction row.entries with
  | nil => rfl
  | cons entry rest inductionHypothesis =>
      rw [arityOf, inductionHypothesis, List.length_cons, Nat.add_comm]

/-! ## Queries -/

namespace Filter

/-- The operands of a condition on groups.  The empty condition is left out. -/
def groupOperands (f : Filter) : Except QueryError (List Scalar) :=
  if f.isEmpty then .ok [] else f.operands .results

def groupArity (f : Filter) : Nat :=
  if f.isEmpty then 0 else f.arity

/-- What a condition on groups writes after so many bound scalars. -/
def groupWritten (f : Filter) (bound : Nat) : List Piece :=
  if f.isEmpty then [] else .word " HAVING " :: (f.written .results bound).pieces

end Filter

theorem Sql.builds_havingClause (f : Filter) :
    Builds (havingClause f) f.groupOperands f.groupArity f.groupWritten := by
  unfold havingClause Filter.groupOperands Filter.groupArity Filter.groupWritten
  by_cases empty : f.isEmpty = true
  · simp only [if_pos empty]
    exact Builds.pure []
  · simp only [if_neg empty]
    exact (builds_whereClause .results f).map fun condition =>
      Piece.word " HAVING " :: condition.pieces

namespace Query

/-- What a query writes apart from its conditions: what stands before the filter, between
the filter and the condition on groups, and at the end. -/
structure Frame where
  before : List Piece
  between : List Piece
  after : List Piece

def plainColumns (scope : Scope) : List Piece :=
  match scope.target? with
  | some target => separated ", " (joinedColumns scope.source target)
  | none => [.word "*"]

def plainFrame (q : Query) (scope : Scope) (tables : List Piece) : Except QueryError Frame := do
  let order ← orderClause scope.path q.order
  pure ⟨.word "SELECT " :: plainColumns scope ++ .word " FROM " :: tables ++ [.word " WHERE "], [],
    order ++ limitClause q.limit?⟩

def groupedFrame (q : Query) (g : Grouping) (scope : Scope) (tables : List Piece) :
    Except QueryError Frame := do
  let (selected, groupColumns) ← groupParts scope g
  let groups :=
    if groupColumns.isEmpty then [] else .word " GROUP BY " :: separated ", " groupColumns
  let order ← orderClause (groupedPath scope g) q.order
  pure ⟨.word "SELECT " :: separated ", " selected ++ .word " FROM " :: tables ++
    [.word " WHERE "], groups, order ++ limitClause q.limit?⟩

/-- The scope and the frame of a query.  No operand of a condition is looked at. -/
def frame (q : Query) (source : Table) (target? : Option Table) :
    Except QueryError (Scope × Frame) := do
  let join? ← joinWith q target?
  let scope : Scope := ⟨source, join?.map Prod.snd⟩
  let tables ← fromClause source join?
  let frame ← match q.grouping? with
    | none => q.plainFrame scope tables
    | some g => q.groupedFrame g scope tables
  pure (scope, frame)

/-- The condition of a query on its groups. -/
def groupFilter (q : Query) : Filter :=
  match q.grouping? with
  | none => .all
  | some g => g.havingFilter

/-- The operands of a query: those of its filter, then those of its condition on groups. -/
def operands (q : Query) (scope : Scope) : Except QueryError (List Scalar) := do
  let values ← q.filter.operands (.ofScope scope)
  let others ← q.groupFilter.groupOperands
  pure (values ++ others)

/-- The pieces of the statement of a query. -/
def written (q : Query) (scope : Scope) (frame : Frame) : List Piece :=
  frame.before ++ (q.filter.written (.ofScope scope) 0).pieces ++ frame.between ++
    q.groupFilter.groupWritten q.filter.arity ++ frame.after

end Query

theorem Sql.Builds.not_built {builder : Binder (List Piece)}
    {operands : Except QueryError (List Scalar)} {arity : Nat} {written : Nat → List Piece}
    (builds : Builds builder operands arity written)
    (refused : ∀ values : List Scalar, operands ≠ .ok values) (statement : Statement) :
    ¬ Statement.build builder = .ok statement := by
  rw [builds.build_iff statement]
  exact fun accepted => refused statement.params accepted.1

/-- A frame that is given is the only one there is. -/
private theorem frame_iff {frame : Query.Frame} {refused : Prop} {holds : Query.Frame → Prop}
    (accepted : refused ↔ holds frame) :
    refused ↔
      ∃ found, (.ok frame : Except QueryError Query.Frame) = .ok found ∧ holds found := by
  constructor
  · exact fun refusal => ⟨frame, rfl, accepted.mp refusal⟩
  · rintro ⟨found, same, held⟩
    cases same
    exact accepted.mpr held

theorem Sql.plainSelect_iff (q : Query) (scope : Scope) (tables : List Piece)
    (statement : Statement) (plain : q.grouping? = none) :
    Statement.build (plainSelect q scope tables) = .ok statement ↔
      ∃ frame, q.plainFrame scope tables = .ok frame ∧
        q.operands scope = .ok statement.params ∧ statement.pieces = q.written scope frame := by
  have filter := builds_whereClause (.ofScope scope) q.filter
  rw [plainSelect, Query.plainFrame]
  cases orderClause scope.path q.order with
  | error error =>
      have refused := filter.bind fun _ => Builds.refused error 0 fun _ => ([] : List Piece)
      refine iff_of_false (refused.not_built ?_ statement) ?_
      · intro values
        cases q.filter.operands (.ofScope scope) <;> exact fun accepted => nomatch accepted
      · simp only [error_bind, reduceCtorEq, false_and, exists_false, not_false_eq_true]
  | ok order =>
      apply frame_iff
      have noGroups : q.groupFilter = .all := by rw [Query.groupFilter, plain]
      have operands_eq : q.operands scope = q.filter.operands (.ofScope scope) := by
        rw [Query.operands, noGroups]
        cases q.filter.operands (.ofScope scope) with
        | error _ => rfl
        | ok values => exact congrArg Except.ok (List.append_nil values)
      have noPieces (bound : Nat) : q.groupFilter.groupWritten bound = [] := by rw [noGroups]; rfl
      rw [operands_eq, Query.written, noPieces]
      simp only [List.append_nil, List.append_assoc, List.cons_append, List.nil_append]
      exact (filter.map fun condition => _).build_iff statement

theorem Sql.groupedSelect_iff (q : Query) (g : Grouping) (scope : Scope) (tables : List Piece)
    (statement : Statement) (grouped : q.grouping? = some g) :
    Statement.build (groupedSelect q g scope tables) = .ok statement ↔
      ∃ frame, q.groupedFrame g scope tables = .ok frame ∧
        q.operands scope = .ok statement.params ∧ statement.pieces = q.written scope frame := by
  have filter := builds_whereClause (.ofScope scope) q.filter
  have having := builds_havingClause g.havingFilter
  have groups_eq : q.groupFilter = g.havingFilter := by rw [Query.groupFilter, grouped]
  rw [groupedSelect, Query.groupedFrame]
  cases groupParts scope g with
  | error error =>
      refine iff_of_false (fun refused => nomatch refused) ?_
      simp only [error_bind, reduceCtorEq, false_and, exists_false, not_false_eq_true]
  | ok parts =>
      simp only [ok_bind]
      cases orderClause (groupedPath scope g) q.order with
      | error error =>
          have refused := filter.bind fun _ => having.bind fun _ =>
            Builds.refused error 0 fun _ => ([] : List Piece)
          refine iff_of_false (refused.not_built ?_ statement) ?_
          · intro values
            cases q.filter.operands (.ofScope scope) <;> cases g.havingFilter.groupOperands <;>
              exact fun accepted => nomatch accepted
          · simp only [error_bind, reduceCtorEq, false_and, exists_false, not_false_eq_true]
      | ok order =>
          apply frame_iff
          have conditions := filter.bind fun condition => having.map fun groups =>
            Piece.word "SELECT " :: separated ", " parts.1 ++ .word " FROM " :: tables ++
              .word " WHERE " :: condition.pieces ++
              (if parts.2.isEmpty then [] else .word " GROUP BY " :: separated ", " parts.2) ++
              groups ++ order ++ limitClause q.limit?
          have accepted := conditions.build_iff statement
          rw [Nat.zero_add] at accepted
          rw [Query.operands, Query.written, groups_eq]
          simp only [List.append_assoc, List.cons_append, List.nil_append] at accepted ⊢
          exact accepted

/-- A frame is given together with the scope in which it was made. -/
private theorem scoped_iff {frame? : Except QueryError Query.Frame} (scope : Scope)
    (holds : Scope → Query.Frame → Prop) :
    (∃ frame, frame? = .ok frame ∧ holds scope frame) ↔
      ∃ found frame, (frame? >>= fun frame => pure (scope, frame)) = .ok (found, frame) ∧
        holds found frame := by
  cases frame? with
  | error error => simp only [error_bind, reduceCtorEq, false_and, exists_false]
  | ok frame =>
      constructor
      · rintro ⟨found, same, held⟩
        cases same
        exact ⟨scope, frame, rfl, held⟩
      · rintro ⟨found, other, same, held⟩
        cases same
        exact ⟨frame, rfl, held⟩

/-- A query is accepted exactly if its frame and its operands are. -/
theorem Sql.select_iff (q : Query) (source : Table) (target? : Option Table)
    (statement : Statement) :
    select q source target? = .ok statement ↔
      ∃ scope frame, q.frame source target? = .ok (scope, frame) ∧
        q.operands scope = .ok statement.params ∧ statement.pieces = q.written scope frame := by
  rw [select, Query.frame]
  cases joinWith q target? with
  | error error => simp only [error_bind, reduceCtorEq, false_and, exists_false]
  | ok join? =>
      simp only [ok_bind]
      cases fromClause source join? with
      | error error => simp only [error_bind, reduceCtorEq, false_and, exists_false]
      | ok tables =>
          simp only [ok_bind]
          let scope : Scope := ⟨source, join?.map Prod.snd⟩
          let holds (scope : Scope) (frame : Query.Frame) : Prop :=
            q.operands scope = .ok statement.params ∧ statement.pieces = q.written scope frame
          cases grouping : q.grouping? with
          | none =>
              rw [plainSelect_iff q scope tables statement grouping]
              exact scoped_iff scope holds
          | some g =>
              rw [groupedSelect_iff q g scope tables statement grouping]
              exact scoped_iff scope holds

end DocumentQuery
