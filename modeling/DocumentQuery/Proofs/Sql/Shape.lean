import DocumentQuery.Proofs.Sql.Requests

namespace DocumentQuery

open Sql

/-!
# The shape of what is asked for

The *shape* of a filter, a change, a row or a query is what remains of it when every literal
is replaced by a fixed one.  Names, operators, the lengths of lists and whether an operand
of equality is null belong to the shape; nothing else of a literal does.

What a statement says depends on the shape of what is asked for, and therefore no literal
can change it.  A literal reaches a statement as a bound scalar or not at all.
-/

/-! ## Shapes -/

namespace Predicate

/-- The predicate without its literals.  Only a test for null shows in the shape whether its
operand was null. -/
def shape : Predicate → Predicate
  | .compare .eq .null => .compare .eq .null
  | .compare .ne .null => .compare .ne .null
  | .compare relation _ => .compare relation (.bool true)
  | .like _ => .like .null
  | .notLike _ => .notLike .null
  | .oneOf items => .oneOf (items.map fun _ => .null)
  | .noneOf items => .noneOf (items.map fun _ => .null)
  | .contains _ => .contains .null
  | .lacks _ => .lacks .null

theorem arity_shape (p : Predicate) : p.shape.arity = p.arity := by
  cases p with
  | compare relation operand => cases relation <;> cases operand <;> rfl
  | oneOf items => exact List.length_map _
  | noneOf items => exact List.length_map _
  | _ => rfl

theorem written_shape (column : Expr) (p : Predicate) :
    p.shape.written column = p.written column := by
  funext bound
  cases p with
  | compare relation operand => cases relation <;> cases operand <;> rfl
  | oneOf items => rw [shape, written, written, List.length_map]
  | noneOf items => rw [shape, written, written, List.length_map]
  | _ => rfl

end Predicate

def Condition.shape (c : Condition) : Condition :=
  ⟨c.column, c.predicates.map Predicate.shape⟩

def Filter.shape (f : Filter) : Filter :=
  ⟨f.conditions.map Condition.shape⟩

def Change.shape : Change → Change
  | .set _ => .set .null
  | .increase _ => .increase .null
  | .decrease _ => .decrease .null
  | .multiply _ => .multiply .null
  | .add _ => .add .null
  | .remove _ => .remove .null

def Changes.shape (changes : Changes) : Changes :=
  ⟨changes.entries.map fun entry => (entry.1, entry.2.shape)⟩

def Row.shape (row : Row) : Row :=
  ⟨row.entries.map fun entry => (entry.1, .null)⟩

def Aggregation.shape (a : Aggregation) : Aggregation :=
  { a with predicates := a.predicates.map Predicate.shape }

def Grouping.shape (g : Grouping) : Grouping :=
  { g with aggregations := g.aggregations.map Aggregation.shape }

def Query.shape (q : Query) : Query :=
  { q with filter := q.filter.shape, grouping? := q.grouping?.map Grouping.shape }

/-! ## What is written depends on the shape -/

section

variable {α β : Type} {shape : β → β} {arity : β → Nat} {written : β → Nat → α}

theorem arityOf_shape (arity_shape : ∀ part : β, arity (shape part) = arity part)
    (parts : List β) : arityOf arity (parts.map shape) = arityOf arity parts := by
  induction parts with
  | nil => rfl
  | cons part rest inductionHypothesis =>
      rw [List.map_cons, arityOf, arityOf, arity_shape, inductionHypothesis]

theorem writtenOf_shape (arity_shape : ∀ part : β, arity (shape part) = arity part)
    (written_shape : ∀ part : β, written (shape part) = written part) (bound : Nat)
    (parts : List β) :
    writtenOf arity written bound (parts.map shape) = writtenOf arity written bound parts := by
  induction parts generalizing bound with
  | nil => rfl
  | cons part rest inductionHypothesis =>
      rw [List.map_cons, writtenOf, writtenOf, arity_shape, written_shape, inductionHypothesis]

end

theorem Condition.arity_shape (c : Condition) : c.shape.arity = c.arity :=
  arityOf_shape Predicate.arity_shape c.predicates

theorem Condition.written_shape (columns : Columns) (c : Condition) :
    c.shape.written columns = c.written columns := by
  funext bound
  rw [Condition.written, Condition.written, Condition.shape]
  rw [writtenOf_shape Predicate.arity_shape (Predicate.written_shape _)]

theorem Filter.isEmpty_shape (f : Filter) : f.shape.isEmpty = f.isEmpty := by
  rw [Filter.isEmpty, Filter.shape, List.isEmpty_map]
  rfl

theorem Filter.arity_shape (f : Filter) : f.shape.arity = f.arity := by
  rw [Filter.arity, Filter.arity, isEmpty_shape, Filter.shape,
    arityOf_shape Condition.arity_shape]

theorem Filter.written_shape (columns : Columns) (f : Filter) :
    f.shape.written columns = f.written columns := by
  funext bound
  rw [Filter.written, Filter.written, isEmpty_shape, Filter.shape,
    writtenOf_shape Condition.arity_shape (Condition.written_shape columns)]

theorem Filter.groupWritten_shape (f : Filter) : f.shape.groupWritten = f.groupWritten := by
  funext bound
  rw [Filter.groupWritten, Filter.groupWritten, isEmpty_shape, written_shape]

theorem Change.written_shape (column : String) (type : ColumnType) (change : Change) :
    change.shape.written column type = change.written column type := by
  cases change <;> rfl

theorem Changes.arity_shape (changes : Changes) : changes.shape.arity = changes.arity := by
  rw [Changes.arity, Changes.arity, Changes.shape, arityOf_shape]
  exact fun _ => rfl

theorem Changes.written_shape (table : Table) (changes : Changes) :
    changes.shape.written table = changes.written table := by
  have entry_shape (entry : String × Change) :
      entryWritten table (entry.1, entry.2.shape) = entryWritten table entry := by
    funext bound
    rw [entryWritten, entryWritten]
    cases table.columnType? entry.1 with
    | none => rfl
    | some type => simp only [Change.written_shape]
  funext bound
  rw [Changes.written, Changes.written, Changes.shape, writtenOf_shape]
  · exact fun _ => rfl
  · exact entry_shape

theorem Row.keys_shape (row : Row) : row.shape.keys = row.keys := by
  rw [OrderedMap.keys, Row.shape, List.map_map]
  rfl

theorem Row.inserted_shape (table : Table) (row : Row) :
    row.shape.inserted table = row.inserted table := by
  have isEmpty_shape : row.shape.isEmpty = row.isEmpty := List.isEmpty_map
  rw [Row.inserted, Row.inserted, isEmpty_shape, keys_shape]

/-! ## Queries -/

/-- Requiring one more predicate and leaving out literals may be done in either order. -/
theorem Filter.shape_push (f : Filter) (column : String) (p : Predicate) :
    (f.push column p).shape = f.shape.push column p.shape := by
  rcases f with ⟨conditions⟩
  apply congrArg Filter.mk
  change (Condition.add column p conditions).map Condition.shape =
    Condition.add column p.shape (conditions.map Condition.shape)
  induction conditions with
  | nil => rfl
  | cons c rest inductionHypothesis =>
      rw [Condition.add, List.map_cons, Condition.add]
      by_cases same : c.column = column
      · rw [if_pos same, if_pos (show c.shape.column = column from same)]
        simp [Condition.shape]
      · rw [if_neg same, if_neg (show ¬ c.shape.column = column from same), List.map_cons,
          inductionHypothesis]

theorem Grouping.havingFilter_shape (g : Grouping) :
    g.shape.havingFilter = g.havingFilter.shape := by
  have pushed (name : String) (predicates : List Predicate) (f : Filter) :
      (predicates.map Predicate.shape).foldl (fun f p => f.push name p) f.shape =
        (predicates.foldl (fun f p => f.push name p) f).shape := by
    induction predicates generalizing f with
    | nil => rfl
    | cons p rest inductionHypothesis =>
        rw [List.map_cons, List.foldl_cons, List.foldl_cons, ← Filter.shape_push,
          inductionHypothesis]
  have all (aggregations : List Aggregation) (f : Filter) :
      (aggregations.map Aggregation.shape).foldl
          (fun f a => a.predicates.foldl (fun f p => f.push a.name p) f) f.shape =
        (aggregations.foldl
          (fun f a => a.predicates.foldl (fun f p => f.push a.name p) f) f).shape := by
    induction aggregations generalizing f with
    | nil => rfl
    | cons a rest inductionHypothesis =>
        rw [List.map_cons, List.foldl_cons, List.foldl_cons, ← inductionHypothesis, ← pushed]
        rfl
  exact all g.aggregations .all

theorem Query.groupFilter_shape (q : Query) : q.shape.groupFilter = q.groupFilter.shape := by
  rw [Query.groupFilter, Query.groupFilter, Query.shape]
  cases q.grouping? with
  | none => rfl
  | some g => exact g.havingFilter_shape

theorem Grouping.parts_shape (scope : Scope) (g : Grouping) :
    groupParts scope g.shape = groupParts scope g := by
  have results_shape : g.shape.aggregations.mapM (aggregateColumn scope) =
      g.aggregations.mapM (aggregateColumn scope) := by
    rw [Grouping.shape, List.mapM_map]
    rfl
  have isEmpty_shape : g.shape.aggregations.isEmpty = g.aggregations.isEmpty := List.isEmpty_map
  rw [groupParts, groupParts, results_shape, isEmpty_shape]
  rfl

theorem Grouping.path_shape (scope : Scope) (g : Grouping) :
    groupedPath scope g.shape = groupedPath scope g := by
  funext column
  rw [groupedPath, groupedPath, Grouping.shape, List.any_map]
  rfl

theorem Query.frame_shape (q : Query) (source : Table) (target? : Option Table) :
    q.shape.frame source target? = q.frame source target? := by
  have grouped (g : Grouping) (scope : Scope) (tables : List Piece) :
      q.shape.groupedFrame g.shape scope tables = q.groupedFrame g scope tables := by
    rw [groupedFrame, groupedFrame, Grouping.parts_shape, Grouping.path_shape]
    rfl
  have join_shape : joinWith q.shape target? = joinWith q target? := rfl
  have grouping_shape : q.shape.grouping? = q.grouping?.map Grouping.shape := rfl
  rw [frame, frame, join_shape, grouping_shape]
  cases q.grouping? with
  | none => rfl
  | some g => simp only [Option.map_some, grouped]

theorem Query.written_shape (q : Query) (scope : Scope) (frame : Frame) :
    q.shape.written scope frame = q.written scope frame := by
  have filter_shape : q.shape.filter = q.filter.shape := rfl
  rw [written, written, groupFilter_shape, Filter.groupWritten_shape, filter_shape,
    Filter.written_shape, Filter.arity_shape]

/-! ## Requests -/

namespace Request

/-- What is asked for, without the literals.  Of the scalars that are bound before a filter
only their number matters. -/
def shape : Request → Request
  | filter params f => filter (params.map fun _ => .null) f.shape
  | tableFilter table params f => tableFilter table (params.map fun _ => .null) f.shape
  | select q source target? => select q.shape source target?
  | count table f => count table f.shape
  | delete table f => delete table f.shape
  | update table changes f => update table changes.shape f.shape
  | insert table row => insert table row.shape

theorem written_shape (r : Request) : r.shape.written = r.written := by
  cases r with
  | filter params f => rw [shape, written, written, List.length_map, Filter.written_shape]
  | tableFilter table params f =>
      rw [shape, written, written, List.length_map, Filter.written_shape]
  | select q source target? =>
      simp only [shape, written, Query.frame_shape, Query.written_shape]
  | count table f => rw [shape, written, written, Filter.written_shape]
  | delete table f => rw [shape, written, written, Filter.written_shape]
  | update table changes f =>
      rw [shape, written, written, Filter.written_shape, Changes.written_shape,
        Changes.arity_shape]
  | insert table row => rw [shape, written, written, Row.inserted_shape]

/-- Requests of one shape have one text.  Whatever the literals are, they do not stand in it. -/
theorem text_eq_of_shape_eq {left right : Request} {leftStatement rightStatement : Statement}
    (sameShape : left.shape = right.shape) (leftBuilt : left.build = .ok leftStatement)
    (rightBuilt : right.build = .ok rightStatement) : leftStatement.text = rightStatement.text := by
  rcases build_ok leftBuilt with ⟨_, _, _, leftWritten⟩
  rcases build_ok rightBuilt with ⟨_, _, _, rightWritten⟩
  have samePieces : (.ok leftStatement.pieces : Except QueryError (List Piece)) =
      .ok rightStatement.pieces :=
    calc
      .ok leftStatement.pieces = left.written := leftWritten.symm
      _ = left.shape.written := left.written_shape.symm
      _ = right.shape.written := by rw [sameShape]
      _ = right.written := right.written_shape
      _ = .ok rightStatement.pieces := rightWritten
  rw [Statement.text, Statement.text, Except.ok.inj samePieces]

/-- Tags with quotes, question marks and comment marks are written like any other tag. -/
theorem text_tagging_eq : ∃ left right : Statement,
    (tagging "'); DROP TABLE items; --" "\" or ?1 = ?1").build = .ok left ∧
      (tagging "new" "pen").build = .ok right ∧ left.text = right.text := by
  have leftBuilt : ∃ left, (tagging "'); DROP TABLE items; --" "\" or ?1 = ?1").build =
    .ok left := ⟨_, rfl⟩
  have rightBuilt : ∃ right, (tagging "new" "pen").build = .ok right := ⟨_, rfl⟩
  have sameShape : (tagging "'); DROP TABLE items; --" "\" or ?1 = ?1").shape =
    (tagging "new" "pen").shape := rfl
  rcases leftBuilt with ⟨left, leftBuilt⟩
  rcases rightBuilt with ⟨right, rightBuilt⟩
  exact ⟨left, right, leftBuilt, rightBuilt, text_eq_of_shape_eq sameShape leftBuilt rightBuilt⟩

end Request
end DocumentQuery
