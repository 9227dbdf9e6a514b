import DocumentQuery.Proofs.Rows.Joined
import DocumentQuery.Proofs.Sql.Selections

namespace DocumentQuery

open Sql

/-!
# References in joins

A query with a join may name columns of both tables, alone or with the name of their table in any
letter case.  The tables are searched in one order, the source first, and by their names without
schemas.  So a column of the target is hidden by one of the source, alone or where both tables have
one name; every other column of the two tables can be told.  A table whose name is no identifier has
no qualified references.

What a reference stands for does not depend on where it is used: the filter, the grouping, the
aggregations and the order all write the column under the name that the store has for its table, and
the filter reads operands by the type of that column.
-/

/-- A reference of a query on two tables stands for a column of one of them. -/
inductive StandsFor (source target : Table) : String → Table → String → Prop where
  | qualifiedSource {qualifier column : String} (valid : Name.isIdentifier qualifier = true)
      (validColumn : Name.isIdentifier column = true)
      (named : Text.lowercase qualifier = source.name) (has : source.hasColumn column = true) :
      StandsFor source target (qualifier ++ "." ++ column) source column
  | qualifiedTarget {qualifier column : String} (valid : Name.isIdentifier qualifier = true)
      (validColumn : Name.isIdentifier column = true)
      (named : Text.lowercase qualifier = target.name) (has : target.hasColumn column = true)
      (notHidden : source.name = target.name → source.hasColumn column = false) :
      StandsFor source target (qualifier ++ "." ++ column) target column
  | bareSource {column : String} (valid : Name.isIdentifier column = true)
      (has : source.hasColumn column = true) : StandsFor source target column source column
  | bareTarget {column : String} (valid : Name.isIdentifier column = true)
      (has : target.hasColumn column = true) (notHidden : source.hasColumn column = false) :
      StandsFor source target column target column

namespace Sql.Scope

theorem owns_bare {column : String} (noPoint : '.' ∉ column.toList) (table : Table) :
    owns column table = table.hasColumn column := by
  rw [owns, Reference.ofText_bare noPoint, Bool.true_and]

theorem owns_qualified {qualifier : String} (noPoint : '.' ∉ qualifier.toList) (column : String)
    (table : Table) : owns (qualifier ++ "." ++ column) table =
      (table.name == Text.lowercase qualifier && table.hasColumn column) := by
  rw [owns, Reference.ofText_qualified noPoint]

theorem owner?_join (source target : Table) (reference : String) :
    owner? ⟨source, some target⟩ reference =
      if owns reference source then some (source, (Reference.ofText reference).column)
      else if owns reference target then some (target, (Reference.ofText reference).column)
      else none := by
  have tables_eq : (Scope.mk source (some target)).tables = [source, target] := rfl
  rw [owner?_eq, tables_eq, List.find?_cons, List.find?_cons, List.find?_nil]
  cases owns reference source <;> cases owns reference target <;> rfl

end Sql.Scope

variable {source target table : Table} {reference name : String}

theorem StandsFor.valid (stands : StandsFor source target reference table name) :
    isColumnReference reference = true := by
  have qualified {qualifier column : String} (valid : Name.isIdentifier qualifier = true)
      (validColumn : Name.isIdentifier column = true) :
      isColumnReference (qualifier ++ "." ++ column) = true := by
    rw [isColumnReference, Reference.ofText_qualified (Name.isIdentifier_noPoint valid)]
    exact Bool.and_eq_true_iff.mpr ⟨valid, validColumn⟩
  have bare {column : String} (valid : Name.isIdentifier column = true) :
      isColumnReference column = true := by
    rw [isColumnReference, Reference.ofText_bare (Name.isIdentifier_noPoint valid)]
    exact valid
  cases stands with
  | qualifiedSource valid validColumn _ _ => exact qualified valid validColumn
  | qualifiedTarget valid validColumn _ _ _ => exact qualified valid validColumn
  | bareSource valid _ => exact bare valid
  | bareTarget valid _ _ => exact bare valid

theorem StandsFor.owner?_eq (stands : StandsFor source target reference table name) :
    Scope.owner? ⟨source, some target⟩ reference = some (table, name) := by
  rw [Scope.owner?_join]
  cases stands with
  | qualifiedSource valid _ named has =>
      have noPoint := Name.isIdentifier_noPoint valid
      rw [Scope.owns_qualified noPoint, named, has, Reference.ofText_qualified noPoint]
      simp
  | qualifiedTarget valid _ named has notHidden =>
      have noPoint := Name.isIdentifier_noPoint valid
      rw [Scope.owns_qualified noPoint, Scope.owns_qualified noPoint, named, has,
        Reference.ofText_qualified noPoint]
      by_cases sameName : source.name = target.name
      · simp [notHidden sameName]
      · simp [sameName]
  | bareSource valid has =>
      have noPoint := Name.isIdentifier_noPoint valid
      rw [Scope.owns_bare noPoint, has, Reference.ofText_bare noPoint]
      rfl
  | bareTarget valid has notHidden =>
      have noPoint := Name.isIdentifier_noPoint valid
      rw [Scope.owns_bare noPoint, Scope.owns_bare noPoint, has, notHidden,
        Reference.ofText_bare noPoint]
      rfl

theorem standsFor_of_owner? (valid : isColumnReference reference = true)
    (owned : Scope.owner? ⟨source, some target⟩ reference = some (table, name)) :
    StandsFor source target reference table name := by
  rw [Scope.owner?_join] at owned
  rcases Reference.ofText_cases reference with
    ⟨reads, noPoint⟩ | ⟨qualifier, column, reads, rfl, noPoint⟩
  · rw [isColumnReference, reads, Reference.isValid, Bool.true_and] at valid
    rw [Scope.owns_bare noPoint, Scope.owns_bare noPoint, reads] at owned
    split at owned
    · rename_i has
      cases owned
      exact .bareSource valid has
    · rename_i hasNot
      split at owned
      · rename_i has
        cases owned
        exact .bareTarget valid has (Bool.eq_false_iff.mpr hasNot)
      · exact nomatch owned
  · rw [isColumnReference, reads, Reference.isValid, Bool.and_eq_true] at valid
    rw [Scope.owns_qualified noPoint, Scope.owns_qualified noPoint, reads] at owned
    simp only [Bool.and_eq_true, beq_iff_eq] at owned
    split at owned
    · rename_i owns
      cases owned
      exact .qualifiedSource valid.1 valid.2 owns.1.symm owns.2
    · rename_i ownsNot
      split at owned
      · rename_i owns
        cases owned
        refine .qualifiedTarget valid.1 valid.2 owns.1.symm owns.2 fun sameName => ?_
        exact Bool.eq_false_iff.mpr fun has => ownsNot ⟨sameName.trans owns.1, has⟩
      · exact nomatch owned

/-- The references that stand for a column of one of two tables are the valid ones that are owned in
their scope. -/
theorem standsFor_iff : StandsFor source target reference table name ↔
    isColumnReference reference = true ∧
      Scope.owner? ⟨source, some target⟩ reference = some (table, name) := by
  constructor
  · intro stands
    exact ⟨stands.valid, stands.owner?_eq⟩
  · rintro ⟨valid, owned⟩
    exact standsFor_of_owner? valid owned

/-! ## Clauses -/

namespace Sql

section

variable {scope : Scope} (valid : isColumnReference reference = true)

include valid

theorem checkReference_of_valid : checkReference reference = .ok () := by
  rw [checkReference, require, valid]
  rfl

theorem orderPart_of_valid (path : String → List String) (direction : Direction) :
    orderPart path reference direction =
      .ok (pathPieces (path reference) ++ [.word (" " ++ direction.word)]) := by
  rw [orderPart, checkReference_of_valid valid]
  rfl

variable (owned : scope.owner? reference = some (table, name))

include owned

theorem groupColumn_of_owner? : groupColumn scope reference =
    .ok (pathPieces (scope.path reference),
      if scope.target?.isSome then columnAs (scope.path reference) name
      else pathPieces (scope.path reference)) := by
  rw [groupColumn, checkReference_of_valid valid, ok_bind, Scope.owner, owned]
  rfl

theorem aggregateArgument_of_owner? {a : Aggregation} (same : a.column = reference) :
    aggregateArgument scope a = .ok (pathPieces (scope.path reference)) := by
  have notStar : a.column ≠ "*" := by
    intro star
    rw [← same, star] at valid
    exact absurd valid (by decide)
  rw [aggregateArgument, if_neg notStar, same, checkReference_of_valid valid, ok_bind,
    Scope.owner, owned]
  rfl

end

/-- In the order of groups, a reference that no result has for its name is told as in the scope. -/
theorem groupedPath_of_noResult {g : Grouping} (noResult : ∀ a ∈ g.aggregations, a.name ≠ reference)
    (scope : Scope) : groupedPath scope g reference = scope.path reference := by
  have notAny : ¬ (g.aggregations.any fun a => a.name == reference) = true := by
    rw [List.any_eq_true]
    rintro ⟨a, member, same⟩
    exact noResult a member (beq_iff_eq.mp same)
  rw [groupedPath, if_neg notAny]

end Sql

/-- Each clause of a statement writes the reference as the column of the table in the store, and
reads operands by the type of that column. -/
structure RendersAs (scope : Scope) (reference : String) (table : Table) (name : String) :
    Prop where
  path_eq : scope.path reference = [table.storeName, name]
  type?_eq : scope.columnType? reference = table.columnType? name
  filter : ∀ predicates : List Predicate, predicates ≠ [] →
    Builds (condition (.ofScope scope) ⟨reference, predicates⟩)
      (operandsOf (Predicate.operands (table.columnType? name)) predicates)
      (arityOf Predicate.arity predicates)
      fun bound => .group (conjunction (writtenOf Predicate.arity
        (Predicate.written (.column [table.storeName, name])) bound predicates))
  grouping : groupColumn scope reference =
    .ok (pathPieces [table.storeName, name], columnAs [table.storeName, name] name)
  aggregation : ∀ a : Aggregation, a.column = reference →
    aggregateArgument scope a = .ok (pathPieces [table.storeName, name])
  order : ∀ direction : Direction, orderPart scope.path reference direction =
    .ok (pathPieces [table.storeName, name] ++ [.word (" " ++ direction.word)])
  groupedOrder : ∀ (g : Grouping) (direction : Direction),
    (∀ a ∈ g.aggregations, a.name ≠ reference) →
      orderPart (groupedPath scope g) reference direction =
        .ok (pathPieces [table.storeName, name] ++ [.word (" " ++ direction.word)])

theorem StandsFor.rendersAs (stands : StandsFor source target reference table name) :
    RendersAs ⟨source, some target⟩ reference table name := by
  have valid := stands.valid
  have owned := stands.owner?_eq
  let scope : Scope := ⟨source, some target⟩
  have path_eq : scope.path reference = [table.storeName, name] := by
    rw [Scope.path, owned]
    rfl
  have type?_eq : scope.columnType? reference = table.columnType? name := by
    rw [Scope.columnType?, owned]
    rfl
  refine ⟨path_eq, type?_eq, ?_, ?_, ?_, ?_, ?_⟩
  · intro predicates nonempty
    have operands_eq : Condition.operands (.ofScope scope) ⟨reference, predicates⟩ =
        operandsOf (Predicate.operands (table.columnType? name)) predicates := by
      rw [← type?_eq]
      exact Condition.operands_of_valid (.ofScope scope) valid nonempty
    have written_eq : Condition.written (.ofScope scope) ⟨reference, predicates⟩ = fun bound =>
        .group (conjunction (writtenOf Predicate.arity
          (Predicate.written (.column [table.storeName, name])) bound predicates)) := by
      rw [← path_eq]
      rfl
    rw [← operands_eq, ← written_eq]
    exact builds_condition (.ofScope scope) ⟨reference, predicates⟩
  · rw [groupColumn_of_owner? valid owned, path_eq]
    rfl
  · intro a same
    rw [aggregateArgument_of_owner? valid owned same, path_eq]
  · intro direction
    rw [orderPart_of_valid valid, path_eq]
  · intro g direction noResult
    rw [orderPart_of_valid valid, groupedPath_of_noResult noResult, path_eq]

/-! ## Statements -/

namespace Query

theorem joinWith_some {q : Query} {join : Join} (joined : q.joins = [join]) (target : Table) :
    joinWith q (some target) = .ok (some (join, target)) := by
  rw [joinWith, Query.join?, joined]
  rfl

/-- The statement of a query on two tables consists of its clauses, and each of them writes a
reference that stands for a column of one of the tables as that column. -/
theorem join_references_written {q : Query} {join : Join} {source target : Table}
    {statement : Statement} (joined : q.joins = [join])
    (accepted : Sql.select q source (some target) = .ok statement) :
    q.Written source (some (join, target)) statement ∧
      ∀ (reference : String) (table : Table) (name : String),
        StandsFor source target reference table name →
          RendersAs ⟨source, some target⟩ reference table name := by
  rcases exists_written accepted with ⟨join?, joins, written⟩
  rw [joinWith_some joined] at joins
  cases joins
  exact ⟨written, fun _ _ _ stands => stands.rendersAs⟩

end Query

/-! ## More of the library -/

namespace Library

/-- The cards of former readers, which are kept in a schema of their own. -/
def archived : Table :=
  ⟨"archive", "cards", cards.columns⟩

/-- A table whose name is no identifier. -/
def oldCards : Table :=
  ⟨"default", "old cards", cards.columns⟩

/-- What is joined to another table by its numbers, where a column has a value. -/
def joinedWhere (target : Table) (reference : String) (value : Scalar) : Query :=
  { filter := ⟨[⟨reference, [.compare .eq value]⟩]⟩,
    joins := [⟨.flat, .table target, "id", "id"⟩] }

end Library

namespace Query

open Library

/-- A reader may be active, and so may a card. -/
theorem join_references_cards :
    ∃ statement : Statement,
      Sql.select (joinedWhere cards "Cards.active" (.bool true)) readers (some cards) =
        .ok statement ∧
      RendersAs ⟨readers, some cards⟩ "Cards.active" cards "active" ∧
      RendersAs ⟨readers, some cards⟩ "active" readers "active" ∧
      RendersAs ⟨readers, some cards⟩ "place" cards "place" := by
  have built : ∃ statement, Sql.select (joinedWhere cards "Cards.active" (.bool true)) readers
      (some cards) = .ok statement := ⟨_, rfl⟩
  rcases built with ⟨statement, accepted⟩
  rcases join_references_written rfl accepted with ⟨_, renders⟩
  have qualified : StandsFor readers cards ("Cards" ++ "." ++ "active") cards "active" :=
    .qualifiedTarget (by decide) (by decide) (by decide) (by decide) (by decide)
  have ofReader : StandsFor readers cards "active" readers "active" :=
    .bareSource (by decide) (by decide)
  have ofCard : StandsFor readers cards "place" cards "place" :=
    .bareTarget (by decide) (by decide) (by decide)
  exact ⟨statement, accepted, renders _ _ _ qualified, renders _ _ _ ofReader,
    renders _ _ _ ofCard⟩

/-- Next to the cards, the place of an archived card cannot be told, and neither can that of an old
card. -/
theorem archived_place_hidden :
    cards.storeName ≠ archived.storeName ∧ archived.hasColumn "place" = true ∧
      (∃ statement : Statement,
        Sql.select (joinedWhere archived (archived.name ++ ".place") (.text "Bern")) cards
            (some archived) = .ok statement ∧
          .word " WHERE " :: .word "(" :: pathPieces [cards.storeName, "place"] ++
            [.word " = ", .param 1, .word ")"] <:+ statement.pieces) ∧
      oldCards.hasColumn "place" = true ∧
      Sql.select (joinedWhere archived (oldCards.name ++ ".place") (.text "Bern")) oldCards
          (some archived) =
        reject (.invalidColumnName (oldCards.name ++ ".place")) := by
  have built : ∃ statement, Sql.select (joinedWhere archived (archived.name ++ ".place")
      (.text "Bern")) cards (some archived) = .ok statement := ⟨_, rfl⟩
  refine ⟨by decide, by decide, ?_, by decide, rfl⟩
  rcases built with ⟨statement, accepted⟩
  rcases exists_written accepted with ⟨join?, joins, written⟩
  cases joins
  refine ⟨statement, accepted, ?_⟩
  rw [written.pieces]
  decide

end Query
end DocumentQuery
