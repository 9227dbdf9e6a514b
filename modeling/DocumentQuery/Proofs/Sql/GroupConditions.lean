import DocumentQuery.Proofs.Filter.Documents
import DocumentQuery.Proofs.Sql.ResultNames

namespace DocumentQuery

open Sql

/-!
# Conditions on groups

The condition of a query on its groups names the aggregations that have predicates.  What such a
name denotes is settled by the store: a column, if a table of the query has one of that name, and
otherwise a result of that name.  A name that denotes something else than the aggregation that the
predicates are attached to makes a valid statement which selects groups by other values, and no check
of a query excludes it.  The name is right exactly if no column of the tables has it and no other
aggregation.

The store may take names for the same that are written in different ways, for instance in another
letter case.  All that is said here holds for any such comparison.
-/

/-! ## The names in a condition -/

namespace Sql

theorem name_mem_pathPieces {name : String} {path : List String} :
    Piece.name name ∈ pathPieces path ↔ name ∈ path := by
  fun_induction pathPieces path with
  | case1 => simp
  | case2 other => simp
  | case3 other next rest inductionHypothesis => simp [inductionHypothesis]

theorem name_mem_conjunction {name : String} {parts : List Expr} :
    Piece.name name ∈ (conjunction parts).pieces ↔ ∃ e ∈ parts, Piece.name name ∈ e.pieces := by
  have joined (first : Expr) (rest : List Expr) :
      Piece.name name ∈ (rest.foldl (.binary .and) first).pieces ↔
        ∃ e ∈ first :: rest, Piece.name name ∈ e.pieces := by
    induction rest generalizing first with
    | nil => simp
    | cons next others inductionHypothesis =>
        rw [List.foldl_cons, inductionHypothesis]
        simp [Expr.pieces, or_assoc]
  cases parts with
  | nil => simp [conjunction, Expr.pieces]
  | cons first rest => exact joined first rest

/-- The conjunction of what parts write has the names that the parts have, wherever they begin. -/
theorem name_mem_conjunction_writtenOf {name : String} {β : Type} (arity : β → Nat)
    {written : β → Nat → Expr} {has : β → Prop}
    (same : ∀ (part : β) (bound : Nat), Piece.name name ∈ (written part bound).pieces ↔ has part)
    (bound : Nat) (parts : List β) :
    Piece.name name ∈ (conjunction (writtenOf arity written bound parts)).pieces ↔
      ∃ part ∈ parts, has part := by
  rw [name_mem_conjunction]
  induction parts generalizing bound with
  | nil => simp [writtenOf]
  | cons part rest inductionHypothesis =>
      simp only [writtenOf, List.mem_cons, exists_eq_or_imp, same, inductionHypothesis]

end Sql

theorem Predicate.name_mem_written {name : String} (path : List String) (p : Predicate)
    (bound : Nat) :
    Piece.name name ∈ (p.written (.column path) bound).pieces ↔ name ∈ path := by
  have noParams (params : List Nat) : Piece.name name ∉ paramPieces params := by
    intro member
    rcases mem_separated member with separates | ⟨part, partMember, found⟩
    · exact nomatch separates
    · rcases List.mem_map.mp partMember with ⟨number, _, rfl⟩
      simp at found
  rw [← name_mem_pathPieces]
  cases p with
  | compare relation operand =>
      cases relation <;> cases operand <;> simp [written, Expr.pieces]
  | like pattern => simp [written, Expr.pieces]
  | notLike pattern => simp [written, Expr.pieces]
  | oneOf items => simp [written, Expr.pieces, noParams]
  | noneOf items => simp [written, Expr.pieces, noParams]
  | contains element =>
      simp [written, boundElement, Positions.contained, Positions.of, occurs, between, Expr.pieces]
  | lacks element =>
      simp [written, boundElement, Positions.contained, Positions.of, occurs, between, Expr.pieces]

namespace Filter

variable {name : String}

/-- The filter has a predicate on the name. -/
def Mentions (f : Filter) (name : String) : Prop :=
  ∃ c ∈ f.conditions, c.predicates ≠ [] ∧ c.column = name

/-- A condition on groups has the names that its filter mentions. -/
theorem name_mem_groupWritten {f : Filter} {bound : Nat} :
    Piece.name name ∈ f.groupWritten bound ↔ f.Mentions name := by
  have inGroup (e : Expr) : Piece.name name ∈ (Expr.group e).pieces ↔ Piece.name name ∈ e.pieces :=
    by simp [Expr.pieces]
  have inCondition (c : Condition) (bound : Nat) :
      Piece.name name ∈ (c.written .results bound).pieces ↔
        c.predicates ≠ [] ∧ c.column = name := by
    have inPredicate (p : Predicate) (bound : Nat) :
        Piece.name name ∈ (p.written (.column [c.column]) bound).pieces ↔ c.column = name := by
      rw [p.name_mem_written, List.mem_singleton, eq_comm]
    have inPredicates := name_mem_conjunction_writtenOf Predicate.arity inPredicate bound
      c.predicates
    rw [Condition.written, inGroup]
    exact inPredicates.trans (by cases c.predicates <;> simp)
  rw [groupWritten, Mentions]
  by_cases empty : f.isEmpty = true
  · rw [if_pos empty, List.isEmpty_iff.mp empty]
    simp
  · rw [if_neg empty, written, if_neg empty, List.mem_cons,
      name_mem_conjunction_writtenOf Condition.arity inCondition]
    exact or_iff_right (by simp)

/-- A name is mentioned if a predicate is required of it. -/
theorem mentions_iff {f : Filter} : f.Mentions name ↔ ∃ p, f.Requires name p := by
  constructor
  · rintro ⟨c, member, nonempty, named⟩
    rcases List.exists_mem_of_ne_nil c.predicates nonempty with ⟨p, required⟩
    exact ⟨p, c, member, named, required⟩
  · rintro ⟨p, c, member, named, required⟩
    exact ⟨c, member, List.ne_nil_of_mem required, named⟩

end Filter

namespace Grouping

/-- The condition on groups requires the predicates of all aggregations, first to last. -/
theorem havingFilter_eq (g : Grouping) : g.havingFilter =
    Filter.all.pushAll (g.aggregations.flatMap fun a => a.predicates.map fun p => (a.name, p)) := by
  simp only [havingFilter, Filter.pushAll, List.foldl_flatMap, List.foldl_map]

/-- The condition on groups mentions the aggregations that have predicates. -/
theorem mentions_havingFilter {g : Grouping} {name : String} :
    g.havingFilter.Mentions name ↔ ∃ a ∈ g.aggregations, a.predicates ≠ [] ∧ a.name = name := by
  have requires_iff (p : Predicate) : g.havingFilter.Requires name p ↔
      ∃ a ∈ g.aggregations, p ∈ a.predicates ∧ a.name = name := by
    have nothing : ¬ Filter.all.Requires name p := fun ⟨_, member, _⟩ => nomatch member
    rw [havingFilter_eq, Filter.requires_pushAll, or_iff_left nothing]
    simp [and_comm]
  rw [Filter.mentions_iff]
  constructor
  · rintro ⟨p, required⟩
    rcases (requires_iff p).mp required with ⟨a, member, predicate, named⟩
    exact ⟨a, member, List.ne_nil_of_mem predicate, named⟩
  · rintro ⟨a, member, nonempty, named⟩
    rcases List.exists_mem_of_ne_nil a.predicates nonempty with ⟨p, predicate⟩
    exact ⟨p, (requires_iff p).mpr ⟨a, member, predicate, named⟩⟩

end Grouping

/-! ## What a name denotes -/

/-- What a name in a condition on groups may denote. -/
inductive Denoted where
  | column (table : Table) (name : String)
  | result (place : Nat)

/-- What a name denotes where the given tables are searched and the results have the given names: a
column of a table, and a result only if no table has such a column. -/
inductive Denotes (same : String → String → Bool) (tables : List Table) (results : List String)
    (name : String) : Denoted → Prop where
  | column {table : Table} {column : String} (searched : table ∈ tables)
      (known : column ∈ table.columnNames) (isSame : same column name = true) :
      Denotes same tables results name (.column table column)
  | result {place : Nat} {found : String}
      (noColumn : ∀ table ∈ tables, ∀ column ∈ table.columnNames, same column name = false)
      (there : results[place]? = some found) (isSame : same found name = true) :
      Denotes same tables results name (.result place)

/-- Where the results have the names of columns and those of aggregations, a name denotes one
aggregation and nothing else if no column of the tables has it and no other aggregation. -/
theorem denotes_only_iff {same : String → String → Bool}
    (reflexive : ∀ name : String, same name name = true) {tables : List Table}
    {columns results : List String}
    (owned : ∀ column ∈ columns, ∃ table ∈ tables, column ∈ table.columnNames) {name : String}
    {i : Nat} (there : results[i]? = some name) :
    (∀ denoted : Denoted, Denotes same tables (columns ++ results) name denoted ↔
        denoted = .result (columns.length + i)) ↔
      (∀ table ∈ tables, ∀ column ∈ table.columnNames, same column name = false) ∧
        ∀ (j : Nat) (other : String), results[j]? = some other → same other name = true →
          j = i := by
  have place (j : Nat) : (columns ++ results)[columns.length + j]? = results[j]? := by
    rw [List.getElem?_append_right (Nat.le_add_right _ j), Nat.add_sub_cancel_left]
  constructor
  · intro only
    have noColumn : ∀ table ∈ tables, ∀ column ∈ table.columnNames, same column name = false := by
      intro table searched column known
      rw [← Bool.not_eq_true]
      intro isSame
      exact nomatch (only _).mp (.column searched known isSame)
    refine ⟨noColumn, fun j other found isSame => ?_⟩
    have result_eq := (only _).mp (.result noColumn ((place j).trans found) isSame)
    exact Nat.add_left_cancel (Denoted.result.inj result_eq)
  · rintro ⟨noColumn, noOther⟩ denoted
    constructor
    · intro denotes
      cases denotes with
      | column searched known isSame =>
          rw [noColumn _ searched _ known] at isSame
          exact nomatch isSame
      | @result j found _ foundThere isSame =>
          by_cases earlier : j < columns.length
          · rw [List.getElem?_append_left earlier] at foundThere
            rcases owned found (List.mem_of_getElem? foundThere) with ⟨table, searched, known⟩
            rw [noColumn table searched found known] at isSame
            exact nomatch isSame
          · have later := Nat.le_of_not_lt earlier
            rw [List.getElem?_append_right later] at foundThere
            have place_eq := noOther _ found foundThere isSame
            exact congrArg Denoted.result (by omega)
    · rintro rfl
      exact .result noColumn ((place i).trans there) (reflexive name)

namespace Query

/-- The names in the condition on groups are those of the aggregations with predicates, and such a
name denotes its aggregation, and nothing else, exactly if no column of the tables has it and no
other aggregation. -/
theorem having_denotes_iff {same : String → String → Bool}
    (reflexive : ∀ name : String, same name name = true) {q : Query} {g : Grouping}
    {source : Table} {target? : Option Table} {statement : Statement}
    (grouped : q.grouping? = some g)
    (accepted : Sql.select q source target? = .ok statement) :
    ∃ (join? : Option (Join × Table)) (before after : List Piece),
      joinWith q target? = .ok join? ∧
      statement.pieces = before ++ g.havingFilter.groupWritten q.filter.arity ++ after ∧
      (∀ name : String, .name name ∈ g.havingFilter.groupWritten q.filter.arity ↔
        ∃ a ∈ g.aggregations, a.predicates ≠ [] ∧ a.name = name) ∧
      let tables := source :: (join?.map Prod.snd).toList
      ∀ (i : Nat) (a : Aggregation), g.aggregations[i]? = some a → a.predicates ≠ [] →
        ((∀ denoted : Denoted, Denotes same tables statement.resultNames a.name denoted ↔
            denoted = .result (g.columns.length + i)) ↔
          (∀ table ∈ tables, ∀ column ∈ table.columnNames, same column a.name = false) ∧
          ∀ (j : Nat) (b : Aggregation), g.aggregations[j]? = some b →
            same b.name a.name = true → j = i) := by
  rcases exists_written accepted with ⟨join?, joins, written⟩
  have pieces := written.pieces
  rw [Query.written, groupFilter, grouped] at pieces
  refine ⟨join?, _, _, joins, pieces, ?_, ?_⟩
  · intro name
    rw [Filter.name_mem_groupWritten, Grouping.mentions_havingFilter]
  · intro tables i a there _
    rcases written.groups g grouped with ⟨parts, partsAccepted⟩
    have owned : ∀ column ∈ g.columns.map fun column => (Reference.ofText column).column,
        ∃ table ∈ tables, column ∈ table.columnNames := by
      intro _ member
      rcases List.mem_map.mp member with ⟨column, known, rfl⟩
      rcases owner?_of_groupParts partsAccepted known with ⟨table, owned⟩
      rcases Scope.owner?_mem owned with ⟨searched, has⟩
      exact ⟨table, searched, Table.hasColumn_iff.mp has⟩
    have thereNamed : (g.aggregations.map Aggregation.name)[i]? = some a.name := by
      rw [List.getElem?_map, there, Option.map_some]
    have only_iff := denotes_only_iff reflexive owned thereNamed
    rw [List.length_map] at only_iff
    rw [resultNames_eq grouped accepted, Grouping.resultNames, only_iff]
    refine and_congr_right fun _ => forall_congr' fun j => ?_
    simp only [List.getElem?_map, Option.map_eq_some_iff]
    constructor
    · intro unique b found
      exact unique b.name ⟨b, found, rfl⟩
    · rintro unique _ ⟨b, found, rfl⟩
      exact unique b found

open Library in
/-- Where names are the same in small letters, the greatest number of a place under the name
`Active` is mistaken for whether a card is active. -/
theorem having_denotes_active :
    let same (first second : String) : Bool :=
      first.toList.map Text.smallLatin == second.toList.map Text.smallLatin
    let places : Grouping :=
      ⟨["place"], [⟨.max, "id", "Active", [.compare .gt (.integer 1)]⟩]⟩
    ∃ statement : Statement,
      Sql.select { grouping? := some places } cards none = .ok statement ∧
        .name "Active" ∈ places.havingFilter.groupWritten 2 ∧
        Denotes same [cards] statement.resultNames "Active" (.column cards "active") ∧
        ¬ ∀ denoted : Denoted, Denotes same [cards] statement.resultNames "Active" denoted ↔
          denoted = .result 1 := by
  intro same places
  have reflexive (name : String) : same name name = true := beq_self_eq_true _
  have built : ∃ statement, Sql.select { grouping? := some places } cards none = .ok statement :=
    ⟨_, rfl⟩
  rcases built with ⟨statement, accepted⟩
  rcases having_denotes_iff reflexive rfl accepted with
    ⟨join?, before, after, joins, pieces, mentions, denotes⟩
  cases joins
  have isActive : same "active" "Active" = true := by decide
  refine ⟨statement, accepted, ?_, .column (by simp) (by decide) isActive, ?_⟩
  · exact (mentions "Active").mpr ⟨_, List.mem_cons_self, List.cons_ne_nil _ _, rfl⟩
  · intro only
    have noColumn := ((denotes 0 _ rfl (List.cons_ne_nil _ _)).mp only).1
    have missing := noColumn cards List.mem_cons_self "active" (by decide)
    exact nomatch missing.symm.trans isActive

end Query
end DocumentQuery
