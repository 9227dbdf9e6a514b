import DocumentQuery.Proofs.Sql.Numbering

namespace DocumentQuery

open Sql

/-!
# Placeholders and bound scalars

The placeholders of a statement are found by reading its text.  Their first occurrences are
numbered in a row, beginning after the scalars that were bound before, and there is exactly
one number for each operand.  The operands follow each other as the parts of the statement
do, so the n-th placeholder to appear stands for the n-th operand.

What a statement writes around its parts has no placeholders; that is shown first.
-/

namespace Sql

/-! ## Pieces without placeholders -/

/-- The pieces can be read, and no placeholder is among them. -/
structure Silent (pieces : List Piece) : Prop where
  separate : Separate pieces
  params_eq : paramsOf pieces = []

theorem silent_pathPieces (path : List String) : Silent (pathPieces path) :=
  ⟨separate_pathPieces path, paramsOf_pathPieces path⟩

theorem Silent.word {first rest : List Piece} {text : String} (silentFirst : Silent first)
    (silentRest : Silent rest) (plain : text.toList.all isPlain = true)
    (apart : (text.toList.head?.any fun c => !c.isDigit) = true) :
    Silent (first ++ .word text :: rest) where
  separate := separate_word silentFirst.separate silentRest.separate plain apart
  params_eq := by
    rw [paramsOf_append, paramsOf_word, silentFirst.params_eq, silentRest.params_eq]
    rfl

theorem Silent.separated (separator : String) {parts : List (List Piece)}
    (plain : separator.toList.all isPlain = true)
    (apart : (separator.toList.head?.any fun c => !c.isDigit) = true)
    (each : ∀ part ∈ parts, Silent part) : Silent (separated separator parts) where
  separate := separate_separated plain apart fun part member => (each part member).separate
  params_eq := by
    rw [paramsOf_separated, List.flatMap_eq_nil_iff]
    exact fun part member => (each part member).params_eq

theorem Silent.append {first second : List Piece} (silentFirst : Silent first)
    (silentSecond : Silent second) (apart : opensApart second = true) :
    Silent (first ++ second) where
  separate := separate_append silentFirst.separate silentSecond.separate apart
  params_eq := by
    rw [paramsOf_append, silentFirst.params_eq, silentSecond.params_eq]
    rfl

/-- Anything that can be read may follow pieces without placeholders. -/
theorem Silent.separate_append {first second : List Piece} (silent : Silent first)
    (separate : Separate second) : Separate (first ++ second) := by
  rcases silent with ⟨separateFirst, params_eq⟩
  induction first with
  | nil => exact separate
  | cons piece rest inductionHypothesis =>
      cases piece with
      | word text => exact ⟨separateFirst.1, inductionHypothesis separateFirst.2 params_eq⟩
      | name text => exact inductionHypothesis separateFirst params_eq
      | literal text => exact inductionHypothesis separateFirst params_eq
      | param number => exact nomatch params_eq

theorem Silent.cons_word {rest : List Piece} {text : String} (silent : Silent rest)
    (plain : text.toList.all isPlain = true) : Silent (.word text :: rest) :=
  ⟨⟨plain, silent.separate⟩, silent.params_eq⟩

theorem Silent.cons_name {rest : List Piece} (name : String) (silent : Silent rest) :
    Silent (.name name :: rest) :=
  ⟨silent.separate, silent.params_eq⟩

theorem silent_nil : Silent [] := ⟨trivial, rfl⟩

/-! ## Frames -/

theorem silent_orderClause {path : String → List String} {order : List (String × Direction)}
    {pieces : List Piece} (accepted : orderClause path order = .ok pieces) :
    Silent pieces ∧ opensApart pieces = true := by
  rw [orderClause] at accepted
  by_cases empty : order.isEmpty = true
  · rw [if_pos empty] at accepted
    cases accepted
    exact ⟨silent_nil, rfl⟩
  · rw [if_neg empty] at accepted
    rcases bind_ok accepted with ⟨parts, partsAccepted, accepted⟩
    cases accepted
    have each : ∀ part ∈ parts, Silent part := by
      intro part member
      rcases mem_of_mapM_ok partsAccepted member with ⟨⟨column, direction⟩, _, partAccepted⟩
      rcases bind_ok partAccepted with ⟨_, _, partAccepted⟩
      cases partAccepted
      refine (silent_pathPieces _).word silent_nil ?_ ?_ <;> cases direction <;> decide
    exact ⟨(Silent.separated ", " (by decide) (by decide) each).cons_word (by decide), rfl⟩

theorem silent_limitClause (limit? : Option Limit) :
    Silent (limitClause limit?) ∧ opensApart (limitClause limit?) = true := by
  cases limit? with
  | none => exact ⟨silent_nil, rfl⟩
  | some limit =>
      rcases limit with ⟨count?, start⟩
      have plain (count : String) (countPlain : count.toList.all isPlain = true) :
          (" LIMIT " ++ count ++ " OFFSET " ++
            String.ofList (Decimal.natural start.toNat)).toList.all isPlain = true := by
        simp only [String.toList_append, List.all_append, countPlain, String.toList_ofList,
          plain_natural]
        decide
      constructor
      · cases count? with
        | none => exact silent_nil.cons_word (plain "-1" (by decide))
        | some count =>
            have countPlain : (String.ofList (Decimal.natural count.toNat)).toList.all isPlain =
                true := by
              rw [String.toList_ofList]
              exact plain_natural count.toNat
            exact silent_nil.cons_word (plain _ countPlain)
      · simp only [limitClause, opensApart, String.toList_append, List.append_assoc]
        rfl

theorem silent_fromClause {source : Table} {join? : Option (Join × Table)} {pieces : List Piece}
    (accepted : fromClause source join? = .ok pieces) : Silent pieces := by
  cases join? with
  | none =>
      cases accepted
      exact silent_nil.cons_name _
  | some join =>
      rcases join with ⟨join, target⟩
      rcases bind_ok accepted with ⟨_, _, accepted⟩
      rcases bind_ok accepted with ⟨_, _, accepted⟩
      cases accepted
      exact (((((silent_pathPieces _).cons_word (by decide)).cons_name _).cons_word
        (by decide)).cons_name _).word (silent_pathPieces _) (by decide) (by decide)

theorem silent_columnAs (path : List String) (name : String) : Silent (columnAs path name) :=
  (silent_pathPieces path).word (silent_nil.cons_name name) (by decide) (by decide)

theorem silent_groupColumn {scope : Scope} {name : String} {column : List Piece × List Piece}
    (accepted : groupColumn scope name = .ok column) : Silent column.1 ∧ Silent column.2 := by
  rcases bind_ok accepted with ⟨_, _, accepted⟩
  rcases bind_ok accepted with ⟨owner, _, accepted⟩
  cases accepted
  refine ⟨silent_pathPieces _, ?_⟩
  by_cases joined : scope.target?.isSome = true
  · simp only [if_pos joined]
    exact silent_columnAs _ _
  · simp only [if_neg joined]
    exact silent_pathPieces _

theorem silent_aggregateArgument {scope : Scope} {a : Aggregation} {pieces : List Piece}
    (accepted : aggregateArgument scope a = .ok pieces) : Silent pieces := by
  rw [aggregateArgument] at accepted
  by_cases wholeRows : a.column = "*"
  · rw [if_pos wholeRows] at accepted
    rcases bind_ok accepted with ⟨_, _, accepted⟩
    cases accepted
    exact silent_nil.cons_word (by decide)
  · rw [if_neg wholeRows] at accepted
    rcases bind_ok accepted with ⟨_, _, accepted⟩
    rcases bind_ok accepted with ⟨_, _, accepted⟩
    cases accepted
    exact silent_pathPieces _

theorem silent_aggregateColumn {scope : Scope} {a : Aggregation} {pieces : List Piece}
    (accepted : aggregateColumn scope a = .ok pieces) : Silent pieces := by
  rcases bind_ok accepted with ⟨_, _, accepted⟩
  rcases bind_ok accepted with ⟨argument, argumentAccepted, accepted⟩
  cases accepted
  have plain : (a.function.name ++ "(").toList.all isPlain = true := by
    cases a.function <;> decide
  exact ((silent_aggregateArgument argumentAccepted).cons_word plain).word
    (silent_nil.cons_name a.name) (by decide) (by decide)

theorem silent_groupParts {scope : Scope} {g : Grouping} {selected groups : List (List Piece)}
    (accepted : groupParts scope g = .ok (selected, groups)) :
    (∀ part ∈ selected, Silent part) ∧ ∀ part ∈ groups, Silent part := by
  rcases bind_ok accepted with ⟨_, _, accepted⟩
  rcases bind_ok accepted with ⟨columns, columnsAccepted, accepted⟩
  rcases bind_ok accepted with ⟨results, resultsAccepted, accepted⟩
  cases accepted
  have eachColumn : ∀ column ∈ columns, Silent column.1 ∧ Silent column.2 := by
    intro column member
    rcases mem_of_mapM_ok columnsAccepted member with ⟨name, _, found⟩
    exact silent_groupColumn found
  have eachResult : ∀ result ∈ results, Silent result := by
    intro result member
    rcases mem_of_mapM_ok resultsAccepted member with ⟨a, _, found⟩
    exact silent_aggregateColumn found
  constructor
  · intro part member
    rcases List.mem_append.mp member with isColumn | isResult
    · rcases List.mem_map.mp isColumn with ⟨column, columnMember, rfl⟩
      exact (eachColumn column columnMember).2
    · exact eachResult part isResult
  · intro part member
    rcases List.mem_map.mp member with ⟨column, columnMember, rfl⟩
    exact (eachColumn column columnMember).1

end Sql

theorem Filter.groupWritten_ok (f : Filter) (bound : Nat) :
    Separate (f.groupWritten bound) ∧ opensApart (f.groupWritten bound) = true ∧
      Numbered bound f.groupArity (paramsOf (f.groupWritten bound)) := by
  rw [Filter.groupWritten, Filter.groupArity]
  by_cases empty : f.isEmpty = true
  · rw [if_pos empty, if_pos empty]
    exact ⟨trivial, rfl, Numbered.nil bound⟩
  · rw [if_neg empty, if_neg empty]
    exact ⟨⟨by decide, f.separate_written _ _⟩, rfl, f.numbered_written _ _⟩

/-- The frame of a query can be read, and has no placeholders. -/
structure Query.Frame.Tidy (frame : Query.Frame) : Prop where
  before : Silent frame.before
  between : Silent frame.between
  between_apart : opensApart frame.between = true
  after : Silent frame.after
  after_apart : opensApart frame.after = true

private theorem silent_before {columns tables : List Piece} (silentColumns : Silent columns)
    (silentTables : Silent tables) :
    Silent (.word "SELECT " :: columns ++ .word " FROM " :: tables ++ [.word " WHERE "]) :=
  ((silentColumns.cons_word (by decide)).word silentTables (by decide) (by decide)).word
    silent_nil (by decide) (by decide)

private theorem silent_after {path : String → List String} {order : List (String × Direction)}
    {pieces : List Piece} (limit? : Option Limit)
    (accepted : orderClause path order = .ok pieces) :
    Silent (pieces ++ limitClause limit?) ∧ opensApart (pieces ++ limitClause limit?) = true := by
  rcases silent_orderClause accepted with ⟨silentOrder, orderApart⟩
  rcases silent_limitClause limit? with ⟨silentLimit, limitApart⟩
  exact ⟨silentOrder.append silentLimit limitApart, opensApart_append orderApart limitApart⟩

theorem silent_plainColumns (scope : Scope) : Silent (Query.plainColumns scope) := by
  rw [Query.plainColumns]
  cases scope.target? with
  | none => exact silent_nil.cons_word (by decide)
  | some target =>
      apply Silent.separated ", " (by decide) (by decide)
      intro part member
      rcases List.mem_append.mp member with ofSource | ofTarget
      · rcases List.mem_map.mp ofSource with ⟨name, _, rfl⟩
        exact silent_columnAs _ _
      · rcases List.mem_map.mp ofTarget with ⟨name, _, rfl⟩
        exact silent_columnAs _ _

theorem Query.plainFrame_tidy {q : Query} {scope : Scope} {tables : List Piece} {frame : Frame}
    (accepted : q.plainFrame scope tables = .ok frame) (silentTables : Silent tables) :
    frame.Tidy := by
  rcases bind_ok accepted with ⟨order, ordered, accepted⟩
  cases accepted
  rcases silent_after q.limit? ordered with ⟨silentEnd, endApart⟩
  exact ⟨silent_before (silent_plainColumns scope) silentTables, silent_nil, rfl, silentEnd, endApart⟩

theorem Query.groupedFrame_tidy {q : Query} {g : Grouping} {scope : Scope} {tables : List Piece}
    {frame : Frame} (accepted : q.groupedFrame g scope tables = .ok frame)
    (silentTables : Silent tables) : frame.Tidy := by
  rcases bind_ok accepted with ⟨⟨selected, groupColumns⟩, parts, accepted⟩
  rcases bind_ok accepted with ⟨order, ordered, accepted⟩
  cases accepted
  rcases silent_after q.limit? ordered with ⟨silentEnd, endApart⟩
  rcases silent_groupParts parts with ⟨silentSelected, silentGroups⟩
  have silentColumns := Silent.separated ", " (by decide) (by decide) silentSelected
  have between : Silent (if groupColumns.isEmpty then []
        else .word " GROUP BY " :: separated ", " groupColumns) ∧
      opensApart (if groupColumns.isEmpty then []
        else .word " GROUP BY " :: separated ", " groupColumns) = true := by
    by_cases empty : groupColumns.isEmpty = true
    · rw [if_pos empty]
      exact ⟨silent_nil, rfl⟩
    · rw [if_neg empty]
      exact ⟨(Silent.separated ", " (by decide) (by decide) silentGroups).cons_word (by decide), rfl⟩
  exact ⟨silent_before silentColumns silentTables, between.1, between.2, silentEnd, endApart⟩

theorem Query.frame_tidy {q : Query} {source : Table} {target? : Option Table} {scope : Scope}
    {frame : Frame} (accepted : q.frame source target? = .ok (scope, frame)) : frame.Tidy := by
  rcases bind_ok accepted with ⟨join?, _, accepted⟩
  rcases bind_ok accepted with ⟨tables, tablesAccepted, accepted⟩
  have silentTables := silent_fromClause tablesAccepted
  cases grouping : q.grouping? with
  | none =>
      rw [grouping] at accepted
      rcases bind_ok accepted with ⟨plain, framed, accepted⟩
      cases accepted
      exact plainFrame_tidy framed silentTables
  | some g =>
      rw [grouping] at accepted
      rcases bind_ok accepted with ⟨grouped, framed, accepted⟩
      cases accepted
      exact groupedFrame_tidy framed silentTables

theorem Query.written_ok {q : Query} {scope : Scope} {frame : Frame} (tidy : frame.Tidy) :
    Separate (q.written scope frame) ∧
      Numbered 0 (q.filter.arity + q.groupFilter.groupArity) (paramsOf (q.written scope frame)) := by
  rcases q.groupFilter.groupWritten_ok q.filter.arity with
    ⟨separateGroups, apartGroups, numberedGroups⟩
  constructor
  · have separate := tidy.before.separate_append (q.filter.separate_written (.ofScope scope) 0)
    exact separate_append (separate_append (separate_append separate tidy.between.separate
      tidy.between_apart) separateGroups apartGroups) tidy.after.separate tidy.after_apart
  · have numberedFilter := q.filter.numbered_written (.ofScope scope) 0
    rw [← Nat.zero_add q.filter.arity] at numberedGroups
    have all := numberedFilter.append numberedGroups
    simp only [Query.written, paramsOf_append, tidy.before.params_eq, tidy.between.params_eq,
      tidy.after.params_eq, List.nil_append, List.append_nil, Nat.zero_add] at all ⊢
    exact all

/-! ## Statements -/

namespace Request

def arity : Request → Nat
  | filter _ f => f.arity
  | tableFilter _ _ f => f.arity
  | select q _ _ => q.filter.arity + q.groupFilter.groupArity
  | count _ f => f.arity
  | delete _ f => f.arity
  | update _ changes f => changes.arity + f.arity
  | insert _ row => row.keys.length

theorem length_operands {r : Request} {values : List Scalar} (accepted : r.operands = .ok values) :
    values.length = r.arity := by
  cases r with
  | filter params f => exact (builds_whereClause .asNamed f).length_eq values accepted
  | tableFilter table params f => exact (builds_whereIn table f).length_eq values accepted
  | select q source target? =>
      rcases bind_ok accepted with ⟨⟨scope, frame⟩, _, accepted⟩
      rcases bind_ok accepted with ⟨own, ownAccepted, accepted⟩
      rcases bind_ok accepted with ⟨others, othersAccepted, accepted⟩
      cases accepted
      rw [List.length_append, (builds_whereClause _ q.filter).length_eq own ownAccepted,
        (builds_havingClause q.groupFilter).length_eq others othersAccepted]
      rfl
  | count table f => exact (builds_whereIn table f).length_eq values accepted
  | delete table f => exact (builds_whereIn table f).length_eq values accepted
  | update table changes f =>
      rcases bind_ok accepted with ⟨own, ownAccepted, accepted⟩
      rcases bind_ok accepted with ⟨others, othersAccepted, accepted⟩
      cases accepted
      rw [List.length_append, changes.length_operands ownAccepted,
        (builds_whereIn table f).length_eq others othersAccepted]
      rfl
  | insert table row => exact row.length_operands accepted

theorem written_ok {r : Request} {values : List Scalar} {pieces : List Piece}
    (accepted : r.operands = .ok values) (written : r.written = .ok pieces) :
    Separate pieces ∧ Numbered r.before.length r.arity (paramsOf pieces) := by
  cases r with
  | filter params f =>
      cases written
      exact ⟨f.separate_written _ _, f.numbered_written _ _⟩
  | tableFilter table params f =>
      cases written
      exact ⟨f.separate_written _ _, f.numbered_written _ _⟩
  | select q source target? =>
      rcases bind_ok written with ⟨⟨scope, frame⟩, framed, written⟩
      cases written
      exact Query.written_ok (Query.frame_tidy framed)
  | count table f =>
      cases written
      exact ⟨⟨by decide, by decide, by decide, f.separate_written _ _⟩, f.numbered_written _ _⟩
  | delete table f =>
      cases written
      exact ⟨⟨by decide, by decide, f.separate_written _ _⟩, f.numbered_written _ _⟩
  | update table changes f =>
      cases written
      rcases bind_ok accepted with ⟨own, changed, _⟩
      rcases Changes.written_ok changed 0 with ⟨separate, numbered⟩
      constructor
      · exact separate_word ⟨by decide, by decide, separate⟩ (f.separate_written _ _) (by decide)
          (by decide)
      · have all := numbered.append (f.numbered_written (.ofScope (.single table)) (0 + changes.arity))
        simp only [paramsOf_append, paramsOf_word, paramsOf_name]
        rw [Nat.zero_add] at all
        exact all
  | insert table row =>
      cases written
      exact row.inserted_ok table

/-- The first occurrences of the placeholders in a text that is built are numbered in a row
after the scalars bound before, which stay as they are.  The further bound scalars are the
operands in reading order, one for each number, and every part is written with the numbers
of its own operands. -/
theorem placeholders_build {r : Request} {statement : Statement}
    (accepted : r.build = .ok statement) :
    ∃ values, r.operands = .ok values ∧ statement.params = r.before ++ values ∧
      r.written = .ok statement.pieces ∧
      (placeholders statement.text).eraseDups =
        List.range' (r.before.length + 1) values.length := by
  rcases build_ok accepted with ⟨values, bound, params_eq, written⟩
  rcases written_ok bound written with ⟨separate, numbered⟩
  refine ⟨values, bound, params_eq, written, ?_⟩
  rw [Statement.text, placeholders_piecesText separate, length_operands bound]
  exact numbered

/-- The tag that is added comes first, then the name and the tag that are looked for. -/
theorem placeholders_tagging : ∃ statement,
    (tagging "new" "pen").build = .ok statement ∧
      statement.params = [.text "new", .text "pen", .text "new"] ∧
      (placeholders statement.text).eraseDups = [1, 2, 3] := by
  have built : ∃ statement, (tagging "new" "pen").build = .ok statement := ⟨_, rfl⟩
  have operands_eq : (tagging "new" "pen").operands =
    .ok [.text "new", .text "pen", .text "new"] := rfl
  rcases built with ⟨statement, built⟩
  rcases placeholders_build built with ⟨values, bound, params_eq, _, numbered⟩
  rw [operands_eq] at bound
  cases bound
  exact ⟨statement, built, params_eq, numbered⟩

end Request
end DocumentQuery
