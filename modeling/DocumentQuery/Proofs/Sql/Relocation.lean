import DocumentQuery.Proofs.Sql.Numbering

namespace DocumentQuery

open Sql

/-!
# Conditions after other operands

A condition may be compiled when scalars are bound already, as it is in an update after the
changes.  Nothing but the numbers of its placeholders depends on that: after `k` bound scalars
each number is `k` higher, and every refusal is the same.

Counting, deleting, selecting and updating compile one condition, so they agree on which filters
they accept and on the rows that they select.  That is said about their texts, in which a reader
who knows nothing of their pieces raises the numbers.
-/

namespace Sql

/-! ## Raising the numbers in a text -/

def Token.raised (offset : Nat) : Token → List Char
  | .char c => [c]
  | .placeholder number => '?' :: Decimal.natural (number + offset)

/-- The text with a number added to that of every placeholder. -/
def raised (offset : Nat) (text : String) : String :=
  String.ofList ((tokens text).flatMap (Token.raised offset))

def Piece.raised (offset : Nat) : Piece → Piece
  | .param number => .param (number + offset)
  | piece => piece

theorem flatMap_raised_char (offset : Nat) (text : List Char) :
    (text.map Token.char).flatMap (Token.raised offset) = text := by
  induction text with
  | nil => rfl
  | cons c rest inductionHypothesis => exact congrArg (c :: ·) inductionHypothesis

/-- A reader raises the numbers of the placeholders among separate pieces, and changes nothing
else. -/
theorem raised_piecesText {pieces : List Piece} (separate : Separate pieces) (offset : Nat) :
    raised offset (piecesText pieces) = piecesText (pieces.map (Piece.raised offset)) := by
  have each (piece : Piece) :
      piece.tokens.flatMap (Token.raised offset) = (piece.raised offset).text := by
    cases piece with
    | word text => exact flatMap_raised_char offset text.toList
    | name text => exact flatMap_raised_char offset (enclosed '"' text)
    | literal text => exact flatMap_raised_char offset (enclosed '\'' text)
    | param number => exact List.append_nil _
  rw [raised, tokens_piecesText separate, piecesText, List.flatMap_assoc, List.flatMap_map]
  simp only [each]

/-! ## Expressions -/

/-- An expression is another one with a number added to that of every placeholder. -/
def Raises (offset : Nat) (e later : Expr) : Prop :=
  later.pieces = e.pieces.map (Piece.raised offset)

@[simp] theorem map_raised_pathPieces (offset : Nat) (path : List String) :
    (pathPieces path).map (Piece.raised offset) = pathPieces path := by
  induction path with
  | nil => rfl
  | cons name rest inductionHypothesis =>
      cases rest with
      | nil => rfl
      | cons next others =>
          exact congrArg (fun pieces => Piece.name name :: .word "." :: pieces) inductionHypothesis

theorem map_raised_separated (offset : Nat) (separator : String) (parts : List (List Piece)) :
    (separated separator parts).map (Piece.raised offset) =
      separated separator (parts.map (List.map (Piece.raised offset))) := by
  induction parts with
  | nil => rfl
  | cons part rest inductionHypothesis =>
      cases rest with
      | nil => rfl
      | cons next others =>
          rw [separated, List.map_append, List.map_cons, inductionHypothesis]
          rfl

@[simp] theorem map_raised_paramPieces (offset first count : Nat) :
    (paramPieces (List.range' first count)).map (Piece.raised offset) =
      paramPieces (List.range' (first + offset) count) := by
  have numbers : List.range' (first + offset) count =
      (List.range' first count).map fun number => number + offset := by
    rw [Nat.add_comm, ← List.map_add_range']
    simp only [Nat.add_comm]
  rw [paramPieces, map_raised_separated, paramPieces, numbers, List.map_map, List.map_map]
  rfl

theorem Raises.joined {offset : Nat} {first firstLater second secondLater : Expr}
    (raisesFirst : Raises offset first firstLater) (raisesSecond : Raises offset second secondLater) :
    Raises offset (.binary .and first second) (.binary .and firstLater secondLater) := by
  rw [Raises, Expr.pieces, raisesFirst, raisesSecond, Expr.pieces, List.map_append]
  rfl

theorem Raises.conjunction {offset : Nat} {parts later : List Expr}
    (each : List.Forall₂ (Raises offset) parts later) :
    Raises offset (conjunction parts) (conjunction later) := by
  cases each with
  | nil => exact rfl
  | @cons first firstLater rest restLater raisesFirst raisesRest =>
      rw [Sql.conjunction, Sql.conjunction]
      induction raisesRest generalizing first firstLater with
      | nil => exact raisesFirst
      | cons raisesNext _ inductionHypothesis =>
          exact inductionHypothesis (raisesFirst.joined raisesNext)

theorem raises_writtenOf {β : Type} (arity : β → Nat) {written : β → Nat → Expr} {offset : Nat}
    (each : ∀ (part : β) (bound : Nat), Raises offset (written part bound) (written part (bound + offset)))
    (bound : Nat) (parts : List β) :
    List.Forall₂ (Raises offset) (writtenOf arity written bound parts)
      (writtenOf arity written (bound + offset) parts) := by
  induction parts generalizing bound with
  | nil => exact .nil
  | cons part rest inductionHypothesis =>
      have later := inductionHypothesis (bound + arity part)
      rw [Nat.add_right_comm] at later
      exact .cons (each part bound) later

end Sql

/-! ## Filters -/

theorem Predicate.raises_written (path : List String) (offset : Nat) (p : Predicate) (bound : Nat) :
    Raises offset (p.written (.column path) bound) (p.written (.column path) (bound + offset)) := by
  have next : bound + offset + 1 = bound + 1 + offset := Nat.add_right_comm bound offset 1
  cases p with
  | compare relation operand =>
      cases relation <;> cases operand
      all_goals simp [Raises, written, Piece.raised, next]
  | like pattern => simp [Raises, written, Piece.raised, next]
  | notLike pattern => simp [Raises, written, Piece.raised, next]
  | oneOf items => simp [Raises, written, Piece.raised, next]
  | noneOf items => simp [Raises, written, Piece.raised, next]
  | contains element =>
      simp [Raises, written, boundElement, Positions.of, Positions.contained, occurs, between,
        Piece.raised, next]
  | lacks element =>
      simp [Raises, written, boundElement, Positions.of, Positions.contained, occurs, between,
        Piece.raised, next]

theorem Condition.raises_written (columns : Columns) (offset : Nat) (c : Condition) (bound : Nat) :
    Raises offset (c.written columns bound) (c.written columns (bound + offset)) := by
  have parts := raises_writtenOf Predicate.arity
    (Predicate.raises_written (columns.path c.column) offset) bound c.predicates
  have all : Raises offset _ _ := Raises.conjunction parts
  rw [Raises, written, written, Expr.pieces, Expr.pieces, all, List.map_append, List.map_cons]
  rfl

theorem Filter.raises_written (columns : Columns) (f : Filter) (offset bound : Nat) :
    Raises offset (f.written columns bound) (f.written columns (bound + offset)) := by
  rw [written, written]
  by_cases empty : f.isEmpty = true
  · rw [if_pos empty, if_pos empty]
    simp [Raises, Piece.raised, Nat.add_right_comm bound offset]
  · rw [if_neg empty, if_neg empty]
    exact Raises.conjunction
      (raises_writtenOf Condition.arity (Condition.raises_written columns offset) bound f.conditions)

/-! ## Conditions and statements -/

namespace Sql

/-- The text of a condition that is compiled after some bound scalars, and what is bound for it. -/
def conditionText (columns : Columns) (f : Filter) (params : List Scalar) :
    Except QueryError (String × List Scalar) := do
  let (condition, bound) ← (whereClause columns f).run params
  pure (piecesText condition.pieces, bound)

/-- The text of a filter on the columns of one table, compiled before anything else. -/
def conditionIn (table : Table) (f : Filter) : Except QueryError (String × List Scalar) :=
  conditionText (.ofScope (.single table)) f []

/-- The text of a statement, and what is bound to its placeholders. -/
def Statement.read (s : Statement) : String × List Scalar :=
  (s.text, s.params)

theorem conditionText_eq (columns : Columns) (f : Filter) (params : List Scalar) :
    conditionText columns f params = (f.operands columns).map fun values =>
      (piecesText (f.written columns params.length).pieces, params ++ values) := by
  rw [conditionText, (builds_whereClause columns f).run_eq]
  cases f.operands columns <;> rfl

/-- Raising the numbers of a condition compiled after nothing gives the condition compiled after
some bound scalars. -/
theorem conditionText_after (columns : Columns) (f : Filter) (params : List Scalar) :
    conditionText columns f params = (conditionText columns f []).map fun (text, values) =>
      (raised params.length text, params ++ values) := by
  have raises := f.raises_written columns params.length 0
  rw [Nat.zero_add, Raises] at raises
  rw [conditionText_eq, conditionText_eq]
  cases f.operands columns with
  | error error => rfl
  | ok values =>
      have text_eq := raised_piecesText (f.separate_written columns 0) params.length
      rw [← raises] at text_eq
      exact congrArg (fun text => Except.ok (text, params ++ values)) text_eq.symm

/-! ## Statements around a condition -/

theorem piecesText_append (first second : List Piece) :
    piecesText (first ++ second) = piecesText first ++ piecesText second := by
  rw [piecesText, List.flatMap_append, String.ofList_append]
  rfl

theorem piecesText_word (text : String) (rest : List Piece) :
    piecesText (.word text :: rest) = text ++ piecesText rest := by
  rw [← List.singleton_append, piecesText_append]
  refine congrArg (· ++ piecesText rest) ?_
  rw [piecesText, List.flatMap_cons, List.flatMap_nil, List.append_nil]
  exact String.ofList_toList

theorem piecesText_name (name : String) (rest : List Piece) :
    piecesText (.name name :: rest) = quoteName name ++ piecesText rest := by
  rw [← List.singleton_append, piecesText_append]
  rfl

theorem piecesText_nil : piecesText [] = "" := rfl

/-- What is built after some bound scalars, read as a text. -/
def readAfter (builder : Binder (List Piece)) (params : List Scalar) :
    Except QueryError (String × List Scalar) :=
  (builder.run params).map fun (pieces, bound) => (piecesText pieces, bound)

theorem read_build (builder : Binder (List Piece)) :
    (Statement.build builder).map Statement.read = readAfter builder [] := by
  rw [Statement.build, readAfter]
  cases builder.run [] <;> rfl

/-- A condition that stands between two other parts. -/
theorem readAfter_condition (columns : Columns) (f : Filter) (frame : List Piece → List Piece)
    (params : List Scalar) {before after : List Piece}
    (framed : ∀ pieces, frame pieces = before ++ pieces ++ after) :
    readAfter (whereClause columns f >>= fun condition => pure (frame condition.pieces)) params =
      (conditionText columns f params).map fun (text, bound) =>
        (piecesText before ++ text ++ piecesText after, bound) := by
  rw [readAfter, StateT.run_bind, conditionText]
  cases (whereClause columns f).run params with
  | error error => rfl
  | ok built =>
      have text_eq : piecesText (frame built.1.pieces) =
          piecesText before ++ piecesText built.1.pieces ++ piecesText after := by
        rw [framed, piecesText_append, piecesText_append]
      exact congrArg (fun text => Except.ok (text, built.2)) text_eq

/-- The condition is the last part of what is written. -/
theorem readAfter_final (columns : Columns) (f : Filter) (before : List Piece)
    (params : List Scalar) :
    readAfter (whereClause columns f >>= fun condition => pure (before ++ condition.pieces)) params =
      (conditionText columns f params).map fun (text, bound) => (piecesText before ++ text, bound) := by
  have framed (pieces : List Piece) : before ++ pieces = before ++ pieces ++ [] :=
    (List.append_nil _).symm
  rw [readAfter_condition columns f (fun pieces => before ++ pieces) params framed, piecesText_nil]
  simp only [String.append_empty]

/-- The text that ends with a condition, given the text before it. -/
theorem piecesText_before (first name second : String) :
    piecesText [.word first, .name name, .word second] = first ++ quoteName name ++ second := by
  rw [piecesText_word, piecesText_name, piecesText_word, piecesText_nil, String.append_empty,
    String.append_assoc]

theorem read_count (table : Table) (f : Filter) :
    (count table f).map Statement.read = (conditionIn table f).map
      fun (text, values) => ("SELECT count(*) AS \"count\" FROM " ++ quoteName table.storeName ++
        " WHERE " ++ text, values) := by
  have columns_eq : "SELECT count(*) AS " ++ quoteName "count" ++ " FROM " =
      "SELECT count(*) AS \"count\" FROM " := rfl
  have before : piecesText [.word "SELECT count(*) AS ", .name "count", .word " FROM ",
      .name table.storeName, .word " WHERE "] =
      "SELECT count(*) AS \"count\" FROM " ++ quoteName table.storeName ++ " WHERE " := by
    rw [piecesText_word, piecesText_name, piecesText_before, ← columns_eq]
    simp only [String.append_assoc]
  rw [← before]
  exact (read_build _).trans (readAfter_final (.ofScope (.single table)) f
    [.word "SELECT count(*) AS ", .name "count", .word " FROM ", .name table.storeName,
      .word " WHERE "] [])

theorem read_delete (table : Table) (f : Filter) :
    (delete table f).map Statement.read = (conditionIn table f).map fun (text, values) =>
      ("DELETE FROM " ++ quoteName table.storeName ++ " WHERE " ++ text, values) := by
  rw [← piecesText_before]
  exact (read_build _).trans (readAfter_final (.ofScope (.single table)) f
    [.word "DELETE FROM ", .name table.storeName, .word " WHERE "] [])

/-- A query without a grouping, joins and an order, whether or not a target is offered. -/
theorem read_select (table : Table) (target? : Option Table) (f : Filter) (limit? : Option Limit) :
    (select { filter := f, limit? := limit? } table target?).map Statement.read =
      (conditionIn table f).map fun (text, values) =>
        ("SELECT * FROM " ++ quoteName table.storeName ++ " WHERE " ++ text ++
          piecesText (limitClause limit?), values) := by
  have select_eq : select { filter := f, limit? := limit? } table target? =
      Statement.build (plainSelect { filter := f, limit? := limit? } (.single table)
        [.name table.storeName]) := by
    cases target? <;> rfl
  have before : piecesText [.word "SELECT ", .word "*", .word " FROM ", .name table.storeName,
      .word " WHERE "] = "SELECT * FROM " ++ quoteName table.storeName ++ " WHERE " := by
    rw [piecesText_word, piecesText_word, piecesText_before]
    simp only [← String.append_assoc]
    rfl
  rw [select_eq, ← before, read_build]
  refine readAfter_condition (.ofScope (.single table)) f (fun condition =>
    .word "SELECT " :: [.word "*"] ++ .word " FROM " :: [.name table.storeName] ++
      .word " WHERE " :: condition ++ [] ++ limitClause limit?) [] fun condition => ?_
  simp only [List.append_nil, List.cons_append, List.nil_append]

/-- The condition of an update is compiled after the operands of its changes, which raises its
numbers by that of these operands. -/
theorem read_update (table : Table) (f : Filter) {changes : Changes}
    (notEmpty : changes.entries ≠ []) {assignments : List (List Piece)} {values : List Scalar}
    (accepted : (changes.entries.mapM fun (column, change) =>
      assignmentIn table column change).run [] = .ok (assignments, values)) :
    (update table changes f).map Statement.read =
      (conditionIn table f).map fun (text, own) =>
        ("UPDATE " ++ quoteName table.storeName ++ " SET " ++
          piecesText (separated ", " assignments) ++ " WHERE " ++ raised values.length text,
          values ++ own) := by
  have passes : (!changes.entries.isEmpty) = true := by
    rw [Bool.not_eq_true', List.isEmpty_eq_false_iff]
    exact notEmpty
  let before : List Piece := .word "UPDATE " :: .name table.storeName :: .word " SET " ::
    separated ", " assignments ++ [.word " WHERE "]
  have before_eq : piecesText before = "UPDATE " ++ quoteName table.storeName ++ " SET " ++
      piecesText (separated ", " assignments) ++ " WHERE " := by
    simp only [before, List.cons_append, piecesText_append, piecesText_word, piecesText_name,
      piecesText_nil, String.append_empty, String.append_assoc]
  let frame (condition : List Piece) : List Piece := .word "UPDATE " :: .name table.storeName ::
    .word " SET " :: separated ", " assignments ++ .word " WHERE " :: condition
  have framed (condition : List Piece) : frame condition = before ++ condition ++ [] := by
    simp only [frame, before, List.cons_append, List.append_assoc, List.nil_append,
      List.append_nil]
  have after := readAfter_condition (.ofScope (.single table)) f frame values framed
  simp only [piecesText_nil, String.append_empty, before_eq] at after
  rw [conditionText_after] at after
  have first : (update table changes f).map Statement.read = readAfter (whereIn table f >>=
      fun condition => pure (frame condition.pieces)) values := by
    rw [update, passes]
    refine (read_build _).trans ?_
    rw [readAfter, StateT.run_bind, accepted]
    rfl
  rw [first]
  refine after.trans ?_
  rw [conditionIn]
  cases conditionText (.ofScope (.single table)) f [] with
  | error error => simp only [Except.map]
  | ok condition => simp only [Except.map]

/-- Counting, deleting, selecting and updating accept the same filters, refuse the others for the
same reason, and select by one condition.  In an update its numbers are higher by the number of
scalars that the changes bind.  Every condition is relocated in this way. -/
theorem conditions_agree (table : Table) (f : Filter) :
    (count table f).map Statement.read = (conditionIn table f).map
      (fun (text, values) => ("SELECT count(*) AS \"count\" FROM " ++ quoteName table.storeName ++
        " WHERE " ++ text, values)) ∧
    (delete table f).map Statement.read = (conditionIn table f).map
      (fun (text, values) =>
        ("DELETE FROM " ++ quoteName table.storeName ++ " WHERE " ++ text, values)) ∧
    (∀ (target? : Option Table) (limit? : Option Limit),
      (select { filter := f, limit? := limit? } table target?).map Statement.read =
        (conditionIn table f).map fun (text, values) =>
          ("SELECT * FROM " ++ quoteName table.storeName ++ " WHERE " ++ text ++
            piecesText (limitClause limit?), values)) ∧
    (∀ (changes : Changes) (assignments : List (List Piece)) (values : List Scalar),
      changes.entries ≠ [] →
      (changes.entries.mapM fun (column, change) =>
        assignmentIn table column change).run [] = .ok (assignments, values) →
      (update table changes f).map Statement.read = (conditionIn table f).map fun (text, own) =>
        ("UPDATE " ++ quoteName table.storeName ++ " SET " ++
          piecesText (separated ", " assignments) ++ " WHERE " ++ raised values.length text,
          values ++ own)) ∧
    ∀ (columns : Columns) (params : List Scalar),
      conditionText columns f params = (conditionText columns f []).map fun (text, values) =>
        (raised params.length text, params ++ values) := by
  refine ⟨read_count table f, read_delete table f, ?_, ?_, ?_⟩
  · intro target? limit?
    exact read_select table target? f limit?
  · intro changes assignments values notEmpty accepted
    exact read_update table f notEmpty accepted
  · intro columns params
    exact conditionText_after columns f params

/-- What the size grows by is bound first, and the numbers in the condition are higher by one. -/
theorem conditions_agree_larger :
    let items : Table := ⟨"default", "items", [{ name := "size", type := .integer }]⟩
    let large : Filter := ⟨[⟨"size", [.compare .ge (.integer 3), .oneOf [.integer 4, .null]]⟩]⟩
    ∃ (assignments : List (List Piece)) (text : String),
      (count items large).map Statement.read = .ok ("SELECT count(*) AS \"count\" FROM " ++
        quoteName items.storeName ++ " WHERE " ++ text, [.integer 3, .integer 4, .null]) ∧
      (update items ⟨[("size", .increase (.integer 7))]⟩ large).map Statement.read = .ok
        ("UPDATE " ++ quoteName items.storeName ++ " SET " ++
          piecesText (separated ", " assignments) ++ " WHERE " ++ raised 1 text,
          [.integer 7, .integer 3, .integer 4, .null]) := by
  intro items large
  have condition : ∃ text, conditionIn items large =
      .ok (text, [.integer 3, .integer 4, .null]) := ⟨_, rfl⟩
  have accepted : ∃ assignments, ([("size", Change.increase (.integer 7))].mapM
      fun (column, change) => assignmentIn items column change).run [] =
        .ok (assignments, [.integer 7]) := ⟨_, rfl⟩
  rcases condition with ⟨text, condition⟩
  rcases accepted with ⟨assignments, accepted⟩
  have counted := (conditions_agree items large).1
  have updated := (conditions_agree items large).2.2.2.1 ⟨[("size", .increase (.integer 7))]⟩
    assignments _ (List.cons_ne_nil _ _) accepted
  simp only [condition, Except.map] at counted updated
  exact ⟨assignments, text, counted, updated⟩

end Sql
end DocumentQuery
