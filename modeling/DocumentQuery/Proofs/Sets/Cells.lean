import DocumentQuery.Proofs.Sets.Columns

namespace DocumentQuery

open Brackets Sql

/-!
# Cells of set columns

A change of a column is one part of a statement, with scalars bound before and after it.
Its expression is evaluated in the cells as they were, and the result is put into the cell
of the column.  A predicate is evaluated in the same way, and decides whether a row is
selected.

What comes out of an expression is known from its outcome on characters.  The lemmas here
take such outcomes to cells and do not ask which lists have them.  Where words may be
looked up, inserted and removed in every list, a cell follows the edits that are made to it
through any number of changes.
-/

/-- A part of a statement, and what is bound before and after it. -/
structure Part (α : Type) where
  earlier : List Scalar
  content : α
  later : List Scalar

/-- The cells after a change of one column. -/
def edited (engine : Engine) (column : String) (type : ColumnType)
    (cells : List String → Datum) (change : Part Change) :
    Except QueryError (List String → Datum) := do
  let (value, bound) ← (changedValue column type change.content).run change.earlier
  pure (Function.update cells (Reference.ofText column).path
    (value.eval engine ⟨cells, bound ++ change.later⟩))

/-- The condition that is built for a predicate on a column is true of the cells exactly if a
proposition holds. -/
def Decides (engine : Engine) (column : String) (type : ColumnType) (cells : List String → Datum)
    (p : Part Predicate) (holds : Prop) : Prop :=
  ∃ (condition : Expr) (bound : List Scalar),
    (predicate (.column (Reference.ofText column).path) (some type) p.content).run p.earlier =
        .ok (condition, bound) ∧
      (condition.IsTrue engine ⟨cells, bound ++ p.later⟩ ↔ holds)

section

variable {engine : Engine} {column : String} {type : ColumnType} {cells : List String → Datum}

theorem edited_eq {change : Part Change} {operand : Scalar}
    (operands : change.content.operands column type = .ok [operand]) :
    edited engine column type cells change =
      .ok (Function.update cells (Reference.ofText column).path
        ((change.content.written column type change.earlier.length).eval engine
          ⟨cells, change.earlier ++ [operand] ++ change.later⟩)) := by
  have run := (builds_changedValue column type change.content).run_eq change.earlier
  rw [edited, run, operands]
  rfl

/-- A change that can be made has operands that are accepted. -/
theorem operands_of_edited {change : Part Change} {result : List String → Datum}
    (made : edited engine column type cells change = .ok result) :
    ∃ values : List Scalar, change.content.operands column type = .ok values := by
  rcases bind_ok made with ⟨_, run, _⟩
  rw [(builds_changedValue column type change.content).run_eq] at run
  cases accepted : change.content.operands column type with
  | ok values => exact ⟨values, rfl⟩
  | error error =>
      rw [accepted] at run
      exact nomatch run

theorem Decides.congr {p : Part Predicate} {holds other : Prop}
    (decides : Decides engine column type cells p holds) (same : holds ↔ other) :
    Decides engine column type cells p other :=
  propext same ▸ decides

theorem Decides.iff {p : Part Predicate} {holds other : Prop}
    (decides : Decides engine column type cells p holds)
    (decidesToo : Decides engine column type cells p other) : holds ↔ other := by
  rcases decides with ⟨condition, bound, built, first⟩
  rcases decidesToo with ⟨_, _, builtToo, second⟩
  rw [built] at builtToo
  cases builtToo
  exact first.symm.trans second

theorem decides_iff {p : Predicate} {earlier later : List Scalar} {operand : Scalar} {holds : Prop}
    (operands : p.operands (some type) = .ok [operand]) :
    Decides engine column type cells ⟨earlier, p, later⟩ holds ↔
      ((p.written (.column (Reference.ofText column).path) earlier.length).IsTrue engine
        ⟨cells, earlier ++ [operand] ++ later⟩ ↔ holds) := by
  have run := (builds_predicate (.column (Reference.ofText column).path) (some type) p).run_eq
    earlier
  rw [operands] at run
  constructor
  · rintro ⟨condition, bound, built, decides⟩
    rw [run] at built
    cases built
    exact decides
  · exact fun decides => ⟨_, _, run, decides⟩

end

namespace SetColumn

variable {α : Type} (c : SetColumn α)

/-- The cell of the column is stored in the row. -/
def Holds (column : String) (cells : List String → Datum) (cell : Option (List α)) : Prop :=
  cells (Reference.ofText column).path = (c.stored cell).datum

/-- The scalar that is bound for an edit. -/
def operand : SetEdit α → Scalar
  | .set cell => c.stored cell
  | .add e => (c.value e).toScalar
  | .remove e => (c.value e).toScalar

variable {c} {engine : Engine} {column : String} {cells : List String → Datum}

theorem Edits.operands_eq {change : Change} {edit : SetEdit α} (edits : c.Edits change edit)
    (column : String) : change.operands column c.type = .ok [c.operand edit] := by
  cases edits with
  | setNull =>
      rw [Change.operands, c.stored_null]
      rfl
  | set notNull operands =>
      rw [Change.operands, c.stored_eq notNull operands]
      rfl
  | add operand =>
      rw [Change.operands, c.isNumeric_eq, c.isSet, Change.operands.element, c.element_eq operand]
      rfl
  | remove operand =>
      rw [Change.operands, c.isSet, Change.operands.element, c.element_eq operand]
      rfl

/-- A part of a value that is accepted stands for an element. -/
theorem exists_element {v other : Value} (accepted : c.type.element v = .ok other) :
    ∃ e : α, c.element? v = some e := by
  have found := orReject_eq_ok accepted
  rw [c.element?_eq] at found
  rcases Option.map_eq_some_iff.mp found with ⟨e, operand, _⟩
  exact ⟨e, operand⟩

theorem exists_elements {values others : List Value}
    (accepted : List.Forall₂ (fun v other => c.type.element v = .ok other) values others) :
    ∃ items : List α, values.mapM c.element? = some items := by
  induction accepted with
  | nil => exact ⟨[], rfl⟩
  | cons first _ inductionHypothesis =>
      rcases exists_element first with ⟨e, operand⟩
      rcases inductionHypothesis with ⟨items, operands⟩
      refine ⟨e :: items, ?_⟩
      rw [List.mapM_cons, operand, operands]
      rfl

/-- Only edits are accepted as changes of a set column. -/
theorem exists_edits {change : Change} {column : String} {values : List Scalar}
    (accepted : change.operands column c.type = .ok values) :
    ∃ edit : SetEdit α, c.Edits change edit := by
  have unsupported {result : Except QueryError (List Scalar)}
      (given : (if c.type.isNumeric then result
        else Change.operands.unsupported column c.type change) = .ok values) : False := by
    rw [c.isNumeric_eq] at given
    exact nomatch given
  cases change with
  | set v =>
      rcases bind_ok accepted with ⟨stored, accepted, _⟩
      rw [ColumnType.stored, c.isSet] at accepted
      cases null : v.isNull with
      | true =>
          rw [v.isNull_iff.mp null]
          exact ⟨.set none, .setNull⟩
      | false =>
          rw [null] at accepted
          rcases bind_ok accepted with ⟨elements, accepted, _⟩
          rcases exists_elements (forall₂_of_mapM_ok accepted) with ⟨items, operands⟩
          exact ⟨.set (some items), .set null operands⟩
  | increase v => exact (unsupported accepted).elim
  | decrease v => exact (unsupported accepted).elim
  | multiply v => exact (unsupported accepted).elim
  | add v =>
      rw [Change.operands, c.isNumeric_eq, c.isSet] at accepted
      rcases bind_ok accepted with ⟨element, accepted, _⟩
      rcases exists_element accepted with ⟨e, operand⟩
      exact ⟨.add e, .add operand⟩
  | remove v =>
      rw [Change.operands, c.isSet] at accepted
      rcases bind_ok accepted with ⟨element, accepted, _⟩
      rcases exists_element accepted with ⟨e, operand⟩
      exact ⟨.remove e, .remove operand⟩

theorem membership_operands_eq {sought : Scalar} {e : α}
    (operand : c.element? (.ofScalar sought) = some e) :
    (Predicate.contains sought).operands (some c.type) = .ok [(c.value e).toScalar] ∧
      (Predicate.lacks sought).operands (some c.type) = .ok [(c.value e).toScalar] := by
  have sought_eq :
      Predicate.soughtOperand (some c.type) sought = .ok [(c.value e).toScalar] := by
    rw [Predicate.soughtOperand, ColumnType.membershipOperand, c.isSet, if_pos rfl,
      c.element_eq operand]
    rfl
  exact ⟨sought_eq, sought_eq⟩

theorem eval_element (documented : engine.Documented) (earlier later : List Scalar) (e : α) :
    (Expr.jsonQuote (.param (earlier.length + 1))).eval engine
      ⟨cells, earlier ++ [(c.value e).toScalar] ++ later⟩ = .text (String.ofList (c.word e)) := by
  rw [Expr.eval, Expr.eval, Env.param_bound, c.jsonQuote_eq engine documented]
  rfl

theorem Holds.eval_column {cell : Option (List α)} (holds : c.Holds column cells cell)
    (params : List Scalar) :
    (Expr.column (Reference.ofText column).path).eval engine ⟨cells, params⟩ =
      (c.stored cell).datum := by
  rw [Expr.eval]
  exact holds

theorem Holds.eval_column_some {items : List α} (holds : c.Holds column cells (some items))
    (params : List Scalar) :
    (Expr.column (Reference.ofText column).path).eval engine ⟨cells, params⟩ =
      .text (String.ofList (bracketed (items.map c.word))) := by
  rw [holds.eval_column, c.stored_some]

theorem nonzero_bracketed (items : List α) : '\x00' ∉ bracketed (items.map c.word) := by
  have closing_nonzero (rest : List α) : '\x00' ∉ closing (rest.map c.word) := by
    simpa [closing, word] using fun e _ => c.nonzero e
  cases items with
  | nil =>
      rw [List.map_nil]
      decide
  | cons e rest =>
      have first := c.nonzero e
      have later := closing_nonzero rest
      rw [List.map_cons, bracketed, List.mem_append, List.mem_cons]
      rintro ((zero | zero) | zero)
      · exact absurd zero (by decide)
      · exact first zero
      · exact later zero

/-! ## One change -/

theorem edited_set {change : Part Change} {cell : Option (List α)}
    (edits : c.Edits change.content (.set cell)) :
    edited engine column c.type cells change =
      .ok (Function.update cells (Reference.ofText column).path (c.stored cell).datum) := by
  have written : change.content.written column c.type change.earlier.length =
      .param (change.earlier.length + 1) := by
    cases change with
    | mk earlier content later => cases edits <;> rfl
  rw [edited_eq (edits.operands_eq column), written, Expr.eval, Env.param_bound]
  rfl

variable {change : Part Change} {e : α}

private theorem written_add (edits : c.Edits change.content (.add e)) (column : String)
    (bound : Nat) : change.content.written column c.type bound =
      (Predicate.boundElement (bound + 1)).inserted (.column (Reference.ofText column).path) := by
  cases change with
  | mk earlier content later =>
      cases edits with
      | add operand =>
          rw [Change.written, c.isNumeric_eq, c.isSet]
          rfl

private theorem written_remove (edits : c.Edits change.content (.remove e)) (column : String)
    (bound : Nat) : change.content.written column c.type bound =
      (Predicate.boundElement (bound + 1)).removed (.column (Reference.ofText column).path) := by
  cases change with
  | mk earlier content later =>
      cases edits with
      | remove operand => rfl

section

variable (documented : engine.Documented)
include documented

/-- An element is inserted into the text of a list. -/
theorem edited_add {items : List α} {t : List Char} (edits : c.Edits change.content (.add e))
    (holds : c.Holds column cells (some items))
    (inserted : Inserted (c.word e) (bracketed (items.map c.word)) t) :
    edited engine column c.type cells change =
      .ok (Function.update cells (Reference.ofText column).path (.text (String.ofList t))) := by
  have nonempty : bracketed (items.map c.word) ≠ [] := bracketed_ne_nil _
  rw [edited_eq (edits.operands_eq column), written_add edits]
  exact congrArg (fun datum => Except.ok (Function.update cells _ datum))
    (eval_inserted documented (nonzero_bracketed items) nonempty
      (eval_element documented _ _ e) (holds.eval_column_some _) inserted)

theorem edited_add_null (edits : c.Edits change.content (.add e))
    (holds : c.Holds column cells none) :
    edited engine column c.type cells change =
      .ok (Function.update cells (Reference.ofText column).path
        (.text (String.ofList (mark '[' (c.word e) ']')))) := by
  rw [edited_eq (edits.operands_eq column), written_add edits]
  exact congrArg (fun datum => Except.ok (Function.update cells _ datum))
    (eval_inserted_null documented (eval_element documented _ _ e) (holds.eval_column _))

/-- An element is removed from the text of a list. -/
theorem edited_remove {items : List α} {t : List Char}
    (edits : c.Edits change.content (.remove e)) (holds : c.Holds column cells (some items))
    (removed : Removed (c.word e) (bracketed (items.map c.word)) t) :
    edited engine column c.type cells change =
      .ok (Function.update cells (Reference.ofText column).path (.text (String.ofList t))) := by
  rw [edited_eq (edits.operands_eq column), written_remove edits]
  exact congrArg (fun datum => Except.ok (Function.update cells _ datum))
    (eval_removed documented (eval_element documented _ _ e) (holds.eval_column_some _) removed)

theorem edited_remove_null (edits : c.Edits change.content (.remove e))
    (holds : c.Holds column cells none) :
    edited engine column c.type cells change =
      .ok (Function.update cells (Reference.ofText column).path .null) := by
  rw [edited_eq (edits.operands_eq column), written_remove edits]
  exact congrArg (fun datum => Except.ok (Function.update cells _ datum))
    (eval_removed_null documented (holds.eval_column _))

end

/-! ## Predicates -/

section

variable {sought : Scalar} (documented : engine.Documented)
  (operand : c.element? (.ofScalar sought) = some e)
include documented operand

/-- A cell has an element where its text has one of the marks of the element. -/
theorem decides_contains {items : List α} {found : Prop}
    (holds : c.Holds column cells (some items))
    (found_iff : Found (c.word e) (bracketed (items.map c.word)) ↔ found)
    (earlier later : List Scalar) :
    Decides engine column c.type cells ⟨earlier, .contains sought, later⟩ found := by
  rcases eval_contained documented
      (eval_element (c := c) documented earlier later e) (holds.eval_column_some _) with
    ⟨truth, contained, truth_iff⟩
  rw [decides_iff (membership_operands_eq operand).1, ← found_iff, ← truth_iff]
  change engine.truth (((Predicate.boundElement (earlier.length + 1)).contained _).eval engine _) =
    some true ↔ _
  rw [Predicate.boundElement, contained, truth_ofTruth documented, Option.some_inj]

/-- A cell lacks an element where its text has none of the marks of the element. -/
theorem decides_lacks {items : List α} {found : Prop}
    (holds : c.Holds column cells (some items))
    (found_iff : Found (c.word e) (bracketed (items.map c.word)) ↔ found)
    (earlier later : List Scalar) :
    Decides engine column c.type cells ⟨earlier, .lacks sought, later⟩ ¬found := by
  rcases eval_contained documented
      (eval_element (c := c) documented earlier later e) (holds.eval_column_some _) with
    ⟨truth, contained, truth_iff⟩
  have isNull : (Expr.isNull (.column (Reference.ofText column).path)).eval engine
      ⟨cells, earlier ++ [(c.value e).toScalar] ++ later⟩ = .ofTruth (some false) := by
    rw [Expr.eval, holds.eval_column_some]
    rfl
  have notContained : (Expr.not ((Predicate.boundElement (earlier.length + 1)).contained
      (.column (Reference.ofText column).path))).eval engine
        ⟨cells, earlier ++ [(c.value e).toScalar] ++ later⟩ = .ofTruth (some !truth) := by
    rw [Expr.eval, Predicate.boundElement, contained, truth_ofTruth documented]
    rfl
  rw [decides_iff (membership_operands_eq operand).2, ← found_iff, ← truth_iff]
  change engine.truth ((Expr.binary .or _ _).eval engine _) = some true ↔ _
  rw [eval_or documented isNull notContained, truth_ofTruth documented, Option.some_inj,
    Bool.false_or, Bool.not_eq_true', Bool.not_eq_true]

theorem decides_contains_null (holds : c.Holds column cells none) (earlier later : List Scalar) :
    Decides engine column c.type cells ⟨earlier, .contains sought, later⟩ False := by
  rw [decides_iff (membership_operands_eq operand).1]
  change engine.truth (((Predicate.boundElement (earlier.length + 1)).contained _).eval engine _) =
    some true ↔ _
  rw [Predicate.boundElement, eval_contained_null documented (holds.eval_column _),
    truth_ofTruth documented]
  exact iff_of_false (Option.some_ne_none true).symm id

theorem decides_lacks_null (holds : c.Holds column cells none) (earlier later : List Scalar) :
    Decides engine column c.type cells ⟨earlier, .lacks sought, later⟩ True := by
  have isNull : (Expr.isNull (.column (Reference.ofText column).path)).eval engine
      ⟨cells, earlier ++ [(c.value e).toScalar] ++ later⟩ = .ofTruth (some true) := by
    rw [Expr.eval, holds.eval_column]
    rfl
  rw [decides_iff (membership_operands_eq operand).2]
  change engine.truth ((Expr.binary .or _ _).eval engine _) = some true ↔ _
  rw [Expr.eval, isNull, Operator.apply, truth_ofTruth documented, truth_ofTruth documented]
  exact iff_of_true rfl trivial

end

/-! ## Any number of changes -/

/-- Changes that can be made one after the other are edits. -/
theorem exists_edits_of_foldlM {changes : List (Part Change)} {reached : List String → Datum}
    (run : changes.foldlM (edited engine column c.type) cells = .ok reached) :
    ∃ edits : List (SetEdit α),
      List.Forall₂ (fun change => c.Edits change.content) changes edits := by
  induction changes generalizing cells with
  | nil => exact ⟨[], .nil⟩
  | cons change rest inductionHypothesis =>
      rw [List.foldlM_cons] at run
      rcases bind_ok run with ⟨next, made, run⟩
      rcases operands_of_edited made with ⟨_, accepted⟩
      rcases exists_edits accepted with ⟨edit, first⟩
      rcases inductionHypothesis run with ⟨edits, later⟩
      exact ⟨edit :: edits, .cons first later⟩

/-- Where one change makes of a cell what a function of the edit makes of it, any number of
changes does so too. -/
theorem edited_foldl_of {move : SetEdit α → Option (List α) → Option (List α)}
    {Fits : Option (List α) → Prop}
    (step : ∀ {cells : List String → Datum} {change : Part Change} {edit : SetEdit α}
      {cell : Option (List α)}, c.Edits change.content edit → c.Holds column cells cell →
        Fits cell → edited engine column c.type cells change =
          .ok (Function.update cells (Reference.ofText column).path
            (c.stored (move edit cell)).datum))
    {changes : List (Part Change)} {edits : List (SetEdit α)} {cell : Option (List α)}
    (follow : List.Forall₂ (fun change => c.Edits change.content) changes edits)
    (keepFits : ∀ edit ∈ edits, ∀ cell : Option (List α), Fits cell → Fits (move edit cell))
    (holds : c.Holds column cells cell) (fits : Fits cell) :
    changes.foldlM (edited engine column c.type) cells =
      .ok (Function.update cells (Reference.ofText column).path
        (c.stored (edits.foldl (fun cell edit => move edit cell) cell)).datum) := by
  induction follow generalizing cells cell with
  | nil =>
      rw [List.foldl_nil, ← holds, Function.update_eq_self]
      rfl
  | @cons change edit changes edits first _ inductionHypothesis =>
      have next : c.Holds column (Function.update cells (Reference.ofText column).path
          (c.stored (move edit cell)).datum) (move edit cell) := Function.update_self _ _ _
      have later := inductionHypothesis (fun other member =>
        keepFits other (List.mem_cons_of_mem edit member)) next
        (keepFits edit List.mem_cons_self cell fits)
      rw [List.foldlM_cons, step first holds fits, ok_bind, later, Function.update_idem,
        List.foldl_cons]

section

variable [DecidableEq α] (documented : engine.Documented)
  (legible : ∀ (items : List α) (e : α), Legible (items.map c.word) (c.word e))
include documented legible

/-- An element that is added to a cell is added at the end, unless the cell has it. -/
theorem edited_add_apply {e : α} {cell : Option (List α)}
    (edits : c.Edits change.content (.add e)) (holds : c.Holds column cells cell) :
    edited engine column c.type cells change =
      .ok (Function.update cells (Reference.ofText column).path
        (c.stored ((SetEdit.add e).apply cell)).datum) := by
  cases cell with
  | none =>
      rw [edited_add_null documented edits holds, SetEdit.apply, c.stored_some]
      rfl
  | some items =>
      have inserted := (legible items e).inserted
      have member_iff : c.word e ∈ items.map c.word ↔ e ∈ items :=
        List.mem_map_of_injective c.word_injective
      rw [edited_add documented edits holds inserted, SetEdit.apply, c.stored_some]
      by_cases member : e ∈ items
      · rw [if_pos member, if_pos (member_iff.mpr member)]
      · rw [if_neg member, if_neg (mt member_iff.mp member), List.map_append]
        rfl

/-- One change makes of a cell what the edit makes of it. -/
theorem edited_apply {edit : SetEdit α} {cell : Option (List α)}
    (edits : c.Edits change.content edit) (holds : c.Holds column cells cell)
    (distinct : SetEdit.Distinct cell) :
    edited engine column c.type cells change =
      .ok (Function.update cells (Reference.ofText column).path
        (c.stored (edit.apply cell)).datum) := by
  cases edit with
  | set other => exact edited_set edits
  | add e => exact edited_add_apply documented legible edits holds
  | remove e =>
      cases cell with
      | none => exact edited_remove_null documented edits holds
      | some items =>
          have itemsDistinct := distinct items rfl
          have wordsDistinct := itemsDistinct.map c.word_injective
          have removed := (legible items e).removed wordsDistinct
          rw [← List.map_erase c.word_injective, SetEdit.erase_eq_filter itemsDistinct] at removed
          rw [edited_remove documented edits holds removed, SetEdit.apply, c.stored_some]

/-- Through any number of changes, the cell follows the edits and no other cell changes. -/
theorem edited_foldl {changes : List (Part Change)} {edits : List (SetEdit α)}
    {cell : Option (List α)} (follow : List.Forall₂ (fun change => c.Edits change.content) changes edits)
    (keeps : ∀ edit ∈ edits, edit.KeepsDistinct) (holds : c.Holds column cells cell)
    (distinct : SetEdit.Distinct cell) :
    changes.foldlM (edited engine column c.type) cells =
      .ok (Function.update cells (Reference.ofText column).path
        (c.stored (edits.foldl (fun cell edit => edit.apply cell) cell)).datum) :=
  edited_foldl_of (fun edits holds distinct => edited_apply documented legible edits holds distinct)
    follow (fun edit member _ => SetEdit.distinct_apply (keeps edit member)) holds distinct

end

end SetColumn
end DocumentQuery
