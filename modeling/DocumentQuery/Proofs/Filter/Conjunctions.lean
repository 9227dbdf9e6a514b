import DocumentQuery.Proofs.Filter.Verdicts

namespace DocumentQuery
namespace Sql

/-!
# Filters in the store

A filter is built into a conjunction with a group for each of its conditions, and a group is the
conjunction of the predicates on one column.  What each predicate binds stands behind what the
others before it bind, so that its placeholders are only known relative to them.  The store selects
a row if the conjunction is true there.  It is true exactly if each predicate is true when it is
evaluated alone, wherever its placeholders begin; one that is unknown lets no row pass.
-/

/-- A part is accepted, and its expression is true of the cells exactly if a proposition holds,
whatever is bound before and after it. -/
def TrueIff (engine : Engine) (cells : List String → Datum)
    (operands : Except QueryError (List Scalar)) (arity : Nat) (written : Nat → Expr)
    (holds : Prop) : Prop :=
  ∃ values : List Scalar, operands = .ok values ∧ values.length = arity ∧
    ∀ earlier later : List Scalar,
      (written earlier.length).IsTrue engine ⟨cells, earlier ++ values ++ later⟩ ↔ holds

section

variable {engine : Engine} (truth_ofTruth : ∀ truth : Option Bool,
  engine.truth (.ofTruth truth) = truth)
include truth_ofTruth

theorem isTrue_and (env : Env) (left right : Expr) :
    (Expr.binary .and left right).IsTrue engine env ↔
      left.IsTrue engine env ∧ right.IsTrue engine env := by
  rw [Expr.IsTrue, Expr.eval, Operator.apply, truth_ofTruth, Expr.IsTrue, Expr.IsTrue]
  rcases engine.truth (left.eval engine env) with _ | _ | _ <;>
    rcases engine.truth (right.eval engine env) with _ | _ | _ <;> simp [bothTruths]

theorem isTrue_foldl_and (env : Env) (first : Expr) (rest : List Expr) :
    (rest.foldl (.binary .and) first).IsTrue engine env ↔
      first.IsTrue engine env ∧ ∀ e ∈ rest, e.IsTrue engine env := by
  induction rest generalizing first with
  | nil => simp
  | cons next rest inductionHypothesis =>
      rw [List.foldl_cons, inductionHypothesis, isTrue_and truth_ofTruth, List.forall_mem_cons,
        and_assoc]

theorem isTrue_conjunction (env : Env) {parts : List Expr} (nonempty : parts ≠ []) :
    (conjunction parts).IsTrue engine env ↔ ∀ e ∈ parts, e.IsTrue engine env := by
  cases parts with
  | nil => exact absurd rfl nonempty
  | cons first rest =>
      rw [conjunction, isTrue_foldl_and truth_ofTruth, List.forall_mem_cons]

variable {cells : List String → Datum} {β : Type}
  {operands : β → Except QueryError (List Scalar)} {arity : β → Nat} {written : β → Nat → Expr}
  {holds : β → Prop}

omit truth_ofTruth in
/-- Each part of a row of parts is looked at behind what the parts before it bind. -/
theorem isTrue_writtenOf {parts : List β}
    (each : ∀ part ∈ parts,
      TrueIff engine cells (operands part) (arity part) (written part) (holds part)) :
    ∃ values : List Scalar, operandsOf operands parts = .ok values ∧
      values.length = arityOf arity parts ∧ ∀ earlier later : List Scalar,
        (∀ e ∈ writtenOf arity written earlier.length parts,
          e.IsTrue engine ⟨cells, earlier ++ values ++ later⟩) ↔ ∀ part ∈ parts, holds part := by
  induction parts with
  | nil => exact ⟨[], rfl, rfl, fun _ _ => iff_of_true nofun nofun⟩
  | cons part rest inductionHypothesis =>
      rcases List.forall_mem_cons.mp each with
        ⟨⟨values, accepted, length, isTrue⟩, later⟩
      rcases inductionHypothesis later with ⟨others, othersAccepted, othersLength, areTrue⟩
      refine ⟨values ++ others, ?_, ?_, fun earlier after => ?_⟩
      · rw [operandsOf, accepted, othersAccepted]
        rfl
      · rw [List.length_append, length, othersLength, arityOf]
      · have first := isTrue earlier (others ++ after)
        have rest := areTrue (earlier ++ values) after
        rw [List.length_append, length] at rest
        rw [← List.append_assoc] at first
        rw [writtenOf, List.forall_mem_cons, List.forall_mem_cons, ← List.append_assoc, first,
          rest]

/-- A conjunction is true exactly if all of its parts hold. -/
theorem trueIff_conjunction {parts : List β} (nonempty : parts ≠ [])
    (each : ∀ part ∈ parts,
      TrueIff engine cells (operands part) (arity part) (written part) (holds part)) :
    TrueIff engine cells (operandsOf operands parts) (arityOf arity parts)
      (fun bound => conjunction (writtenOf arity written bound parts))
      (∀ part ∈ parts, holds part) := by
  rcases isTrue_writtenOf each with ⟨values, accepted, length, areTrue⟩
  refine ⟨values, accepted, length, fun earlier later => ?_⟩
  have writtenNonempty : writtenOf arity written earlier.length parts ≠ [] := by
    cases parts with
    | nil => exact absurd rfl nonempty
    | cons _ _ => exact List.cons_ne_nil _ _
  rw [isTrue_conjunction truth_ofTruth _ writtenNonempty]
  exact areTrue earlier later

variable (cells) in
/-- What is required to know of a filter in order to know where it is true. -/
theorem isTrue_whereClause (columns : Columns) {f : Filter} (nonempty : f.conditions ≠ [])
    (valid : ∀ c ∈ f.conditions, isColumnReference c.column = true ∧ c.predicates ≠ [])
    (holds : Condition → Predicate → Prop)
    (each : ∀ c ∈ f.conditions, ∀ p ∈ c.predicates,
      TrueIff engine cells (p.operands (columns.type? c.column)) p.arity
        (p.written (.column (columns.path c.column))) (holds c p))
    (earlier later : List Scalar) :
    ∃ (condition : Expr) (bound : List Scalar),
      (whereClause columns f).run earlier = .ok (condition, bound) ∧
      (condition.IsTrue engine ⟨cells, bound ++ later⟩ ↔
        ∀ c ∈ f.conditions, ∀ p ∈ c.predicates, holds c p) := by
  have conditions : ∀ c ∈ f.conditions, TrueIff engine cells (c.operands columns) c.arity
      (c.written columns) (∀ p ∈ c.predicates, holds c p) := by
    intro c member
    rcases valid c member with ⟨reference, predicates⟩
    rw [Condition.operands_of_valid columns reference predicates]
    exact trueIff_conjunction truth_ofTruth predicates (each c member)
  have notEmpty : ¬ f.isEmpty = true := mt List.isEmpty_iff.mp nonempty
  rcases trueIff_conjunction truth_ofTruth nonempty conditions with
    ⟨values, accepted, _, isTrue⟩
  have run := (builds_whereClause columns f).run_eq earlier
  rw [Filter.operands, if_neg notEmpty, accepted, Filter.written, if_neg notEmpty] at run
  exact ⟨_, _, run, isTrue earlier later⟩

end

end Sql
end DocumentQuery
