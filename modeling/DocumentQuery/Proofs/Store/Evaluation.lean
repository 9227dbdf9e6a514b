import DocumentQuery.Proofs.Store.Engine

namespace DocumentQuery
namespace Sql

/-!
# What an expression gives

The value of an expression in a row, under the scalars bound to a statement.  Truth has
three values: a comparison with null is unknown, `and`, `or` and `not` extend to unknown
operands, and the first case of a choice whose condition is true decides, so that an
unknown condition is passed over like a false one.
-/

/-- What an expression refers to: the cells of a row, and the scalars bound to the
placeholders of its statement. -/
structure Env where
  cell : List String → Datum
  params : List Scalar

/-- The cell for a placeholder; placeholders count from one. -/
def Env.param (env : Env) : Nat → Datum
  | 0 => .null
  | index + 1 => (env.params[index]?.map Scalar.datum).getD .null

/-! ## Truth values -/

/-- A conjunction, where `none` is unknown. -/
def bothTruths : Option Bool → Option Bool → Option Bool
  | some false, _ => some false
  | _, some false => some false
  | some true, some true => some true
  | _, _ => none

/-- A disjunction, where `none` is unknown. -/
def eitherTruth : Option Bool → Option Bool → Option Bool
  | some true, _ => some true
  | _, some true => some true
  | some false, some false => some false
  | _, _ => none

theorem eitherTruth_eq_true_iff (left right : Option Bool) :
    eitherTruth left right = some true ↔ left = some true ∨ right = some true := by
  rcases left with _ | _ | _ <;> rcases right with _ | _ | _ <;> simp [eitherTruth]

theorem eitherTruth_eq_false_iff (left right : Option Bool) :
    eitherTruth left right = some false ↔ left = some false ∧ right = some false := by
  rcases left with _ | _ | _ <;> rcases right with _ | _ | _ <;> simp [eitherTruth]

/-- A relation between two cells; with null it is unknown. -/
def related (engine : Engine) (relation : Relation) (left right : Datum) : Option Bool :=
  if left.isNull || right.isNull then none else some (relation.holds (engine.compare left right))

/-- A cell equals one of a list. -/
def amongst (engine : Engine) (datum : Datum) : List Datum → Option Bool
  | [] => some false
  | item :: rest => eitherTruth (related engine .eq datum item) (amongst engine datum rest)

def Operator.apply (engine : Engine) (left right : Datum) : Operator → Datum
  | .eq => .ofTruth (related engine .eq left right)
  | .ne => .ofTruth (related engine .ne left right)
  | .lt => .ofTruth (related engine .lt left right)
  | .le => .ofTruth (related engine .le left right)
  | .gt => .ofTruth (related engine .gt left right)
  | .ge => .ofTruth (related engine .ge left right)
  | .like => .ofTruth (engine.like left right)
  | .notLike => .ofTruth ((engine.like left right).map not)
  | .plus => engine.plus left right
  | .minus => engine.minus left right
  | .times => engine.times left right
  | .concat => engine.concat left right
  | .and => .ofTruth (bothTruths (engine.truth left) (engine.truth right))
  | .or => .ofTruth (eitherTruth (engine.truth left) (engine.truth right))

mutual

/-- The value of an expression. -/
@[simp]
def Expr.eval (engine : Engine) (env : Env) : Expr → Datum
  | .column path => env.cell path
  | .param number => env.param number
  | .number n => .integer n
  | .literal text => .text text
  | .null => .null
  | .binary operator left right =>
    operator.apply engine (left.eval engine env) (right.eval engine env)
  | .isNull operand => .ofTruth (some (operand.eval engine env).isNull)
  | .isNotNull operand => .ofTruth (some !(operand.eval engine env).isNull)
  | .not operand => .ofTruth ((engine.truth (operand.eval engine env)).map not)
  | .oneOf operand params =>
    .ofTruth (amongst engine (operand.eval engine env) (params.map env.param))
  | .noneOf operand params =>
    .ofTruth ((amongst engine (operand.eval engine env) (params.map env.param)).map not)
  | .group operand => operand.eval engine env
  | .cast operand type => engine.cast (operand.eval engine env) type
  | .jsonQuote operand => engine.jsonQuote (operand.eval engine env)
  | .length operand => engine.length (operand.eval engine env)
  | .instr text part => engine.instr (text.eval engine env) (part.eval engine env)
  | .substr text start count =>
    engine.substr (text.eval engine env) (start.eval engine env) (count.eval engine env)
  | .replace text part other =>
    engine.replace (text.eval engine env) (part.eval engine env) (other.eval engine env)
  | .choice cases => cases.eval engine env

/-- The value of a choice: that of the first case whose condition is true. -/
@[simp]
def Cases.eval (engine : Engine) (env : Env) : Cases → Datum
  | .otherwise value => value.eval engine env
  | .when condition value rest =>
    if engine.truth (condition.eval engine env) = some true then value.eval engine env
    else rest.eval engine env

end

/-- A condition is true in a row; an unknown one is not. -/
def Expr.IsTrue (engine : Engine) (env : Env) (condition : Expr) : Prop :=
  engine.truth (condition.eval engine env) = some true

/-! ## Placeholders and truth values -/

theorem Env.param_bound (cells : List String → Datum) (earlier later : List Scalar)
    (operand : Scalar) :
    Env.param ⟨cells, earlier ++ [operand] ++ later⟩ (earlier.length + 1) = operand.datum := by
  simp [Env.param]

/-- The cells for placeholders in a row are those of the scalars bound to them. -/
theorem Env.map_param_bound (cells : List String → Datum) (earlier items later : List Scalar) :
    (List.range' (earlier.length + 1) items.length).map
      (Env.param ⟨cells, earlier ++ items ++ later⟩) = items.map Scalar.datum := by
  induction items generalizing earlier with
  | nil => rfl
  | cons item rest inductionHypothesis =>
      have first := Env.param_bound cells earlier (rest ++ later) item
      have others := inductionHypothesis (earlier ++ [item])
      simp only [List.append_assoc, List.cons_append, List.nil_append,
        List.length_append, List.length_singleton] at first others
      simp only [List.length_cons, List.range'_succ, List.map_cons, List.append_assoc,
        List.cons_append, first, others]

/-- A store that tells null and integers apart reads a truth value as it is. -/
theorem truth_ofTruth_of {engine : Engine} (null : engine.truth .null = none)
    (integer : ∀ n : Int, engine.truth (.integer n) = some (n != 0)) (truth : Option Bool) :
    engine.truth (.ofTruth truth) = truth := by
  cases truth with
  | none => exact null
  | some value => cases value <;> exact integer _

end Sql
end DocumentQuery
