import DocumentQuery.Proofs.Rows.Entries
import DocumentQuery.Query.Basic

namespace DocumentQuery
namespace Query

/-!
# Queries that are built in steps

A query is built by steps in any order, and what it holds can be read off the steps.  The filter and
the grouping are those of the last step that gives one, and the joins are all joins.  The limit is
said in two parts: only a bound has a count, but both a bound and an offset have a start, and the
last of each is what counts.  The order is a map from columns to directions: a column stands where
it is mentioned first, and has the direction that is mentioned last.

One more step changes one of these parts and leaves the others as they are (`Sums.after`).
-/

/-- A step of building a query. -/
inductive Step where
  | filter (f : Filter)
  | sort (column : String)
  | sortDescending (column : String)
  | orderBy (column : String) (direction : Direction)
  | limit (count start : UInt64)
  | offset (start : UInt64)
  | groupBy (grouping : Grouping)
  | join (shape : JoinShape) (target : JoinTarget) (sourceColumn : String)
      (targetColumn? : Option String)

namespace Step

def filter? : Step → Option Filter
  | .filter f => some f
  | _ => none

/-- The column to order by that the step mentions, and its direction. -/
def order? : Step → Option (String × Direction)
  | .sort column => some (column, .ascending)
  | .sortDescending column => some (column, .descending)
  | .orderBy column direction => some (column, direction)
  | _ => none

def count? : Step → Option UInt64
  | .limit count _ => some count
  | _ => none

def start? : Step → Option UInt64
  | .limit _ start => some start
  | .offset start => some start
  | _ => none

def grouping? : Step → Option Grouping
  | .groupBy grouping => some grouping
  | _ => none

def join? : Step → Option Join
  | .join shape target sourceColumn targetColumn? =>
    some (.on shape target sourceColumn targetColumn?)
  | _ => none

end Step

/-- The query after one more step. -/
def after (q : Query) : Step → Query
  | .filter f => q.select f
  | .sort column => q.orderBy column .ascending
  | .sortDescending column => q.orderBy column .descending
  | .orderBy column direction => q.orderBy column direction
  | .limit count start => q.limit count start
  | .offset start => q.offset start
  | .groupBy grouping => q.groupBy grouping
  | .join shape target sourceColumn targetColumn? =>
    q.join (.on shape target sourceColumn targetColumn?)

/-- The query that is built by some steps, first to last. -/
def ofSteps (steps : List Step) : Query :=
  steps.foldl after {}

/-! ## What one step does -/

section

variable (q : Query) (step : Step)

theorem filter_after : (q.after step).filter = step.filter?.getD q.filter := by
  cases step <;> rfl

theorem grouping_after : (q.after step).grouping? = step.grouping?.or q.grouping? := by
  cases step <;> rfl

/-- A start that is said replaces the one before, and the count stays if none is said. -/
theorem limit_after : (q.after step).limit? =
    (step.start?.map fun start => ⟨step.count?.or (q.limit?.bind Limit.count?), start⟩).or
      q.limit? := by
  cases step <;> rfl

theorem joins_after : (q.after step).joins = q.joins ++ step.join?.toList := by
  cases step with
  | join shape target sourceColumn targetColumn? => rfl
  | _ => exact (List.append_nil q.joins).symm

/-- An order is a map from columns to directions, into which each column that is mentioned is
put. -/
theorem order_after : (q.after step).order =
    ((⟨q.order⟩ : OrderedMap Direction).insertAll step.order?.toList).entries := by
  have entry_eq (column : String) (direction : Direction) (order : List (String × Direction)) :
      orderEntry column direction order = OrderedMap.insertEntry column direction order := by
    induction order with
    | nil => rfl
    | cons entry rest inductionHypothesis =>
        rw [orderEntry, OrderedMap.insertEntry, inductionHypothesis]
  cases step with
  | sort column => exact entry_eq column .ascending q.order
  | sortDescending column => exact entry_eq column .descending q.order
  | orderBy column direction => exact entry_eq column direction q.order
  | _ => rfl

end

/-! ## What all steps do -/

/-- The query holds what the steps say. -/
structure Sums (q : Query) (steps : List Step) : Prop where
  filter_eq : q.filter = (steps.filterMap Step.filter?).getLast?.getD .all
  grouping_eq : q.grouping? = (steps.filterMap Step.grouping?).getLast?
  order_eq : q.order = (OrderedMap.ofList (steps.filterMap Step.order?)).entries
  limit_eq : q.limit? = (steps.filterMap Step.start?).getLast?.map fun start =>
    ⟨(steps.filterMap Step.count?).getLast?, start⟩
  joins_eq : q.joins = steps.filterMap Step.join?

theorem filterMap_concat {α : Type} (part : Step → Option α) (steps : List Step) (step : Step) :
    (steps ++ [step]).filterMap part = steps.filterMap part ++ (part step).toList := by
  rw [List.filterMap_append]
  cases said : part step <;> simp [said]

theorem getLast?_filterMap_concat {α : Type} (part : Step → Option α) (steps : List Step)
    (step : Step) :
    ((steps ++ [step]).filterMap part).getLast? =
      (part step).or (steps.filterMap part).getLast? := by
  rw [filterMap_concat]
  cases part step <;> simp

/-- Where no start is said there is no count either. -/
theorem counts_eq_nil {steps : List Step} (noStart : steps.filterMap Step.start? = []) :
    steps.filterMap Step.count? = [] := by
  rw [List.filterMap_eq_nil_iff] at noStart ⊢
  intro step member
  have silent := noStart step member
  cases step with
  | limit count start => exact nomatch silent
  | _ => rfl

namespace Sums

variable {q : Query} {steps : List Step}

/-- The count that a limit has is the last one that was said. -/
theorem count_eq (sums : q.Sums steps) :
    q.limit?.bind Limit.count? = (steps.filterMap Step.count?).getLast? := by
  rw [sums.limit_eq]
  cases started : (steps.filterMap Step.start?).getLast? with
  | none =>
      rw [counts_eq_nil (List.getLast?_eq_none_iff.mp started)]
      rfl
  | some start => rfl

theorem after (sums : q.Sums steps) (step : Step) : (q.after step).Sums (steps ++ [step]) where
  filter_eq := by
    rw [filter_after, getLast?_filterMap_concat, sums.filter_eq]
    cases step.filter? <;> rfl
  grouping_eq := by
    rw [grouping_after, getLast?_filterMap_concat, sums.grouping_eq]
  order_eq := by
    rw [order_after, filterMap_concat, OrderedMap.ofList, OrderedMap.insertAll_append,
      sums.order_eq]
    rfl
  limit_eq := by
    rw [limit_after, getLast?_filterMap_concat, getLast?_filterMap_concat, sums.count_eq]
    cases started : step.start? with
    | some start => rfl
    | none =>
        have noCount : step.count? = none := by
          cases step with
          | limit count start => exact nomatch started
          | _ => rfl
        rw [noCount, sums.limit_eq]
        rfl
  joins_eq := by
    rw [joins_after, filterMap_concat, sums.joins_eq]

/-- A column stands in the order where it is mentioned first. -/
theorem columns_eq (sums : q.Sums steps) :
    q.order.map Prod.fst = ((steps.filterMap Step.order?).map Prod.fst).eraseDups := by
  rw [sums.order_eq, ← OrderedMap.keys_ofList]
  rfl

/-- A column has the direction that is mentioned last. -/
theorem mem_order_iff (sums : q.Sums steps) (column : String) (direction : Direction) :
    (column, direction) ∈ q.order ↔
      ((steps.filterMap Step.order?).filter fun mention => mention.1 = column).getLast? =
        some (column, direction) := by
  have distinct : (OrderedMap.ofList (steps.filterMap Step.order?)).Distinct :=
    OrderedMap.distinct_empty.insertAll
  rw [sums.order_eq, distinct.mem_entries_iff, OrderedMap.get?_ofList,
    OrderedMap.lookup_eq_some_iff, ← List.head?_filter, List.filter_reverse, List.head?_reverse]

end Sums

theorem sums_ofSteps (steps : List Step) : (ofSteps steps).Sums steps := by
  induction steps using List.reverseRecOn with
  | nil => exact ⟨rfl, rfl, rfl, rfl, rfl⟩
  | append_singleton steps step inductionHypothesis =>
      rw [ofSteps, List.foldl_append]
      exact inductionHypothesis.after step

/-- An offset keeps the count, and sorting again keeps the place. -/
example : ofSteps [.sort "a", .limit 10 5, .sort "b", .offset 7, .sortDescending "a"] =
    { order := [("a", .descending), ("b", .ascending)], limit? := some ⟨some 10, 7⟩ } := rfl

end Query
end DocumentQuery
