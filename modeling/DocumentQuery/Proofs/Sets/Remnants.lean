import DocumentQuery.Proofs.Sets.Integers
import DocumentQuery.Proofs.Sets.Repetitions

namespace DocumentQuery

open Brackets Sql

/-!
# Elements that outlast their removal

A column of integer sets is given lists with repetitions as they are, while additions keep an
element that is there already from being added again.  So the cells that updates lead to hold lists
with repetitions, and removal does not always take an element out of them.  The cell after any
accepted updates is that of edits in which removal leaves what `withoutMark` leaves, and an element
is still found after its removal exactly if it outlasts it.  If no update gives the column a list
with repetitions, then none does.
-/

namespace SetEdit

variable {α : Type} [DecidableEq α]

/-- The cell after an edit of a list that may have repetitions. -/
def carryOut : SetEdit α → Option (List α) → Option (List α)
  | set cell, _ => cell
  | add e, cell => (add e).apply cell
  | remove e, cell => cell.map (withoutMark e)

theorem distinct_carryOut {edit : SetEdit α} (keeps : edit.KeepsDistinct)
    {cell : Option (List α)} (distinct : Distinct cell) : Distinct (edit.carryOut cell) := by
  cases edit with
  | set other => exact keeps
  | add e => exact distinct_apply keeps distinct
  | remove e =>
      intro items result
      rcases Option.map_eq_some_iff.mp result with ⟨old, there, rfl⟩
      exact (distinct old there).sublist (withoutMark_sublist e old)

theorem distinct_foldl_carryOut {edits : List (SetEdit α)}
    (keeps : ∀ edit ∈ edits, edit.KeepsDistinct) {cell : Option (List α)}
    (distinct : Distinct cell) :
    Distinct (edits.foldl (fun cell edit => edit.carryOut cell) cell) := by
  induction edits generalizing cell with
  | nil => exact distinct
  | cons edit rest inductionHypothesis =>
      have next := distinct_carryOut (keeps edit List.mem_cons_self) distinct
      exact inductionHypothesis (fun other member => keeps other (List.mem_cons_of_mem edit member))
        next

end SetEdit

namespace SetColumn

variable {engine : Engine} {column : String} {cells : List String → Datum} {change : Part Change}

/-- One change makes of a cell of integers what carrying out the edit makes of it. -/
theorem edited_carryOut (documented : engine.Documented) {edit : SetEdit Int64}
    {cell : Option (List Int64)} (edits : integers.Edits change.content edit)
    (holds : integers.Holds column cells cell) :
    edited engine column integers.type cells change =
      .ok (Function.update cells (Reference.ofText column).path
        (integers.stored (edit.carryOut cell)).datum) := by
  cases edit with
  | set other => exact edited_set edits
  | add n => exact edited_add_apply documented legible_integers edits holds
  | remove n =>
      cases cell with
      | none => exact edited_remove_null documented edits holds
      | some items =>
          have plainItems : ∀ word ∈ items.map integers.word, Plain word := fun _ => plain_integers
          have removed := removed_of_plain (plain_integer n) plainItems
          rw [map_withoutMark integers.word_injective] at removed
          have made := edited_remove documented edits holds removed
          rwa [← integers.stored_some] at made

/-- Any number of changes makes of a cell of integers what carrying out the edits makes of it. -/
theorem edited_foldl_carryOut (documented : engine.Documented) {changes : List (Part Change)}
    {edits : List (SetEdit Int64)} {cell : Option (List Int64)}
    (follow : List.Forall₂ (fun change => integers.Edits change.content) changes edits)
    (holds : integers.Holds column cells cell) :
    changes.foldlM (edited engine column integers.type) cells =
      .ok (Function.update cells (Reference.ofText column).path
        (integers.stored (edits.foldl (fun cell edit => edit.carryOut cell) cell)).datum) :=
  edited_foldl_of (fun edits holds (_ : True) => edited_carryOut documented edits holds) follow
    (fun _ _ _ _ => trivial) holds trivial

/-- After its removal an integer is found exactly if it outlasts it, in the list that is left and by
the store. -/
theorem found_after_removal {n : Int64} {cell : Option (List Int64)} :
    (∃ items ∈ cell.map (withoutMark n), n ∈ items) ↔ ∃ items ∈ cell, Outlasts n items := by
  cases cell with
  | none => simp
  | some items => simp [mem_withoutMark_iff]

/-- Whatever updates a column of integer sets has been through since it was null, the removal of
an integer is accepted, and what it leaves of the integer is decided by the list that was there.
Without lists with repetitions among the updates it leaves nothing of it. -/
theorem contained_after_removal_iff (documented : engine.Documented)
    (empty : integers.Holds column cells none) {changes : List (Part Change)}
    {reached : List String → Datum}
    (run : changes.foldlM (edited engine column .integerSet) cells = .ok reached)
    {removal : Part Change} {v : Value} (removes : removal.content = .remove v) {n : Int64}
    (operand : ColumnType.integerElement? v = some n) :
    ∃ (edits : List (SetEdit Int64)) (final : List String → Datum),
      List.Forall₂ (fun change => integers.Edits change.content) changes edits ∧
      edited engine column .integerSet reached removal = .ok final ∧
      let cell := edits.foldl (fun cell edit => edit.carryOut cell) none
      integers.Holds column reached cell ∧
      integers.Holds column final (cell.map (withoutMark n)) ∧
      ((∃ items ∈ cell.map (withoutMark n), n ∈ items) ↔ ∃ items ∈ cell, Outlasts n items) ∧
      (∀ sought : Scalar, ColumnType.integerElement? (.ofScalar sought) = some n →
        ∀ earlier later : List Scalar,
          Decides engine column .integerSet final ⟨earlier, .contains sought, later⟩
            (∃ items ∈ cell, Outlasts n items)) ∧
      ((∀ edit ∈ edits, edit.KeepsDistinct) → ¬ ∃ items ∈ cell, Outlasts n items) := by
  rcases exists_edits_of_foldlM (c := integers) run with ⟨edits, follow⟩
  let cell : Option (List Int64) := edits.foldl (fun cell edit => edit.carryOut cell) none
  have follows := edited_foldl_carryOut documented follow empty
  have reached_eq : reached = Function.update cells (Reference.ofText column).path
      (integers.stored cell).datum := Except.ok.inj (run.symm.trans follows)
  have reachedHolds : integers.Holds column reached cell := by
    rw [reached_eq]
    exact Function.update_self _ _ _
  have removalEdits : integers.Edits removal.content (.remove n) := by
    rw [removes]
    exact .remove operand
  have made := edited_carryOut documented removalEdits reachedHolds
  have finalHolds : integers.Holds column (Function.update reached (Reference.ofText column).path
      (integers.stored (cell.map (withoutMark n))).datum) (cell.map (withoutMark n)) :=
    Function.update_self _ _ _
  refine ⟨edits, _, follow, made, reachedHolds, finalHolds, found_after_removal, ?_, ?_⟩
  · intro sought soughtOperand earlier later
    have decided := decides_contains_integers documented soughtOperand finalHolds earlier later
    exact decided.congr found_after_removal
  · rintro keeps ⟨items, there, left⟩
    have none_distinct : SetEdit.Distinct (none : Option (List Int64)) := fun _ there => nomatch there
    have distinct := SetEdit.distinct_foldl_carryOut keeps none_distinct
    exact not_outlasts_of_nodup (distinct items there) left

/-- A list of two equal integers keeps one of them. -/
theorem contained_after_removal_twice :
    ∃ reached final : List String → Datum,
      List.foldlM (edited .reference "tags" .integerSet) (fun _ => .null)
        [⟨[], .set (.integerSet [1, 1]), []⟩] = .ok reached ∧
      edited .reference "tags" .integerSet reached ⟨[], .remove (.integer 1), []⟩ = .ok final ∧
      final (Reference.ofText "tags").path = .text "[1]" ∧
      Decides .reference "tags" .integerSet final ⟨[], .contains (.integer 1), []⟩ True := by
  have empty : integers.Holds "tags" (fun _ => .null) none := rfl
  have twice : integers.Edits (.set (.integerSet [1, 1])) (.set (some [1, 1])) := .set rfl rfl
  have change : List.Forall₂ (fun change : Part Change => integers.Edits change.content)
      [⟨[], .set (.integerSet [1, 1]), []⟩] [.set (some [1, 1])] := .cons twice .nil
  have run := edited_foldl_carryOut Engine.reference_documented change empty
  have removes : (⟨[], .remove (.integer 1), []⟩ : Part Change).content = .remove (.integer 1) := rfl
  rcases contained_after_removal_iff Engine.reference_documented empty run removes rfl with
    ⟨edits, final, follow, removed, _, finalHolds, _, decides, _⟩
  cases follow with
  | cons first later =>
      cases later
      cases first with
      | set notNull operands =>
          cases operands
          refine ⟨_, final, run, removed, finalHolds, ?_⟩
          have outlasts : ∃ items ∈ some [(1 : Int64), 1], Outlasts 1 items :=
            ⟨_, rfl, by decide, .inl rfl⟩
          exact (decides (.integer 1) rfl [] []).congr (iff_of_true outlasts trivial)

end SetColumn
end DocumentQuery
