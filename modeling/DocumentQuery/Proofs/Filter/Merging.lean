import DocumentQuery.Proofs.Filter.Documents
import DocumentQuery.Proofs.Rows.Entries
import DocumentQuery.Query.ResultSet

namespace DocumentQuery

/-!
# Merged predicates

A predicate that is pushed joins the condition on its column, or makes a new one at the end.  So the
conditions of a filter depend on the order in which predicates were pushed: each column stands where
it was pushed first, with its predicates as they came.

What the filter selects does not depend on it.  A row is selected if it satisfies every predicate
that is required of one of its columns, and the filter requires exactly what was pushed
(`Filter.requires_pushAll`), however it is grouped.
-/

namespace Condition

/-- A predicate goes to the end of those on its column, if each column has one condition and a
column without a condition has no predicates. -/
theorem add_map {columns : List String} (distinct : columns.Nodup)
    {predicates : String → List Predicate} {column : String}
    (absent : column ∉ columns → predicates column = []) (predicate : Predicate) :
    add column predicate (columns.map fun name => ⟨name, predicates name⟩) =
      (if column ∈ columns then columns else columns ++ [column]).map fun name =>
        ⟨name, if name = column then predicates name ++ [predicate] else predicates name⟩ := by
  induction columns with
  | nil => simp [add, absent]
  | cons first rest inductionHypothesis =>
      rcases List.nodup_cons.mp distinct with ⟨fresh, distinctRest⟩
      rw [List.map_cons, add]
      by_cases same : first = column
      · subst same
        have others : ∀ name ∈ rest,
            (⟨name, if name = first then predicates name ++ [predicate] else predicates name⟩ :
              Condition) = ⟨name, predicates name⟩ := by
          intro name member
          rw [if_neg]
          rintro rfl
          exact fresh member
        rw [if_pos rfl, if_pos List.mem_cons_self, List.map_cons, if_pos rfl,
          List.map_congr_left others]
      · have absentLater : column ∉ rest → predicates column = [] := by
          intro notLater
          apply absent
          rw [List.mem_cons, not_or]
          exact ⟨Ne.symm same, notLater⟩
        have member_iff : column ∈ first :: rest ↔ column ∈ rest := by
          rw [List.mem_cons, or_iff_right (Ne.symm same)]
        simp only [if_neg same, inductionHypothesis distinctRest absentLater, member_iff]
        split <;> simp [same]

end Condition

namespace Filter

/-- The conditions that predicates are merged into: each column where it comes first, with its
predicates as they come. -/
def merged (said : List (String × Predicate)) : List Condition :=
  (said.map Prod.fst).eraseDups.map fun column =>
    ⟨column, (said.filter fun entry => entry.1 = column).map Prod.snd⟩

theorem pushAll_append (f : Filter) (said more : List (String × Predicate)) :
    f.pushAll (said ++ more) = (f.pushAll said).pushAll more :=
  List.foldl_append

theorem conditions_pushAll (said : List (String × Predicate)) :
    (all.pushAll said).conditions = merged said := by
  induction said using List.reverseRecOn with
  | nil => rfl
  | append_singleton said entry inductionHypothesis =>
      rcases entry with ⟨column, predicate⟩
      have absent : column ∉ (said.map Prod.fst).eraseDups →
          (said.filter fun entry => entry.1 = column).map Prod.snd = [] := by
        intro fresh
        rw [List.map_eq_nil_iff, List.filter_eq_nil_iff]
        intro entry member same
        apply fresh
        rw [List.mem_eraseDups, ← of_decide_eq_true same]
        exact List.mem_map_of_mem member
      have distinct := OrderedMap.nodup_eraseDups (said.map Prod.fst)
      have added := @Condition.add_map _ distinct
        (fun name => (said.filter fun entry => entry.1 = name).map Prod.snd) column absent predicate
      have last : (all.pushAll (said ++ [(column, predicate)])).conditions =
          Condition.add column predicate (merged said) := by
        rw [pushAll_append, ← inductionHypothesis]
        rfl
      rw [last, merged, added, merged, List.map_append, List.map_singleton,
        OrderedMap.eraseDups_concat]
      simp only [List.mem_eraseDups]
      congr 1
      funext name
      by_cases same : name = column
      · simp [same]
      · simp [same, Ne.symm same]

/-! ## What is selected -/

/-- A row is selected if it satisfies all predicates that are required of its columns. -/
theorem selects_iff_requires (f : Filter) (row : Row) :
    f.selects row = true ↔
      ∀ column p, f.Requires column p → p.accepts (row.valueOf column) = true := by
  simp only [selects, List.all_eq_true]
  constructor
  · rintro each column p ⟨c, member, rfl, pMember⟩
    exact each c member p pMember
  · intro each c member p pMember
    exact each c.column p ⟨c, member, rfl, pMember⟩

theorem selects_pushAll_iff (f : Filter) (said : List (String × Predicate)) (row : Row) :
    (f.pushAll said).selects row = true ↔
      f.selects row = true ∧ ∀ entry ∈ said, entry.2.accepts (row.valueOf entry.1) = true := by
  rw [selects_iff_requires, selects_iff_requires]
  simp only [requires_pushAll]
  constructor
  · intro each
    refine ⟨fun column p required => each column p (.inr required), ?_⟩
    rintro ⟨column, p⟩ member
    exact each column p (.inl member)
  · rintro ⟨required, each⟩ column p (member | isRequired)
    · exact each (column, p) member
    · exact required column p isRequired

theorem selects_all (row : Row) : all.selects row = true := rfl

/-- A result set that is filtered twice is filtered once by both filters. -/
theorem find_find (r : ResultSet) (f : Filter) (more : List (String × Predicate)) :
    (r.find f).find (all.pushAll more) = r.find (f.pushAll more) := by
  have both : ∀ row ∈ r.rows, ((all.pushAll more).selects row && f.selects row) =
      (f.pushAll more).selects row := by
    intro row _
    apply Bool.eq_iff_iff.mpr
    rw [Bool.and_eq_true, selects_pushAll_iff all, selects_pushAll_iff f, and_comm,
      and_iff_right (selects_all row)]
  simp only [ResultSet.find]
  rw [List.filter_filter, List.filter_congr both]

/-- Merging of predicates is invisible.  Each column has one condition, where it was pushed first,
with the predicates that were pushed for it in their order.  A row is selected if it satisfies every
predicate that was pushed, so their order does not matter, and filtering one result by two filters
is filtering it by all of their predicates. -/
theorem pushAll_merges (said : List (String × Predicate)) :
    ((all.pushAll said).conditions.map Condition.column).Nodup ∧
      (all.pushAll said).conditions = merged said ∧
      (∀ row, (all.pushAll said).selects row = true ↔
        ∀ entry ∈ said, entry.2.accepts (row.valueOf entry.1) = true) ∧
      (∀ permuted, permuted.Perm said → ∀ row,
        (all.pushAll permuted).selects row = (all.pushAll said).selects row) ∧
      ∀ (more : List (String × Predicate)) (r : ResultSet),
        (r.find (all.pushAll said)).find (all.pushAll more) =
          r.find ((all.pushAll said).pushAll more) := by
  have selects_iff (said : List (String × Predicate)) (row : Row) :
      (all.pushAll said).selects row = true ↔
        ∀ entry ∈ said, entry.2.accepts (row.valueOf entry.1) = true := by
    rw [selects_pushAll_iff, and_iff_right (selects_all row)]
  refine ⟨?_, conditions_pushAll said, selects_iff said, ?_, ?_⟩
  · have columns : (all.pushAll said).conditions.map Condition.column =
        (said.map Prod.fst).eraseDups := by
      rw [conditions_pushAll, merged, List.map_map]
      exact List.map_id _
    rw [columns]
    exact OrderedMap.nodup_eraseDups _
  · intro permuted permutation row
    apply Bool.eq_iff_iff.mpr
    rw [selects_iff, selects_iff]
    exact forall_congr' fun entry => imp_congr_left permutation.mem_iff
  · intro more r
    exact find_find r (all.pushAll said) more

/-- Two predicates on the age with one on the name between them or behind them. -/
theorem pushAll_merges_ages :
    let above : String × Predicate := ("age", .compare .gt (.integer 21))
    let below : String × Predicate := ("age", .compare .lt (.integer 65))
    let named : String × Predicate := ("name", .like (.text "a%"))
    [above, below, named].Perm [above, named, below] ∧
      (all.pushAll [above, named, below]).conditions =
        [⟨"age", [above.2, below.2]⟩, ⟨"name", [named.2]⟩] ∧
      ∀ row, (all.pushAll [above, below, named]).selects row =
        (all.pushAll [above, named, below]).selects row := by
  intro above below named
  have permutation : [above, below, named].Perm [above, named, below] :=
    (List.Perm.swap named below []).cons above
  rcases pushAll_merges [above, named, below] with ⟨_, conditions, _, invisible, _⟩
  refine ⟨permutation, ?_, invisible _ permutation⟩
  rw [conditions]
  rfl

end Filter
end DocumentQuery
