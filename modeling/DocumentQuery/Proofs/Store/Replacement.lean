import DocumentQuery.Proofs.Store.Engine
import Mathlib.Data.Nat.Find

namespace DocumentQuery

/-!
# Replacing a part of a text

The places of a part are replaced from left to right, and a place that overlaps one that was
replaced is passed over.  So it is enough to know the first place and that all others overlap
it, to know that only this one is replaced.  Where the other text is shorter than the part,
the length of the outcome tells whether anything was replaced at all.
-/

variable {part other s t : List Char}

/-- Among the places of a part there is a first one. -/
theorem exists_leftmost (occurs : part <:+: s) : ∃ u v : List Char, s = u ++ part ++ v ∧
    ∀ u' v' : List Char, s = u' ++ part ++ v' → u.length ≤ u'.length := by
  classical
  rcases occurs with ⟨u, v, found⟩
  have somewhere : ∃ n : Nat, ∃ u v : List Char, s = u ++ part ++ v ∧ u.length = n :=
    ⟨u.length, u, v, found.symm, rfl⟩
  rcases Nat.find_spec somewhere with ⟨u, v, split, length⟩
  refine ⟨u, v, split, fun u' v' place => ?_⟩
  rw [length]
  exact Nat.find_min' somewhere ⟨u', v', place, rfl⟩

theorem exists_replaced (nonempty : part ≠ []) (other s : List Char) :
    ∃ t : List Char, Replaced part other s t := by
  induction length : s.length using Nat.strong_induction_on generalizing s with
  | _ n inductionHypothesis =>
      by_cases occurs : part <:+: s
      · rcases exists_leftmost occurs with ⟨u, v, rfl, leftmost⟩
        have positive : 0 < part.length := List.length_pos_of_ne_nil nonempty
        have shorter : v.length < n := by
          simp only [List.length_append] at length
          omega
        rcases inductionHypothesis v.length shorter v rfl with ⟨rest, later⟩
        exact ⟨u ++ other ++ rest, Replaced.first leftmost later⟩
      · exact ⟨s, Replaced.absent occurs⟩

namespace Replaced

theorem eq_of_absent (replaced : Replaced part other s t) (absent : ¬ part <:+: s) : t = s := by
  cases replaced with
  | absent _ => rfl
  | @first before after _ _ _ => exact absurd ⟨before, after, rfl⟩ absent

/-- Where the part occurs, its first place is replaced. -/
theorem exists_first (replaced : Replaced part other s t) (occurs : part <:+: s) :
    ∃ u v rest : List Char, s = u ++ part ++ v ∧ t = u ++ other ++ rest ∧
      (∀ u' v' : List Char, s = u' ++ part ++ v' → u.length ≤ u'.length) ∧
      Replaced part other v rest := by
  cases replaced with
  | absent notThere => exact absurd occurs notThere
  | first leftmost later => exact ⟨_, _, _, rfl, rfl, leftmost, later⟩

theorem length_le (replaced : Replaced part other s t) (shorter : other.length ≤ part.length) :
    t.length ≤ s.length := by
  induction replaced with
  | absent _ => exact Nat.le_refl _
  | first _ _ inductionHypothesis =>
      simp only [List.length_append]
      omega

/-- An outcome in which something was replaced by a shorter text is shorter. -/
theorem length_of_occurs (replaced : Replaced part other s t) (occurs : part <:+: s)
    (shorter : other.length ≤ part.length) : t.length + part.length ≤ s.length + other.length := by
  rcases replaced.exists_first occurs with ⟨u, v, rest, rfl, rfl, _, later⟩
  have rest_le := later.length_le shorter
  simp only [List.length_append]
  omega

/-- A character at which the part does not start is kept. -/
theorem cons {c : Char} (notHere : ¬ part <+: c :: s) (replaced : Replaced part other s t) :
    Replaced part other (c :: s) (c :: t) := by
  cases replaced with
  | absent notThere =>
      apply Replaced.absent
      rw [List.infix_cons_iff]
      exact fun found => found.elim notHere notThere
  | @first before after rest leftmost later =>
      have leftmost' (u v : List Char) (place : c :: before ++ part ++ after = u ++ part ++ v) :
          (c :: before).length ≤ u.length := by
        cases u with
        | nil => exact absurd ⟨v, place.symm⟩ notHere
        | cons d u => exact Nat.succ_le_succ (leftmost u v (List.cons.inj place).2)
      exact Replaced.first leftmost' later

/-- A text without the first character of the part is kept. -/
theorem append {c : Char} {before : List Char} (free : c ∉ before)
    (replaced : Replaced (c :: part) other s t) :
    Replaced (c :: part) other (before ++ s) (before ++ t) := by
  induction before with
  | nil => exact replaced
  | cons d rest inductionHypothesis =>
      refine (inductionHypothesis fun member => free (List.mem_cons_of_mem d member)).cons ?_
      intro starts
      rw [(List.cons_prefix_cons.mp starts).1] at free
      exact free List.mem_cons_self

/-- A part that a text starts with is replaced there first. -/
theorem start (replaced : Replaced part other s t) :
    Replaced part other (part ++ s) (other ++ t) := by
  have leftmost : ∀ u v : List Char, [] ++ part ++ s = u ++ part ++ v →
      ([] : List Char).length ≤ u.length := fun u _ _ => Nat.zero_le u.length
  exact Replaced.first leftmost replaced

end Replaced

/-- If every place of a part overlaps the first one, only that one is replaced. -/
theorem replaced_first_only {u v : List Char}
    (overlap : ∀ u' v' : List Char, u ++ part ++ v = u' ++ part ++ v' →
      u.length ≤ u'.length ∧ u'.length < u.length + part.length) :
    Replaced part other (u ++ part ++ v) (u ++ other ++ v) := by
  have absent : ¬ part <:+: v := by
    rintro ⟨x, y, found⟩
    have again := (overlap (u ++ part ++ x) y (by rw [← found]; simp)).2
    simp only [List.length_append] at again
    omega
  exact Replaced.first (fun u' v' place => (overlap u' v' place).1) (Replaced.absent absent)

/-- A part that has only one place in a text is replaced there and nowhere else. -/
theorem replaced_once {u v : List Char} (nonempty : part ≠ [])
    (unique : ∀ u' v' : List Char, u ++ part ++ v = u' ++ part ++ v' → u' = u) :
    Replaced part other (u ++ part ++ v) (u ++ other ++ v) := by
  apply replaced_first_only
  intro u' v' place
  have positive : 0 < part.length := List.length_pos_of_ne_nil nonempty
  rw [unique u' v' place]
  omega

end DocumentQuery
