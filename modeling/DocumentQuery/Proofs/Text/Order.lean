import Mathlib.Data.Char
import Mathlib.Data.List.Basic
import Mathlib.Order.Compare
import Mathlib.Order.Lattice

namespace DocumentQuery
namespace Text

/-!
# Order part by part

Texts are ordered by their characters, and a text that goes on is after one that ends.  Where two
texts are composed of parts of the same lengths, the order is settled by the first part in which
they differ.  Numbers that are composed of a place and a distance from it behave likewise, provided
that no distance reaches the next place: digits and their carries, months and days, years and days.
-/

/-- Lists of characters are ordered by the first character in which they differ. -/
theorem compareOfLessAndEq_eq (s t : List Char) : compareOfLessAndEq s t = compare s t := by
  induction s generalizing t with
  | nil => cases t <;> rfl
  | cons c rest inductionHypothesis =>
      rcases t with _ | ⟨d, others⟩
      · rfl
      rw [List.compare_cons_cons, ← inductionHypothesis others]
      simp only [compareOfLessAndEq, List.cons_lt_cons_iff, List.cons.injEq]
      rcases lt_trichotomy c d with before | same | behind
      · rw [if_pos (Or.inl before), compare_lt_iff_lt.mpr before, Ordering.lt_then]
      · simp only [same, lt_irrefl, false_or, true_and, compare_eq_iff_eq.mpr, Ordering.eq_then]
      · rw [compare_gt_iff_gt.mpr behind, Ordering.gt_then, if_neg, if_neg]
        · exact fun equal => behind.ne' equal.1
        · exact fun less => less.elim behind.asymm fun equal => behind.ne' equal.1

/-- Strings have the order of their lists of characters. -/
theorem compare_ofList (s t : List Char) :
    compare (String.ofList s) (String.ofList t) = compare s t := by
  rw [← compareOfLessAndEq_eq]
  change compareOfLessAndEq (String.ofList s) (String.ofList t) = _
  simp only [compareOfLessAndEq, String.lt_iff, String.toList_ofList, String.ofList_inj]

/-- Parts of the same length at the start are compared before what follows them. -/
theorem compare_append {s t : List Char} (same : s.length = t.length) (s' t' : List Char) :
    compare (s ++ s') (t ++ t') = (compare s t).then (compare s' t') := by
  induction s generalizing t with
  | nil =>
      rw [List.eq_nil_of_length_eq_zero same.symm]
      rfl
  | cons c rest inductionHypothesis =>
      rcases t with _ | ⟨d, others⟩
      · exact nomatch same
      have shorter : rest.length = others.length := Nat.succ.inj same
      rw [List.cons_append, List.cons_append, List.compare_cons_cons, inductionHypothesis shorter,
        List.compare_cons_cons, Ordering.then_assoc]

theorem compare_cons (c : Char) (s t : List Char) : compare (c :: s) (c :: t) = compare s t := by
  rw [List.compare_cons_cons, compare_eq_iff_eq.mpr rfl, Ordering.eq_then]

/-- What has been decided stays so. -/
theorem then_of_ne {o : Ordering} (decided : o ≠ .eq) (o' : Ordering) : o.then o' = o := by
  cases o with
  | lt => rfl
  | eq => exact absurd rfl decided
  | gt => rfl

/-- A natural number has the same order among the integers, also as a distance from a place. -/
theorem compare_add_natCast (start : Int) (m n : Nat) :
    compare (start + m) (start + n) = compare m n := by
  simp only [Int.compare_eq_ite_lt, Nat.compare_eq_ite_lt, Int.add_lt_add_iff_left, Int.ofNat_lt]

theorem compare_natCast (m n : Nat) : compare (m : Int) (n : Int) = compare m n := by
  have order := compare_add_natCast 0 m n
  rwa [Int.zero_add, Int.zero_add] at order

/-- Places are compared before the distances from them. -/
theorem compare_places {α : Type} [LinearOrder α] {start length : α → Int}
    (apart : ∀ {a b : α}, a < b → start a + length a ≤ start b) {a b : α} {i j : Nat}
    (inFirst : i < length a) (inSecond : j < length b) :
    compare (start a + i) (start b + j) = (compare a b).then (compare i j) := by
  rcases lt_trichotomy a b with before | same | behind
  · have gap := apart before
    rw [compare_lt_iff_lt.mpr before, Ordering.lt_then, Int.compare_eq_lt]
    omega
  · subst same
    rw [compare_eq_iff_eq.mpr rfl, Ordering.eq_then, compare_add_natCast]
  · have gap := apart behind
    rw [compare_gt_iff_gt.mpr behind, Ordering.gt_then, Int.compare_eq_gt]
    omega

end Text
end DocumentQuery
