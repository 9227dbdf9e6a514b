import DocumentQuery.Proofs.Sets.QuotedWords

namespace DocumentQuery
namespace Brackets

open Json Sql

/-!
# Neighbours that look like a comma

A mark of a text in quotes occurs where the text stands, and for the text of one comma also
where two neighbours meet: the first ends with the character before the comma and the second
begins with the one after it.  Every other text may be looked up, inserted and removed like
a plain word.  For a comma the search, and with it insertion, takes such neighbours for the
comma itself.
-/

/-- Two neighbours of a list, of which the first ends and the second begins with a given
character. -/
structure Meet (xs : List String) (left right : Char) (x y : String) : Prop where
  beside : [x, y] <:+: xs
  ends : x.toList.getLast? = some left
  begins : y.toList.head? = some right

/-- Neighbours with these characters meet somewhere in the list. -/
def Meets (xs : List String) (left right : Char) : Prop :=
  ∃ x y : String, Meet xs left right x y

variable {xs : List String} {v : String} {left right : Char}

theorem Meet.split {x y : String} (meet : Meet xs left right x y) :
    ∃ (before after : List String) (s t : List Char), xs = before ++ x :: y :: after ∧
      x.toList = s ++ [left] ∧ y.toList = right :: t := by
  rcases meet.beside with ⟨before, after, beside⟩
  rcases List.getLast?_eq_some_iff.mp meet.ends with ⟨s, ends⟩
  rcases List.head?_eq_some_iff.mp meet.begins with ⟨t, begins⟩
  refine ⟨before, after, s, t, ?_, ends, begins⟩
  rw [← beside]
  simp

theorem meet_of_split {before after : List String} {x y : String} {s t : List Char}
    (split : xs = before ++ x :: y :: after) (ends : x.toList = s ++ [left])
    (begins : y.toList = right :: t) : Meet xs left right x y where
  beside := ⟨before, after, by rw [split]; simp⟩
  ends := List.getLast?_eq_some_iff.mpr ⟨s, ends⟩
  begins := List.head?_eq_some_iff.mpr ⟨t, begins⟩

/-- A mark occurs where the text stands, and that of a comma where neighbours meet. -/
theorem mark_infix_iff (leftOpens : left = '[' ∨ left = ',') (separator : IsSeparator right) :
    mark left (quoted v) right <:+: bracketed (xs.map quoted) ↔
      Stands xs left v right ∨ v = "," ∧ Meets xs left right := by
  constructor
  · rintro ⟨u, r, found⟩
    cases occurrence_of_mark leftOpens separator found.symm with
    | @around before after split opens closes =>
        have before_eq := openChar_of_opening opens
        have after_eq := closeChar_of_closing closes
        rw [openChar_map] at before_eq
        rw [closeChar_map] at after_eq
        exact Or.inl ⟨before, after, split, before_eq, after_eq⟩
    | across split comma ends begins _ _ =>
        exact Or.inr ⟨comma, _, _, meet_of_split split ends begins⟩
  · rintro (⟨before, after, rfl, rfl, rfl⟩ | ⟨comma, x, y, meet⟩)
    · rw [List.map_append, List.map_cons, ← openChar_map quoted before,
        ← closeChar_map quoted after]
      exact mark_infix_bracketed (before.map quoted) (quoted v) (after.map quoted)
    · rcases meet.split with ⟨before, after, s, t, split, ends, begins⟩
      have found := (Occurrence.across split comma ends begins rfl rfl).found leftOpens separator
      exact ⟨_, _, found.symm⟩

theorem quoted_ne_nil (v : String) : quoted v ≠ [] :=
  List.cons_ne_nil _ _

theorem nil_notMem_quoted (xs : List String) : [] ∉ xs.map quoted := by
  rw [List.mem_map]
  rintro ⟨x, _, empty⟩
  exact quoted_ne_nil x empty

theorem eq_singleton_of_text (text : bracketed (xs.map quoted) = mark '[' (quoted v) ']') :
    xs.map quoted = [quoted v] := by
  have found : bracketed (xs.map quoted) = [] ++ mark '[' (quoted v) ']' ++ [] := by
    rw [text, List.append_nil, List.nil_append]
  cases occurrence_of_mark (Or.inl rfl) (Or.inr (Or.inr rfl)) found with
  | around split opens closes =>
      rw [split, List.map_append, List.map_cons, eq_nil_of_opening opens,
        eq_nil_of_closing closes]
      rfl
  | across _ _ _ _ opens _ => exact absurd opens.symm (by simp)

/-- The marks of a text other than a comma stand around it and nowhere else. -/
theorem faithful_quoted (notComma : v ≠ ",") (leftOpens : left = '[' ∨ left = ',')
    (separator : IsSeparator right) : Faithful (xs.map quoted) left (quoted v) right := by
  intro u r found
  cases occurrence_of_mark leftOpens separator found with
  | @around before after split opens closes =>
      exact ⟨before.map quoted, after.map quoted, by rw [split, List.map_append, List.map_cons],
        opens, closes⟩
  | across _ comma _ _ _ _ => exact absurd comma notComma

/-- A text other than a comma may be looked up, inserted and removed. -/
theorem legible_quoted (xs : List String) (notComma : v ≠ ",") :
    Legible (xs.map quoted) (quoted v) where
  nonempty := nil_notMem_quoted xs
  alone := eq_singleton_of_text
  first := faithful_quoted notComma (Or.inl rfl) (Or.inr (Or.inl rfl))
  middle := faithful_quoted notComma (Or.inr rfl) (Or.inr (Or.inl rfl))
  last := faithful_quoted notComma (Or.inr rfl) (Or.inr (Or.inr rfl))

/-- Neighbours meet as if a comma stood between two others, or at an end of the list. -/
def MeetsBeside (xs : List String) : Prop :=
  Meets xs '[' ',' ∨ Meets xs ',' ',' ∨ Meets xs ',' ']'

/-- The text has a mark where it is in the list, and a comma also where neighbours meet. -/
theorem found_quoted_iff (xs : List String) (v : String) :
    Found (quoted v) (bracketed (xs.map quoted)) ↔
      v ∈ xs ∨ v = "," ∧ (Meets xs '[' ']' ∨ MeetsBeside xs) := by
  have comma : IsSeparator ',' := Or.inr (Or.inl rfl)
  have bracket : IsSeparator ']' := Or.inr (Or.inr rfl)
  rw [Found, mark_infix_iff (Or.inl rfl) bracket, mark_infix_iff (Or.inl rfl) comma,
    mark_infix_iff (Or.inr rfl) comma, mark_infix_iff (Or.inr rfl) bracket, ← stands_iff_mem,
    MeetsBeside]
  tauto

theorem foundBeside_quoted_iff (notAlone : xs ≠ [v]) :
    FoundBeside (quoted v) (bracketed (xs.map quoted)) ↔ v ∈ xs ∨ v = "," ∧ MeetsBeside xs := by
  have comma : IsSeparator ',' := Or.inr (Or.inl rfl)
  have bracket : IsSeparator ']' := Or.inr (Or.inr rfl)
  rw [FoundBeside, mark_infix_iff (Or.inl rfl) comma, mark_infix_iff (Or.inr rfl) comma,
    mark_infix_iff (Or.inr rfl) bracket, ← stands_beside_iff_mem notAlone, MeetsBeside]
  tauto

theorem quoted_injective : Function.Injective quoted := by
  intro x y same
  have texts := writeString_inj (r := []) (q := []) (congrArg (· ++ []) same)
  exact String.toList_inj.mp texts.1

/-- Insertion adds a text at the end unless it is in the list, or is a comma and neighbours
look like it. -/
theorem inserted_quoted (xs : List String) (v : String)
    [Decidable (v ∈ xs ∨ v = "," ∧ MeetsBeside xs)] :
    Inserted (quoted v) (bracketed (xs.map quoted))
      (bracketed ((if v ∈ xs ∨ v = "," ∧ MeetsBeside xs then xs else xs ++ [v]).map quoted)) := by
  have single (words_eq : xs.map quoted = [quoted v]) : xs = [v] :=
    List.map_injective_iff.mpr quoted_injective words_eq
  have inserted := inserted_of_foundBeside (nil_notMem_quoted xs) eq_singleton_of_text
    (fun words_eq => Or.inl (single words_eq ▸ List.mem_cons_self))
    (fun others => foundBeside_quoted_iff (v := v) fun xs_eq => others (by rw [xs_eq]; rfl))
  by_cases shown : v ∈ xs ∨ v = "," ∧ MeetsBeside xs
  · rwa [if_pos shown] at inserted ⊢
  · rw [if_neg shown] at inserted ⊢
    rwa [List.map_append]

end Brackets
end DocumentQuery
