import DocumentQuery.Proofs.Sql.Relocation
import DocumentQuery.Proofs.Text.Names
import DocumentQuery.Sql.Definition
import Mathlib.Data.List.TakeWhile

namespace DocumentQuery
namespace Sql

/-!
# Lists of columns

A statement that creates a table ends with a list in parentheses.  The store takes it apart at the
commas that stand neither in a name in quotes nor between further parentheses, and each part defines
one column.

What a text does in such a list depends on its quotes, parentheses and commas only.  A name in
quotes is all in one part, whatever is in it.  A text without quotes is all in one part if its
commas are between parentheses and no more of these are closed than were opened.  Otherwise a part
begins within it, or the list is closed there.
-/

/-! ## Taking a list apart -/

/-- The depth of parentheses after a character, if it does not end a part of a list. -/
def within : Nat → Char → Option Nat
  | depth, '(' => some (depth + 1)
  | 0, ')' => none
  | depth + 1, ')' => some depth
  | 0, ',' => none
  | depth, _ => some depth

/-- A text in front of the first part. -/
def before (text : List Char) (parts : List Char × List (List Char)) :
    List Char × List (List Char) :=
  (text ++ parts.1, parts.2)

/-- The first part of a list and the others, read from some depth of parentheses and possibly within
quotes, if the list ends with the text. -/
def partsFrom : Nat → Bool → List Char → Option (List Char × List (List Char))
  | _, _, [] => none
  | depth, true, c :: rest => (partsFrom depth (c ≠ '"') rest).map (before [c])
  | depth, false, c :: rest =>
    if c = '"' then (partsFrom depth true rest).map (before [c])
    else
      match within depth c with
      | some depth => (partsFrom depth false rest).map (before [c])
      | none =>
        if c = ',' then (partsFrom 0 false rest).map fun (part, others) => ([], part :: others)
        -- the parenthesis that closes the list is the last character
        else if rest.isEmpty then some ([], [])
        else none

/-- The parts of a list in parentheses which is the whole of a text. -/
def partsOfList? (text : String) : Option (List (List Char)) :=
  match text.toList with
  | '(' :: rest => (partsFrom 0 false rest).map fun (part, others) => part :: others
  | _ => none

theorem partsOfList?_ofList (rest : List Char) : partsOfList? (String.ofList ('(' :: rest)) =
    (partsFrom 0 false rest).map fun (part, others) => part :: others := by
  rw [partsOfList?, String.toList_ofList]
  rfl

theorem before_before (first second : List Char) (parts : List Char × List (List Char)) :
    before first (before second parts) = before (first ++ second) parts := by
  rw [before, before, before, List.append_assoc]

theorem map_before_before (first second : List Char)
    (parts? : Option (List Char × List (List Char))) :
    (parts?.map (before second)).map (before first) = parts?.map (before (first ++ second)) := by
  cases parts? with
  | none => rfl
  | some parts => exact congrArg some (before_before first second parts)

theorem exists_of_map_before {text part : List Char} {others : List (List Char)}
    {parts? : Option (List Char × List (List Char))}
    (read : parts?.map (before text) = some (part, others)) :
    ∃ later, parts? = some (later, others) ∧ part = text ++ later := by
  rcases Option.map_eq_some_iff.mp read with ⟨⟨later, same⟩, found, split⟩
  cases split
  exact ⟨later, found, rfl⟩

/-- A text without quotes is all in one part if each of its characters is. -/
theorem partsFrom_append {text : List Char} (noQuote : '"' ∉ text) {depth after : Nat}
    (stays : text.foldlM within depth = some after) (rest : List Char) :
    partsFrom depth false (text ++ rest) = (partsFrom after false rest).map (before text) := by
  induction text generalizing depth with
  | nil =>
      cases stays
      rw [List.nil_append]
      cases partsFrom _ false rest <;> rfl
  | cons c others inductionHypothesis =>
      rw [List.mem_cons, not_or] at noQuote
      rw [List.foldlM_cons] at stays
      rcases Option.bind_eq_some_iff.mp stays with ⟨next, here, later⟩
      rw [List.cons_append, partsFrom, if_neg (Ne.symm noQuote.1), here]
      change (partsFrom next false (others ++ rest)).map (before [c]) = _
      rw [inductionHypothesis noQuote.2 later, map_before_before]
      rfl

theorem isPrefix_of_partsFrom {depth : Nat} {quoted : Bool} {text part : List Char}
    {others : List (List Char)} (read : partsFrom depth quoted text = some (part, others)) :
    part <+: text := by
  have extended {c : Char} {rest : List Char} {parts? : Option (List Char × List (List Char))}
      (inductionHypothesis : ∀ {part others}, parts? = some (part, others) → part <+: rest)
      {part : List Char} {others : List (List Char)}
      (read : parts?.map (before [c]) = some (part, others)) : part <+: c :: rest := by
    rcases exists_of_map_before read with ⟨later, found, rfl⟩
    exact List.cons_prefix_cons.mpr ⟨rfl, inductionHypothesis found⟩
  fun_induction partsFrom depth quoted text generalizing part others with
  | case1 => exact nomatch read
  | case2 depth c rest inductionHypothesis => exact extended inductionHypothesis read
  | case3 depth rest inductionHypothesis => exact extended inductionHypothesis read
  | case4 depth c rest notQuote next here inductionHypothesis =>
      exact extended inductionHypothesis read
  | case5 depth rest notQuote ends inductionHypothesis =>
      rcases Option.map_eq_some_iff.mp read with ⟨⟨first, later⟩, found, same⟩
      cases same
      exact List.nil_prefix
  | case6 depth c rest notQuote ends notComma empty =>
      cases read
      exact List.nil_prefix
  | case7 => exact nomatch read

/-! ## Where parts begin -/

/-- The first character that is no blank. -/
def firstMark? (text : List Char) : Option Char :=
  (text.dropWhile (· = ' ')).head?

theorem firstMark?_append (first second : List Char) :
    firstMark? (first ++ second) = (firstMark? first).or (firstMark? second) := by
  simp only [firstMark?, ← List.find?_not_eq_head?_dropWhile, List.find?_append]

theorem firstMark?_mem {text : List Char} {c : Char} (first : firstMark? text = some c) :
    c ∈ text := by
  rw [firstMark?, ← List.find?_not_eq_head?_dropWhile] at first
  exact List.mem_of_find?_eq_some first

/-- After blanks the text does not begin with a quote. -/
def Unnamed (text : List Char) : Prop :=
  firstMark? text ≠ some '"'

theorem Unnamed.append {first second : List Char} (unnamedFirst : Unnamed first)
    (unnamedSecond : Unnamed second) : Unnamed (first ++ second) := by
  rw [Unnamed, firstMark?_append]
  intro quote
  rcases Option.or_eq_some_iff.mp quote with here | ⟨_, later⟩
  · exact unnamedFirst here
  · exact unnamedSecond later

theorem Unnamed.of_prefix {text part : List Char} (unnamed : Unnamed text)
    (isPrefix : part <+: text) : Unnamed part := by
  rcases isPrefix with ⟨rest, rfl⟩
  intro quote
  rw [Unnamed, firstMark?_append, quote, Option.some_or] at unnamed
  exact unnamed rfl

theorem unnamed_of_noQuote {text : List Char} (noQuote : '"' ∉ text) : Unnamed text :=
  fun quote => noQuote (firstMark?_mem quote)

/-- No part that begins with a quote begins within a text without quotes. -/
theorem within_of_partsFrom {text rest : List Char} (noQuote : '"' ∉ text) (nonempty : rest ≠ [])
    (unnamed : Unnamed rest) {depth : Nat} {part : List Char} {others : List (List Char)}
    (read : partsFrom depth false (text ++ rest) = some (part, others))
    (named : ∀ other ∈ others, ¬ Unnamed other) :
    ∃ (after : Nat) (part' : List Char), text.foldlM within depth = some after ∧
      partsFrom after false rest = some (part', others) := by
  induction text generalizing depth part others with
  | nil => exact ⟨depth, part, rfl, read⟩
  | cons c text inductionHypothesis =>
      rw [List.mem_cons, not_or] at noQuote
      rw [List.cons_append, partsFrom, if_neg (Ne.symm noQuote.1)] at read
      cases here : within depth c with
      | some next =>
          rw [here] at read
          rcases exists_of_map_before read with ⟨_, found, _⟩
          rcases inductionHypothesis noQuote.2 found named with ⟨after, part', stays, read⟩
          refine ⟨after, part', ?_, read⟩
          rw [List.foldlM_cons, here]
          exact stays
      | none =>
          have notEmpty : ¬ (text ++ rest).isEmpty = true := by simp [nonempty]
          simp only [here] at read
          by_cases comma : c = ','
          · -- the part after the comma would begin within the text
            rw [if_pos comma] at read
            rcases Option.map_eq_some_iff.mp read with ⟨⟨first, later⟩, found, same⟩
            cases same
            have unnamedAll := (unnamed_of_noQuote noQuote.2).append unnamed
            exact absurd (unnamedAll.of_prefix (isPrefix_of_partsFrom found))
              (named first List.mem_cons_self)
          · rw [if_neg comma, if_neg notEmpty] at read
            exact nomatch read

/-! ## Texts that are all in one part -/

/-- The text is all in one part, at any depth, and leaves the depth as it is. -/
def Neutral (text : List Char) : Prop :=
  ∀ (depth : Nat) (rest : List Char),
    partsFrom depth false (text ++ rest) = (partsFrom depth false rest).map (before text)

theorem Neutral.append {first second : List Char} (neutralFirst : Neutral first)
    (neutralSecond : Neutral second) : Neutral (first ++ second) := by
  intro depth rest
  rw [List.append_assoc, neutralFirst, neutralSecond, map_before_before]

theorem neutral_of_within {text : List Char} (noQuote : '"' ∉ text)
    (stays : ∀ depth, text.foldlM within depth = some depth) : Neutral text :=
  fun depth rest => partsFrom_append noQuote (stays depth) rest

/-- A character that has no meaning in a list. -/
def isOrdinary (c : Char) : Bool :=
  c ≠ '"' && c ≠ '(' && c ≠ ')' && c ≠ ','

theorem within_ordinary {c : Char} (ordinary : isOrdinary c = true) (depth : Nat) :
    within depth c = some depth := by
  simp only [isOrdinary, Bool.and_eq_true, decide_eq_true_eq] at ordinary
  cases depth <;> simp [within, ordinary]

theorem neutral_ordinary {text : List Char} (ordinary : text.all isOrdinary = true) :
    Neutral text := by
  have each := List.all_eq_true.mp ordinary
  refine neutral_of_within (fun member => absurd (each '"' member) (by decide)) fun depth => ?_
  clear ordinary
  induction text with
  | nil => rfl
  | cons c rest inductionHypothesis =>
      rw [List.forall_mem_cons] at each
      rw [List.foldlM_cons, within_ordinary each.1]
      exact inductionHypothesis each.2

/-- What is between two parentheses may be anything that is all in one part. -/
theorem Neutral.group {inner : List Char} (neutral : Neutral inner) :
    Neutral ('(' :: inner ++ [')']) := by
  intro depth rest
  have opened : partsFrom depth false ('(' :: inner ++ [')'] ++ rest) =
      (partsFrom (depth + 1) false (inner ++ (')' :: rest))).map (before ['(']) := by
    simp [partsFrom, within]
  have closed : partsFrom (depth + 1) false (')' :: rest) =
      (partsFrom depth false rest).map (before [')']) := by
    simp [partsFrom, within]
  rw [opened, neutral, closed, map_before_before, map_before_before]
  rfl

theorem partsFrom_doubled (depth : Nat) (name rest : List Char) :
    partsFrom depth true (doubled '"' name ++ '"' :: rest) =
      (partsFrom depth false rest).map (before (doubled '"' name ++ ['"'])) := by
  induction name with
  | nil => simp [doubled, partsFrom]
  | cons c name inductionHypothesis =>
      rw [doubled]
      by_cases quote : c = '"'
      · subst quote
        change (partsFrom depth false ('"' :: (doubled '"' name ++ '"' :: rest))).map _ = _
        rw [partsFrom, if_pos rfl, inductionHypothesis, map_before_before, map_before_before]
        rfl
      · rw [if_neg quote]
        change (partsFrom depth (c ≠ '"') (doubled '"' name ++ '"' :: rest)).map _ = _
        rw [decide_eq_true quote, inductionHypothesis, map_before_before]
        rfl

theorem neutral_enclosed (name : String) : Neutral (enclosed '"' name) := by
  intro depth rest
  have split : enclosed '"' name ++ rest =
      '"' :: (doubled '"' name.toList ++ '"' :: rest) := by simp [enclosed]
  rw [split, partsFrom, if_pos rfl, partsFrom_doubled, map_before_before]
  rfl

/-- A text between parts that is all in one part itself and does not begin with a name. -/
structure Trailing (text : List Char) : Prop where
  neutral : Neutral text
  unnamed : Unnamed text

theorem trailing_nil : Trailing [] :=
  ⟨neutral_ordinary rfl, nofun⟩

theorem trailing_ordinary {text : List Char} (ordinary : text.all isOrdinary = true) :
    Trailing text where
  neutral := neutral_ordinary ordinary
  unnamed := unnamed_of_noQuote fun member =>
    absurd (List.all_eq_true.mp ordinary '"' member) (by decide)

theorem Trailing.append {first second : List Char} (trailingFirst : Trailing first)
    (trailingSecond : Trailing second) : Trailing (first ++ second) where
  neutral := trailingFirst.neutral.append trailingSecond.neutral
  unnamed := trailingFirst.unnamed.append trailingSecond.unnamed

end Sql
end DocumentQuery
