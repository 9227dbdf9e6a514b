import DocumentQuery.Filter.Pattern
import Mathlib.Data.List.Basic

namespace DocumentQuery
namespace Pattern

/-!
# What patterns describe

A pattern describes texts by its characters, from left to right: a percent sign any run, an
underscore any one character, and every other character itself in either letter case.  The
matcher works the other way round.  It goes through the text and extends the beginning of the
pattern character by character, so it needs to know what the last character of a beginning
describes.  A row of the matcher is right if each of its entries tells whether that beginning
describes the text read so far; every step keeps rows right.
-/

/-- The pattern describes the whole of the text. -/
def Describes : List Char → List Char → Prop
  | [], text => text = []
  | p :: pattern, text =>
    if p = '%' then ∃ run rest : List Char, text = run ++ rest ∧ Describes pattern rest
    else ∃ (c : Char) (rest : List Char), text = c :: rest ∧
      (p = '_' ∨ Text.smallLatin p = Text.smallLatin c) ∧ Describes pattern rest

theorem describes_nil (text : List Char) : Describes [] text ↔ text = [] := Iff.rfl

theorem describes_percent (pattern text : List Char) : Describes ('%' :: pattern) text ↔
    ∃ run rest : List Char, text = run ++ rest ∧ Describes pattern rest := by
  rw [Describes, if_pos rfl]

theorem describes_char {p : Char} (notPercent : p ≠ '%') (pattern text : List Char) :
    Describes (p :: pattern) text ↔ ∃ (c : Char) (rest : List Char), text = c :: rest ∧
      (p = '_' ∨ Text.smallLatin p = Text.smallLatin c) ∧ Describes pattern rest := by
  rw [Describes, if_neg notPercent]

/-- Two patterns in a row describe what falls into a text for each of them. -/
theorem describes_append (first second text : List Char) : Describes (first ++ second) text ↔
    ∃ before after : List Char,
      text = before ++ after ∧ Describes first before ∧ Describes second after := by
  induction first generalizing text with
  | nil =>
      constructor
      · exact fun described => ⟨[], text, rfl, rfl, described⟩
      · rintro ⟨before, after, rfl, empty, described⟩
        rw [(describes_nil before).mp empty]
        exact described
  | cons p first inductionHypothesis =>
      by_cases percent : p = '%'
      · subst percent
        rw [List.cons_append, describes_percent]
        constructor
        · rintro ⟨run, rest, rfl, described⟩
          rcases (inductionHypothesis rest).mp described with ⟨before, after, rfl, front, back⟩
          refine ⟨run ++ before, after, (List.append_assoc run before after).symm, ?_, back⟩
          exact (describes_percent first _).mpr ⟨run, before, rfl, front⟩
        · rintro ⟨before, after, rfl, front, back⟩
          rcases (describes_percent first before).mp front with ⟨run, rest, rfl, described⟩
          exact ⟨run, rest ++ after, List.append_assoc run rest after,
            (inductionHypothesis _).mpr ⟨rest, after, rfl, described, back⟩⟩
      · rw [List.cons_append, describes_char percent]
        constructor
        · rintro ⟨c, rest, rfl, same, described⟩
          rcases (inductionHypothesis rest).mp described with ⟨before, after, rfl, front, back⟩
          exact ⟨c :: before, after, rfl,
            (describes_char percent first _).mpr ⟨c, before, rfl, same, front⟩, back⟩
        · rintro ⟨before, after, rfl, front, back⟩
          rcases (describes_char percent first before).mp front with ⟨c, rest, rfl, same, described⟩
          exact ⟨c, rest ++ after, rfl, same,
            (inductionHypothesis _).mpr ⟨rest, after, rfl, described, back⟩⟩

/-! ## The last character of a beginning -/

theorem describes_snoc_percent (pattern text : List Char) : Describes (pattern ++ ['%']) text ↔
    ∃ before run : List Char, text = before ++ run ∧ Describes pattern before := by
  rw [describes_append]
  constructor
  · rintro ⟨before, run, split, described, _⟩
    exact ⟨before, run, split, described⟩
  · rintro ⟨before, run, split, described⟩
    exact ⟨before, run, split, described,
      (describes_percent [] run).mpr ⟨run, [], (List.append_nil run).symm, rfl⟩⟩

/-- A percent sign describes nothing more, or one more character. -/
theorem describes_snoc_percent_snoc (pattern text : List Char) (c : Char) :
    Describes (pattern ++ ['%']) (text ++ [c]) ↔
      Describes pattern (text ++ [c]) ∨ Describes (pattern ++ ['%']) text := by
  rw [describes_snoc_percent, describes_snoc_percent]
  constructor
  · rintro ⟨before, run, split, described⟩
    rcases List.eq_nil_or_concat run with rfl | ⟨shorter, last, rfl⟩
    · rw [List.append_nil] at split
      exact Or.inl (split ▸ described)
    · rw [List.concat_eq_append, ← List.append_assoc] at split
      exact Or.inr ⟨before, shorter, (List.append_inj' split rfl).1, described⟩
  · rintro (described | ⟨before, run, rfl, described⟩)
    · exact ⟨text ++ [c], [], (List.append_nil _).symm, described⟩
    · exact ⟨before, run ++ [c], List.append_assoc before run [c], described⟩

theorem describes_snoc_char {p : Char} (notPercent : p ≠ '%') (pattern text : List Char)
    (c : Char) : Describes (pattern ++ [p]) (text ++ [c]) ↔
      Describes pattern text ∧ (p = '_' ∨ Text.smallLatin p = Text.smallLatin c) := by
  rw [describes_append]
  constructor
  · rintro ⟨before, after, split, described, last⟩
    rcases (describes_char notPercent [] after).mp last with ⟨d, rest, rfl, same, empty⟩
    rw [(describes_nil rest).mp empty] at split
    rcases List.append_inj' split rfl with ⟨rfl, final⟩
    rw [(List.cons.inj final).1]
    exact ⟨described, same⟩
  · rintro ⟨described, same⟩
    exact ⟨text, [c], rfl, described,
      (describes_char notPercent [] [c]).mpr ⟨c, [], rfl, same, rfl⟩⟩

/-- Only percent signs describe the empty text. -/
theorem describes_snoc_nil (pattern : List Char) (p : Char) :
    Describes (pattern ++ [p]) [] ↔ Describes pattern [] ∧ p = '%' := by
  by_cases percent : p = '%'
  · subst percent
    rw [describes_snoc_percent]
    simp
  · rw [describes_append]
    constructor
    · rintro ⟨before, after, split, _, last⟩
      rcases (describes_char percent [] after).mp last with ⟨c, rest, rfl, _⟩
      exact absurd split.symm (by simp)
    · exact fun both => absurd both.2 percent

/-! ## Rows of the matcher -/

/-- No letter is a percent sign or an underscore, so those are told apart in small letters. -/
theorem smallLatin_eq_iff {special : Char} (isSpecial : special = '%' ∨ special = '_') (p : Char) :
    Text.smallLatin p = special ↔ p = special := by
  have unchanged : Text.smallLatin special = special := by
    rcases isSpecial with rfl | rfl <;> rfl
  constructor
  · intro same
    by_cases capital : ('A' ≤ p && p ≤ 'Z') = true
    · rw [Text.smallLatin, if_pos capital] at same
      rw [Bool.and_eq_true, decide_eq_true_eq, decide_eq_true_eq] at capital
      have low : 65 ≤ p.toNat := capital.1
      have high : p.toNat ≤ 90 := capital.2
      have valid : (p.toNat + 32).isValidChar := Or.inl (by omega)
      have code : (Char.ofNat (p.toNat + 32)).toNat = p.toNat + 32 := by
        rw [Char.ofNat, dif_pos valid]
        rfl
      rw [same] at code
      rcases isSpecial with rfl | rfl
      · exact absurd code (by simp only [Char.reduceToNat]; omega)
      · exact absurd code (by simp only [Char.reduceToNat]; omega)
    · rwa [Text.smallLatin, if_neg capital] at same
  · rintro rfl
    exact unchanged

/-- Each entry of the row tells whether a beginning of the pattern that is longer than
`begun` describes the text; the first entry is about one more character. -/
inductive Right (text : List Char) : List Char → List Char → List Bool → Prop where
  | nil (begun : List Char) : Right text begun [] []
  | cons {begun pattern : List Char} {p : Char} {here : Bool} {row : List Bool}
      (entry : here = true ↔ Describes (begun ++ [p]) text)
      (later : Right text (begun ++ [p]) pattern row) :
      Right text begun (p :: pattern) (here :: row)

theorem right_emptyRow (begun pattern : List Char) {matched : Bool}
    (first : matched = true ↔ Describes begun []) :
    Right [] begun pattern (emptyRow matched (pattern.map Text.smallLatin)) := by
  induction pattern generalizing begun matched with
  | nil => exact Right.nil begun
  | cons p rest inductionHypothesis =>
      have entry : (matched && Text.smallLatin p == '%') = true ↔ Describes (begun ++ [p]) [] := by
        rw [Bool.and_eq_true, beq_iff_eq, smallLatin_eq_iff (Or.inl rfl), first, describes_snoc_nil]
      exact Right.cons entry (inductionHypothesis _ entry)

/-- One more character of the text takes a right row to a right row. -/
theorem right_nextRow (text : List Char) (c : Char) {begun pattern : List Char} {row : List Bool}
    (right : Right text begun pattern row) {aboveLeft left : Bool}
    (before : aboveLeft = true ↔ Describes begun text)
    (after : left = true ↔ Describes begun (text ++ [c])) :
    Right (text ++ [c]) begun pattern
      (nextRow (Text.smallLatin c) aboveLeft left (pattern.map Text.smallLatin) row) := by
  induction right generalizing aboveLeft left with
  | nil begun => exact Right.nil begun
  | @cons begun pattern p above row entry later inductionHypothesis =>
      refine Right.cons ?_ (inductionHypothesis entry ?_)
      all_goals
        by_cases percent : p = '%'
        · subst percent
          rw [if_pos (by rfl), Bool.or_eq_true, after, entry, describes_snoc_percent_snoc]
        · rw [if_neg (mt (smallLatin_eq_iff (Or.inl rfl) p).mp percent),
            describes_snoc_char percent]
          by_cases underscore : p = '_'
          · subst underscore
            rw [if_pos (by rfl), before, and_iff_left (Or.inl rfl)]
          · rw [if_neg (mt (smallLatin_eq_iff (Or.inr rfl) p).mp underscore), Bool.and_eq_true,
              beq_iff_eq, before, or_iff_right underscore]

/-- What is known of the rows of the matcher after it has read a text. -/
theorem right_lastRow (pattern read text : List Char) {first : Bool} {row : List Bool}
    (empty : first = true ↔ read = []) (right : Right read [] pattern row) :
    let last := lastRow (pattern.map Text.smallLatin) first row (text.map Text.smallLatin)
    (last.1 = true ↔ read ++ text = []) ∧ Right (read ++ text) [] pattern last.2 := by
  induction text generalizing read first row with
  | nil =>
      rw [List.append_nil]
      exact ⟨empty, right⟩
  | cons c rest inductionHypothesis =>
      have later : false = true ↔ read ++ [c] = [] := by simp
      have next := right_nextRow read c right (empty.trans (describes_nil read).symm) later
      have split : read ++ c :: rest = read ++ [c] ++ rest := by simp
      rw [split]
      exact inductionHypothesis (read ++ [c]) later next

/-- The last entry of a right row is about the whole pattern. -/
theorem Right.getLastD_iff {text begun pattern : List Char} {row : List Bool}
    (right : Right text begun pattern row) {first : Bool}
    (before : first = true ↔ Describes begun text) :
    row.getLastD first = true ↔ Describes (begun ++ pattern) text := by
  induction right generalizing first with
  | nil begun => rwa [List.append_nil]
  | @cons begun pattern p here row entry _ inductionHypothesis =>
      have split : begun ++ p :: pattern = begun ++ [p] ++ pattern := by simp
      rw [split, List.getLastD_cons]
      exact inductionHypothesis entry

/-- The matcher decides what patterns describe. -/
theorem matchesChars_iff (text pattern : List Char) :
    matchesChars (text.map Text.smallLatin) (pattern.map Text.smallLatin) = true ↔
      Describes pattern text := by
  have nothing : true = true ↔ Describes [] [] := iff_of_true rfl rfl
  have start := right_emptyRow [] pattern nothing
  rcases right_lastRow pattern [] text (iff_of_true rfl rfl) start with ⟨first, row⟩
  rw [List.nil_append] at first row
  exact row.getLastD_iff (first.trans (describes_nil text).symm)

/-- A text is like a pattern exactly if the pattern describes the whole of it. -/
theorem isLike_iff (text pattern : String) :
    isLike text pattern = true ↔ Describes pattern.toList text.toList := by
  rw [isLike, matchesChars_iff]

end Pattern
end DocumentQuery
