import DocumentQuery.Json.Tree
import DocumentQuery.Proofs.Json.Escapes
import DocumentQuery.Proofs.Json.Numerals
import DocumentQuery.Proofs.Sets.Brackets
import Mathlib.Tactic.IntervalCases

namespace DocumentQuery
namespace Json

open Brackets Decimal

/-!
# Reading back a written array

The scanner is between two tokens before and after each item of a written array, and the
stack machine holds one open list while the items come.  It is enough, then, to know of each
item that the scanner reads it as one leaf (`ReadsAs`).  This is shown for the numerals of
64-bit integers and for written strings, whatever their characters are.
-/

/-! ## The scanner -/

/-- Before a comma or a closing bracket, the scanner reads the word as one leaf. -/
def ReadsAs (word : List Char) (tree : Tree) : Prop :=
  ∀ (tokens : List Token) (c : Char) (rest : List Char), c = ',' ∨ c = ']' →
    (word ++ c :: rest).foldlM Scanner.step ⟨tokens, .between⟩ =
      (c :: rest).foldlM Scanner.step ⟨.leaf tree :: tokens, .between⟩

/-- The tokens of leaves in a list, with the bracket that closes it. -/
def leafTokens : List Tree → List Token
  | [] => [.closeList]
  | [tree] => [.leaf tree, .closeList]
  | tree :: next :: rest => .leaf tree :: .comma :: leafTokens (next :: rest)

theorem scan_items {word : List Char} {words : List (List Char)} {tree : Tree} {trees : List Tree}
    (first : ReadsAs word tree) (others : List.Forall₂ ReadsAs words trees) (tokens : List Token) :
    (word ++ closing words).foldlM Scanner.step ⟨tokens, .between⟩ =
      some ⟨(leafTokens (tree :: trees)).reverse ++ tokens, .between⟩ := by
  induction others generalizing word tree tokens with
  | nil => exact first tokens ']' [] (Or.inr rfl)
  | @cons next nextTree words trees reads _ inductionHypothesis =>
      have read := first tokens ',' (next ++ closing words) (Or.inl rfl)
      rw [closing_cons, List.cons_append, read, List.foldlM_cons]
      have later := inductionHypothesis reads (.comma :: .leaf tree :: tokens)
      rw [leafTokens, List.reverse_cons, List.reverse_cons, List.append_assoc, List.append_assoc]
      exact later

theorem tokens?_bracketed {words : List (List Char)} {trees : List Tree}
    (reads : List.Forall₂ ReadsAs words trees) :
    tokens? (bracketed words) = some (.openList :: leafTokens trees) := by
  cases reads with
  | nil => rfl
  | @cons word tree words trees first others =>
      have scanned := scan_items first others [.openList]
      have all : (bracketed (word :: words)).foldlM Scanner.step ⟨[], .between⟩ =
          some ⟨(leafTokens (tree :: trees)).reverse ++ [.openList], .between⟩ := scanned
      rw [tokens?, all]
      simp [Scanner.finish]

/-! ## The stack machine -/

/-- Leaves go into the list that is open. -/
theorem build_leaves (tree : Tree) (trees read : List Tree) :
    (leafTokens (tree :: trees)).foldlM Builder.step ⟨[.list read], .value⟩ =
      some ⟨[], .complete (.list (read.reverse ++ tree :: trees))⟩ := by
  induction trees generalizing tree read with
  | nil =>
      have closed : (tree :: read).reverse = read.reverse ++ [tree] := List.reverse_cons
      rw [← closed]
      rfl
  | cons next rest inductionHypothesis =>
      have later := inductionHypothesis next (tree :: read)
      rw [List.reverse_cons, List.append_assoc] at later
      exact later

theorem tree?_bracketed {words : List (List Char)} {trees : List Tree}
    (reads : List.Forall₂ ReadsAs words trees) :
    tree? (String.ofList (bracketed words)) = some (.list trees) := by
  rw [tree?, String.toList_ofList, tokens?_bracketed reads]
  cases trees with
  | nil => rfl
  | cons tree rest =>
      have built : (Token.openList :: leafTokens (tree :: rest)).foldlM Builder.step
          ⟨[], .value⟩ = some ⟨[], .complete (.list (tree :: rest))⟩ := by
        -- the first item is read like every other one
        have built := build_leaves tree rest []
        cases rest <;> exact built
      simp only [Option.bind_eq_bind, Option.bind_some, built]

theorem documents?_eq {trees : List Tree} {items : List Json} {depth : Nat}
    (denotes : List.Forall₂ (fun tree item => tree.document? depth = some item) trees items) :
    documents? depth trees = some items := by
  induction denotes with
  | nil => rfl
  | cons first _ inductionHypothesis => rw [documents?, first, inductionHypothesis]

/-- A written array is read back as it was, if each of its items is read as a leaf that denotes
it. -/
theorem read?_array {α : Type} {json : α → Json} (tree : α → Tree) (items : List α)
    (reads : ∀ item : α, ReadsAs (json item).write (tree item))
    (denotes : ∀ item : α, (tree item).document? 126 = some (json item)) :
    read? (Json.array (items.map json)).compact = some (.array (items.map json)) := by
  have readItems : List.Forall₂ ReadsAs ((items.map json).map write) (items.map tree) := by
    rw [List.map_map, List.forall₂_map_left_iff, List.forall₂_map_right_iff, List.forall₂_same]
    exact fun item _ => reads item
  have denoteItems : List.Forall₂ (fun tree item => Tree.document? 126 tree = some item)
      (items.map tree) (items.map json) := by
    rw [List.forall₂_map_left_iff, List.forall₂_map_right_iff, List.forall₂_same]
    exact fun item _ => denotes item
  rw [read?, compact, write_array, tree?_bracketed readItems, Option.bind_some, maxDepth,
    Tree.document?, documents?_eq denoteItems]
  rfl

/-! ## Arrays of integers -/

theorem start_numeral {c : Char} (numeral : c = '-' ∨ c.isDigit = true) (tokens : List Token) :
    Scanner.start tokens c = some ⟨tokens, .numeral [c]⟩ ∧ isNumeralChar c = true := by
  rcases numeral with rfl | digit
  · exact ⟨rfl, rfl⟩
  · rcases exists_digitChar digit with ⟨d, small, rfl⟩
    interval_cases d <;> exact ⟨rfl, rfl⟩

theorem scan_numeral (word read : List Char) (tokens : List Token) (rest : List Char)
    (numeral : ∀ c ∈ word, isNumeralChar c = true) :
    (word ++ rest).foldlM Scanner.step ⟨tokens, .numeral read⟩ =
      rest.foldlM Scanner.step ⟨tokens, .numeral (word.reverse ++ read)⟩ := by
  induction word generalizing read with
  | nil => rfl
  | cons c others inductionHypothesis =>
      have stays : Scanner.step ⟨tokens, .numeral read⟩ c = some ⟨tokens, .numeral (c :: read)⟩ :=
        if_pos (numeral c List.mem_cons_self)
      rw [List.cons_append, List.foldlM_cons, stays, List.reverse_cons, List.append_assoc]
      exact inductionHypothesis (c :: read) fun d member =>
        numeral d (List.mem_cons_of_mem c member)

/-- The numeral of a 64-bit integer is read as one leaf. -/
theorem readsAs_integer (n : Int64) :
    ReadsAs (ofInt64 n).write (.number (some (.integer n))) := by
  intro tokens c rest separator
  rcases exists_digits n.toInt.natAbs with ⟨digits, written⟩
  have token : numeralToken? (integer n.toInt) = some (.leaf (.number (some (.integer n)))) := by
    rw [numeralToken?, read?_integer written, Option.map_some, value?_integer n written]
  rcases List.exists_cons_of_ne_nil (integer_ne_nil n.toInt) with ⟨first, others, text⟩
  have numeral : ∀ d ∈ first :: others, d = '-' ∨ d.isDigit = true := by
    rw [← text]
    exact fun d member => isDigit_of_mem_integer member
  have ends : isNumeralChar c = false := by
    rcases separator with rfl | rfl <;> rfl
  have started := (start_numeral (numeral first List.mem_cons_self) tokens).1
  have scanned := scan_numeral others [first] tokens (c :: rest) fun d member =>
    (start_numeral (numeral d (List.mem_cons_of_mem first member)) tokens).2
  have finished : Scanner.step ⟨tokens, .numeral (others.reverse ++ [first])⟩ c =
      Scanner.start (.leaf (.number (some (.integer n))) :: tokens) c := by
    rw [← List.reverse_cons, ← text]
    simp only [Scanner.step, ends, List.reverse_reverse, token, Option.bind_some]
    rfl
  change (integer n.toInt ++ c :: rest).foldlM Scanner.step ⟨tokens, .between⟩ = _
  rw [text, List.cons_append, List.foldlM_cons]
  change (Scanner.start tokens first >>= _) = _
  rw [started]
  change (others ++ c :: rest).foldlM Scanner.step ⟨tokens, .numeral [first]⟩ = _
  rw [scanned, List.foldlM_cons, finished, List.foldlM_cons]
  rfl

/-- A written array of integers is read back as it was. -/
theorem read?_integers (items : List Int64) :
    read? (Json.array (items.map ofInt64)).compact = some (.array (items.map ofInt64)) := by
  refine read?_array (fun n => .number (some (.integer n))) items readsAs_integer ?_
  intro n
  rw [Tree.document?]
  rfl

/-! ## Arrays of strings -/

/-- The scanned unit stands for the character: it is the character itself, or the number of a
control character. -/
inductive Stands (c : Char) : StringUnit → Prop where
  | itself : Stands c (.char c)
  | number (control : c.toNat < 0x20) : Stands c (.unit c.toNat)

theorem hexValue?_hexDigit : ∀ n < 16, hexValue? (hexDigit n) = some n := by
  decide

theorem step_digit (tokens : List Token) (read : List StringUnit) (left value : Nat) {n : Nat}
    (small : n < 16) :
    Scanner.step ⟨tokens, .unit read left value⟩ (hexDigit n) =
      some (if left ≤ 1 then ⟨tokens, .string (.unit (16 * value + n) :: read)⟩
        else ⟨tokens, .unit read (left - 1) (16 * value + n)⟩) := by
  change (hexValue? (hexDigit n)).map _ = _
  rw [hexValue?_hexDigit n small]
  rfl

/-- What is written for a character is scanned as one unit that stands for it. -/
theorem scan_escaped {c : Char} {written : List Char} (escaped : Escaped c written)
    (tokens : List Token) (read : List StringUnit) (rest : List Char) :
    ∃ unit : StringUnit, Stands c unit ∧
      (written ++ rest).foldlM Scanner.step ⟨tokens, .string read⟩ =
        rest.foldlM Scanner.step ⟨tokens, .string (unit :: read)⟩ := by
  cases escaped with
  | itself notQuote notBackslash visible =>
      refine ⟨.char c, .itself, ?_⟩
      have stays : Scanner.step ⟨tokens, .string read⟩ c =
          some ⟨tokens, .string (.char c :: read)⟩ := by
        rw [Scanner.step]
        simp only [notQuote, notBackslash, Nat.not_lt.mpr visible, if_false]
      rw [List.singleton_append, List.foldlM_cons, stays]
      rfl
  | @letter l listed stands =>
      refine ⟨.char c, .itself, ?_⟩
      have notNumber : l ≠ 'u' := by
        rintro rfl
        exact absurd listed (by decide)
      have opened : Scanner.step ⟨tokens, .string read⟩ '\\' = some ⟨tokens, .escape read⟩ := rfl
      have closed : Scanner.step ⟨tokens, .escape read⟩ l =
          some ⟨tokens, .string (.char c :: read)⟩ := by
        rw [Scanner.step]
        simp only [notNumber, if_false, stands, Option.map_some]
      rw [List.cons_append, List.singleton_append, List.foldlM_cons, opened]
      change (l :: rest).foldlM Scanner.step ⟨tokens, .escape read⟩ = _
      rw [List.foldlM_cons, closed]
      rfl
  | number control =>
      refine ⟨.unit c.toNat, .number control, ?_⟩
      have third := step_digit tokens read 2 0 (by omega : c.toNat / 16 < 16)
      have fourth := step_digit tokens read 1 (c.toNat / 16) (by omega : c.toNat % 16 < 16)
      simp only [Nat.mul_zero, Nat.zero_add] at third
      rw [if_pos (Nat.le_refl 1), Nat.div_add_mod] at fourth
      -- the first four characters are the same for all control characters
      change (hexDigit (c.toNat / 16) :: hexDigit (c.toNat % 16) :: rest).foldlM Scanner.step
        ⟨tokens, .unit read 2 0⟩ = _
      rw [List.foldlM_cons, third]
      change (hexDigit (c.toNat % 16) :: rest).foldlM Scanner.step
        ⟨tokens, .unit read 1 (c.toNat / 16)⟩ = _
      rw [List.foldlM_cons, fourth]
      rfl

/-- The characters of a written string are scanned one after the other. -/
theorem scan_characters (s : List Char) (tokens : List Token) (read : List StringUnit)
    (rest : List Char) :
    ∃ units : List StringUnit, List.Forall₂ Stands s units ∧
      (s.flatMap escapeChar ++ rest).foldlM Scanner.step ⟨tokens, .string read⟩ =
        rest.foldlM Scanner.step ⟨tokens, .string (units.reverse ++ read)⟩ := by
  induction s generalizing read with
  | nil => exact ⟨[], .nil, rfl⟩
  | cons c s inductionHypothesis =>
      rcases scan_escaped (escaped_escapeChar c) tokens read (s.flatMap escapeChar ++ rest) with
        ⟨unit, stands, first⟩
      rcases inductionHypothesis (unit :: read) with ⟨units, others, later⟩
      refine ⟨unit :: units, .cons stands others, ?_⟩
      rw [List.flatMap_cons, List.append_assoc, first, later, List.reverse_cons, List.append_assoc]
      rfl

/-- Units that stand for characters are joined to them: none is half of a surrogate pair. -/
theorem joinUnits_eq {s : List Char} {units : List StringUnit}
    (stand : List.Forall₂ Stands s units) : joinUnits units = some s := by
  induction stand with
  | nil => rfl
  | @cons c unit s units stands _ inductionHypothesis =>
      cases stands with
      | itself => rw [joinUnits, inductionHypothesis, Option.map_some]
      | number control =>
          have notHigh : isHighSurrogate c.toNat = false := by
            rw [isHighSurrogate, decide_eq_false (by omega), Bool.false_and]
          have notLow : isLowSurrogate c.toNat = false := by
            rw [isLowSurrogate, decide_eq_false (by omega), Bool.false_and]
          have joined : joinUnits (.unit c.toNat :: units) =
              (joinUnits units).map (Char.ofNat c.toNat :: ·) := by
            -- a unit that follows is looked at only if this one is in the first half of a pair
            cases units with
            | nil => simp only [joinUnits, notHigh, notLow, Bool.or_self, Bool.false_eq_true, if_false]
            | cons next rest =>
                cases next <;> simp only [joinUnits, notHigh, notLow, Bool.or_self,
                  Bool.false_eq_true, if_false]
          rw [joined, inductionHypothesis, Option.map_some, Char.ofNat_toNat]

/-- A written string is read as one leaf. -/
theorem readsAs_string (s : String) : ReadsAs (Json.string s).write (.string (some s)) := by
  intro tokens c rest _
  rcases scan_characters s.toList tokens [] ('"' :: c :: rest) with ⟨units, stand, scanned⟩
  have closed : Scanner.step ⟨tokens, .string units.reverse⟩ '"' =
      some ⟨.leaf (.string (some s)) :: tokens, .between⟩ := by
    rw [Scanner.step]
    simp only [if_true, List.reverse_reverse, stringToken, joinUnits_eq stand, Option.map_some,
      String.ofList_toList]
  have text : (Json.string s).write ++ c :: rest =
      '"' :: (s.toList.flatMap escapeChar ++ '"' :: c :: rest) := by
    rw [write, writeString, List.append_assoc]
    rfl
  rw [text]
  change (s.toList.flatMap escapeChar ++ '"' :: c :: rest).foldlM Scanner.step
    ⟨tokens, .string []⟩ = _
  rw [scanned, List.append_nil, List.foldlM_cons, closed]
  rfl

/-- A written array of strings is read back as it was. -/
theorem read?_strings (items : List String) :
    read? (Json.array (items.map Json.string)).compact = some (.array (items.map Json.string)) := by
  refine read?_array (fun s => .string (some s)) items readsAs_string ?_
  intro s
  rw [Tree.document?, Option.map_some]

end Json
end DocumentQuery
