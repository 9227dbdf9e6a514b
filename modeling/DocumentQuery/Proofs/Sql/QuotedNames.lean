import DocumentQuery.Proofs.Sql.Scanning
import DocumentQuery.Proofs.Sql.Statements

namespace DocumentQuery

open Sql

/-!
# Names that are read back

A reader of SQL takes a quote for the beginning of a name and an apostrophe for the beginning of a
literal.  Both go on to the next such character that is not followed by another one, and two of them
in a row stand for one.  Here that reader is defined on characters, without regard to how a text was
built.

A name in quotes is read back whatever it holds, as long as no quote follows it.  In the list of
columns of a statement a name is followed by a word of the language, so each name of the list is
read back, and so is every word between them.
-/

namespace Sql

/-! ## The reader -/

/-- What is before the quote that ends a quoted part, and what is behind it. -/
def readQuoted (quote : Char) : List Char → Option (List Char × List Char)
  | [] => none
  | c :: rest =>
    if c = quote then
      match rest with
      | [] => some ([], [])
      | next :: others =>
        if next = quote then (readQuoted quote others).map (Prod.map (quote :: ·) id)
        else some ([], next :: others)
    else (readQuoted quote rest).map (Prod.map (c :: ·) id)

/-- The name at the beginning of a text, and what is behind it. -/
def readName? : List Char → Option (String × List Char)
  | '"' :: rest => (readQuoted '"' rest).map (Prod.map String.ofList id)
  | _ => none

section

variable {quote c : Char} {rest : List Char}

theorem readQuoted_end (ends : rest.head? ≠ some quote) :
    readQuoted quote (quote :: rest) = some ([], rest) := by
  cases rest with
  | nil => simp [readQuoted]
  | cons next others =>
      have other : next ≠ quote := fun same => ends (congrArg some same)
      simp [readQuoted, other]

theorem readQuoted_twice (quote : Char) (rest : List Char) :
    readQuoted quote (quote :: quote :: rest) =
      (readQuoted quote rest).map (Prod.map (quote :: ·) id) := by
  simp [readQuoted]

theorem readQuoted_other (other : c ≠ quote) (rest : List Char) :
    readQuoted quote (c :: rest) = (readQuoted quote rest).map (Prod.map (c :: ·) id) := by
  cases rest <;> simp [readQuoted, other]

theorem length_readQuoted {input text behind : List Char}
    (read : readQuoted quote input = some (text, behind)) : behind.length < input.length := by
  fun_induction readQuoted quote input generalizing text with
  | case1 => exact nomatch read
  | case2 =>
      cases read
      exact Nat.zero_lt_one
  | case3 others inductionHypothesis =>
      rcases Option.map_eq_some_iff.mp read with ⟨⟨later, _⟩, readLater, same⟩
      cases same
      exact Nat.lt_add_right 2 (inductionHypothesis readLater)
  | case4 next others other =>
      cases read
      exact Nat.lt_succ_self _
  | case5 c rest other inductionHypothesis =>
      rcases Option.map_eq_some_iff.mp read with ⟨⟨later, _⟩, readLater, same⟩
      cases same
      exact Nat.lt_succ_of_lt (inductionHypothesis readLater)

end

/-- What a reader finds in a text: quoted parts, and characters outside of them. -/
inductive Lexeme where
  | char (c : Char)
  | quoted (quote : Char) (text : String)
deriving Repr, DecidableEq

def Lexeme.name (text : String) : Lexeme :=
  .quoted '"' text

def Lexeme.chars (text : String) : List Lexeme :=
  text.toList.map .char

/-- Parts with commas between them. -/
def Lexeme.listed (parts : List (List Lexeme)) : List Lexeme :=
  (chars ", ").intercalate parts

/-- The lexemes of a text, unless a quoted part of it does not end. -/
def lexemes? : List Char → Option (List Lexeme)
  | [] => some []
  | c :: rest =>
    if c = '"' ∨ c = '\'' then
      match _ : readQuoted c rest with
      | none => none
      | some (text, behind) => (lexemes? behind).map (.quoted c (String.ofList text) :: ·)
    else (lexemes? rest).map (.char c :: ·)
termination_by input => input.length
decreasing_by
  · exact Nat.lt_succ_of_lt (length_readQuoted ‹_›)
  · exact Nat.lt_succ_self rest.length

/-! ## Reading one name -/

/-- A quote in a text is written twice, so none of them ends the text. -/
theorem readQuoted_doubled {quote : Char} {rest : List Char} (ends : rest.head? ≠ some quote)
    (text : List Char) :
    readQuoted quote (doubled quote text ++ quote :: rest) = some (text, rest) := by
  induction text with
  | nil => exact readQuoted_end ends
  | cons c text inductionHypothesis =>
      rw [doubled]
      split
      · rename_i same
        rw [same, List.cons_append, List.cons_append, readQuoted_twice, inductionHypothesis]
        rfl
      · rename_i other
        rw [List.cons_append, readQuoted_other other, inductionHypothesis]
        rfl

theorem readQuoted_enclosed {quote : Char} {rest : List Char} (ends : rest.head? ≠ some quote)
    (name : String) : ∃ text, enclosed quote name ++ rest = quote :: text ∧
      readQuoted quote text = some (name.toList, rest) := by
  refine ⟨doubled quote name.toList ++ quote :: rest, ?_, readQuoted_doubled ends name.toList⟩
  simp [enclosed]

theorem readName?_quoteName {rest : List Char} (ends : rest.head? ≠ some '"') (name : String) :
    readName? ((quoteName name).toList ++ rest) = some (name, rest) := by
  rcases readQuoted_enclosed ends name with ⟨text, split, read⟩
  rw [toList_quoteName, split, readName?, read, Option.map_some, Prod.map_apply,
    String.ofList_toList]
  rfl

theorem quoteName_injective : Function.Injective quoteName := by
  intro name other same
  have ends : ([] : List Char).head? ≠ some '"' := by simp
  have read := readName?_quoteName ends name
  rw [same, readName?_quoteName ends other] at read
  exact (Prod.mk.inj (Option.some.inj read)).1.symm

/-! ## Reading pieces -/

/-- What a piece is read as. -/
def Piece.lexemes : Piece → List Lexeme
  | .word text => Lexeme.chars text
  | .name text => [.name text]
  | .literal text => [.quoted '\'' text]
  | .param number => .char '?' :: (Decimal.natural number).map .char

/-- The character begins no quoted part. -/
def isUnquoted (c : Char) : Bool :=
  c != '"' && c != '\''

theorem lexemes?_chars {text : List Char} (unquoted : text.all isUnquoted = true)
    (rest : List Char) :
    lexemes? (text ++ rest) = (lexemes? rest).map (text.map Lexeme.char ++ ·) := by
  induction text with
  | nil => simp
  | cons c text inductionHypothesis =>
      rw [List.all_cons, Bool.and_eq_true] at unquoted
      have first : ¬ (c = '"' ∨ c = '\'') := by
        simpa [isUnquoted] using unquoted.1
      rw [List.cons_append, lexemes?, if_neg first, inductionHypothesis unquoted.2, Option.map_map]
      rfl

theorem lexemes?_quoted {quote : Char} {rest text behind : List Char}
    (opens : quote = '"' ∨ quote = '\'') (read : readQuoted quote rest = some (text, behind)) :
    lexemes? (quote :: rest) =
      (lexemes? behind).map (.quoted quote (String.ofList text) :: ·) := by
  rw [lexemes?, if_pos opens]
  split
  · rename_i failed
    exact absurd (read.symm.trans failed) (Option.some_ne_none _)
  · rename_i found others readToo
    cases read.symm.trans readToo
    rfl

/-- The pieces are read in front of everything that does not begin with a quote. -/
def Legible (pieces : List Piece) : Prop :=
  ∀ rest : List Char, rest.head? ≠ some '"' →
    lexemes? (pieces.flatMap Piece.text ++ rest) =
      (lexemes? rest).map (pieces.flatMap Piece.lexemes ++ ·)

namespace Legible

theorem nil : Legible [] := by
  intro rest _
  simp

theorem name (text : String) : Legible [.name text] := by
  intro rest ends
  rcases readQuoted_enclosed ends text with ⟨others, split, read⟩
  have text_eq : [Piece.name text].flatMap Piece.text = enclosed '"' text := by
    simp [Piece.text]
  rw [text_eq, split, lexemes?_quoted (.inl rfl) read, String.ofList_toList]
  rfl

theorem param (number : Nat) : Legible [.param number] := by
  intro rest _
  have digits : (Decimal.natural number).all isUnquoted = true := by
    rw [List.all_eq_true]
    intro c member
    have isDigit := Nat.isDigit_of_mem_toDigits (by decide) (by decide) member
    rw [isUnquoted, Bool.and_eq_true, bne_iff_ne, bne_iff_ne]
    constructor
    · rintro rfl
      exact nomatch isDigit
    · rintro rfl
      exact nomatch isDigit
  have unquoted : ('?' :: Decimal.natural number).all isUnquoted = true := by
    rw [List.all_cons, digits]
    rfl
  have text_eq : [Piece.param number].flatMap Piece.text = '?' :: Decimal.natural number := by
    simp [Piece.text]
  rw [text_eq, lexemes?_chars unquoted rest]
  simp [Piece.lexemes]

variable {first rest pieces : List Piece}

theorem word_cons (legible : Legible rest) (text : String)
    (unquoted : text.toList.all isUnquoted = true) : Legible (.word text :: rest) := by
  intro behind ends
  have first := lexemes?_chars unquoted (rest.flatMap Piece.text ++ behind)
  rw [List.flatMap_cons, Piece.text, List.append_assoc, first, legible behind ends, Option.map_map,
    List.flatMap_cons, Piece.lexemes, Lexeme.chars]
  simp [Function.comp_def]

/-- A word that begins without a quote ends what is in front of it. -/
theorem append_word (legibleFirst : Legible first) (text : String) (begins : text.toList ≠ [])
    (unquoted : text.toList.all isUnquoted = true) (legible : Legible rest) :
    Legible (first ++ .word text :: rest) := by
  intro behind ends
  have apart : ((.word text :: rest : List Piece).flatMap Piece.text ++ behind).head? ≠
      some '"' := by
    rcases List.exists_cons_of_ne_nil begins with ⟨c, others, split⟩
    rw [split, List.all_cons, Bool.and_eq_true] at unquoted
    have notQuote : c ≠ '"' := by
      rintro rfl
      exact nomatch unquoted.1
    simpa [Piece.text, split] using notQuote
  have later := legible.word_cons text unquoted behind ends
  rw [List.flatMap_append, List.append_assoc, legibleFirst _ apart, later, Option.map_map,
    List.flatMap_append]
  simp [Function.comp_def]

theorem separated (separator : String) (begins : separator.toList ≠ [])
    (unquoted : separator.toList.all isUnquoted = true) {parts : List (List Piece)}
    (each : ∀ part ∈ parts, Legible part) : Legible (Sql.separated separator parts) := by
  induction parts with
  | nil => exact nil
  | cons part others inductionHypothesis =>
      have legible := each part List.mem_cons_self
      have later := inductionHypothesis fun other member =>
        each other (List.mem_cons_of_mem part member)
      cases others with
      | nil => exact legible
      | cons next others => exact legible.append_word separator begins unquoted later

/-- Pieces after which the text ends are read as what they are. -/
theorem lexemes?_eq (legible : Legible pieces) :
    lexemes? (piecesText pieces).toList = some (pieces.flatMap Piece.lexemes) := by
  have read := legible [] (by simp)
  rw [List.append_nil, lexemes?, Option.map_some, List.append_nil] at read
  rw [piecesText, String.toList_ofList, read]

end Legible

/-! ## Reading lists -/

theorem lexemes_separated (parts : List (List Piece)) :
    (separated ", " parts).flatMap Piece.lexemes =
      Lexeme.listed (parts.map fun part => part.flatMap Piece.lexemes) := by
  rw [Lexeme.listed]
  fun_induction separated ", " parts with
  | case1 => rfl
  | case2 part => simp
  | case3 part next rest inductionHypothesis =>
      rw [List.flatMap_append, List.flatMap_cons, inductionHypothesis, List.map_cons,
        List.map_cons, List.map_cons, List.intercalate_cons_cons, List.append_assoc]
      rfl

/-- What is read of a column of a joined result. -/
def columnLexemes (table column name : String) : List Lexeme :=
  .name table :: .char '.' :: .name column :: Lexeme.chars " AS " ++ [.name name]

theorem legible_columnAs (table column name : String) :
    Legible (columnAs [table, column] name) := by
  have path : Legible (pathPieces [table, column]) :=
    (Legible.name table).append_word "." (by decide) (by decide) (.name column)
  exact path.append_word " AS " (by decide) (by decide) (.name name)

theorem lexemes_columnAs (table column name : String) :
    (columnAs [table, column] name).flatMap Piece.lexemes = columnLexemes table column name := by
  simp [columnAs, pathPieces, Piece.lexemes, columnLexemes, Lexeme.chars]

/-- What is read of the columns of a joined result. -/
def joinedLexemes (source target : Table) : List Lexeme :=
  Lexeme.listed
    ((source.columnNames.map fun name => columnLexemes source.storeName name name) ++
      target.columnNames.map fun name =>
        columnLexemes target.storeName name (targetAlias target name))

theorem legible_joinedColumns (source target : Table) :
    Legible (separated ", " (joinedColumns source target)) := by
  apply Legible.separated ", " (by decide) (by decide)
  intro part member
  rcases List.mem_append.mp member with ofSource | ofTarget
  · rcases List.mem_map.mp ofSource with ⟨name, _, rfl⟩
    exact legible_columnAs _ _ _
  · rcases List.mem_map.mp ofTarget with ⟨name, _, rfl⟩
    exact legible_columnAs _ _ _

theorem lexemes_joinedColumns (source target : Table) :
    (separated ", " (joinedColumns source target)).flatMap Piece.lexemes =
      joinedLexemes source target := by
  rw [lexemes_separated, joinedColumns, List.map_append, List.map_map, List.map_map]
  simp only [Function.comp_def, lexemes_columnAs]
  rfl

/-- What is read of a statement that inserts a row with these columns. -/
def insertLexemes (table : String) (columns : List String) : List Lexeme :=
  if columns.isEmpty then
    Lexeme.chars "INSERT INTO " ++ .name table :: Lexeme.chars " DEFAULT VALUES"
  else
    Lexeme.chars "INSERT INTO " ++ .name table :: Lexeme.chars "(" ++
      Lexeme.listed (columns.map fun column => [.name column]) ++ Lexeme.chars ") VALUES(" ++
      Lexeme.listed ((List.range' 1 columns.length).map fun number =>
        .char '?' :: (Decimal.natural number).map .char) ++ Lexeme.chars ")"

theorem legible_inserted (table : Table) (row : Row) : Legible (row.inserted table) := by
  have table_name := Legible.name table.storeName
  rw [Row.inserted]
  split
  · have named := table_name.append_word " DEFAULT VALUES" (by decide) (by decide) .nil
    exact named.word_cons "INSERT INTO " (by decide)
  · have names : Legible (separated ", " (row.keys.map fun name => [.name name])) := by
      apply Legible.separated ", " (by decide) (by decide)
      intro part member
      rcases List.mem_map.mp member with ⟨name, _, rfl⟩
      exact .name name
    have params : Legible (paramPieces (List.range' 1 row.keys.length)) := by
      apply Legible.separated ", " (by decide) (by decide)
      intro part member
      rcases List.mem_map.mp member with ⟨number, _, rfl⟩
      exact .param number
    have closed := params.append_word ")" (by decide) (by decide) .nil
    have listed := names.append_word ") VALUES(" (by decide) (by decide) closed
    have named := table_name.append_word "(" (by decide) (by decide) listed
    rw [List.append_assoc]
    exact named.word_cons "INSERT INTO " (by decide)

theorem lexemes_inserted (table : Table) (row : Row) :
    (row.inserted table).flatMap Piece.lexemes = insertLexemes table.storeName row.keys := by
  have isEmpty_eq : row.keys.isEmpty = row.isEmpty := by
    rcases row with ⟨_ | ⟨entry, entries⟩⟩ <;> rfl
  rw [Row.inserted, insertLexemes, isEmpty_eq]
  split
  · simp [Piece.lexemes]
  · simp [Piece.lexemes, paramPieces, lexemes_separated, Function.comp_def]

/-- Quoting cannot be escaped.  A name in quotes is read back whatever it holds, with what is behind
it, unless that begins with a quote; so two names are never written as one.  The statement that
inserts a row is read as the name of its table and the names of its columns with words between
them, and a list of joined columns is read, in front of anything that does not begin with a quote,
as the names of the tables and columns and those under which the columns are selected. -/
theorem quoted_names_read :
    (∀ (name : String) (rest : List Char), rest.head? ≠ some '"' →
      readName? ((quoteName name).toList ++ rest) = some (name, rest)) ∧
    Function.Injective quoteName ∧
    (∀ (table : Table) (row : Row) (statement : Statement),
      Sql.insert table row = .ok statement →
        lexemes? statement.text.toList = some (insertLexemes table.storeName row.keys)) ∧
    ∀ (source target : Table) (rest : List Char), rest.head? ≠ some '"' →
      lexemes? ((piecesText (separated ", " (joinedColumns source target))).toList ++ rest) =
        (lexemes? rest).map (joinedLexemes source target ++ ·) := by
  refine ⟨?_, quoteName_injective, ?_, ?_⟩
  · intro name rest ends
    exact readName?_quoteName ends name
  · intro table row statement accepted
    have pieces_eq := ((insert_iff table row statement).mp accepted).2
    rw [Statement.text, pieces_eq, (legible_inserted table row).lexemes?_eq, lexemes_inserted]
  · intro source target rest ends
    rw [piecesText, String.toList_ofList, legible_joinedColumns source target rest ends,
      lexemes_joinedColumns]

/-- Quotes at the ends of names, next to the quotes around them. -/
theorem quoted_names_read_quotes :
    let table := Table.named "\"s" "t\""
      [{ name := "\"", type := .integer }, { name := "a\"\"", type := .integer }]
    let row : Row := ⟨[("a\"\"", .integer 1), ("\"", .integer 2)]⟩
    readName? ((quoteName "a\"\"").toList ++ ['.']) = some ("a\"\"", ['.']) ∧
      (∃ statement, Sql.insert table row = .ok statement ∧
        lexemes? statement.text.toList = some (insertLexemes "\"s.t\"" ["a\"\"", "\""])) ∧
      lexemes? ((piecesText (separated ", " (joinedColumns table table))).toList ++ [')']) =
        (lexemes? [')']).map (joinedLexemes table table ++ ·) := by
  intro table row
  rcases quoted_names_read with ⟨each, _, inserted, joined⟩
  have accepted : Sql.insert table row = .ok ⟨row.inserted table, [.integer 1, .integer 2]⟩ := rfl
  have storeName_eq : table.storeName = "\"s.t\"" := by decide
  have read := inserted table row _ accepted
  rw [storeName_eq] at read
  exact ⟨each _ _ (by decide), ⟨_, accepted, read⟩, joined table table _ (by decide)⟩

end Sql
end DocumentQuery
