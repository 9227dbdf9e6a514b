import DocumentQuery.Proofs.Sql.ColumnLists

namespace DocumentQuery
namespace Sql

/-!
# Definitions of tables

A table is created by a list with a clause for each column.  Names are written in quotes, and the
words for keys and references are all in one part.  The name of a type is written as it is given,
unless it is a known one.  It has no quotes, but it may have commas and parentheses, and no check
looks at how they stand.

If the parentheses of each type match and all its commas are between them, the parts of the list are
the clauses.  In all other cases some column has no definition of its own.  Then the list is closed
too early, or a part begins within a type, where no quote comes first, or a parenthesis that stays
open joins two clauses.  Joined clauses cannot be made up for, because the parts that begin with a
name are never more than the clauses.
-/

/-! ## Clauses of columns -/

/-- The parentheses in the declared type of the column match, and its commas are between them. -/
def ColumnDefinition.TypeEnclosed (c : ColumnDefinition) : Prop :=
  ∃ type, declaredType c.type = .ok type ∧ type.toList.foldlM within 0 = some 0

/-- The part begins, after blanks, with the name of the column in quotes and its declared type. -/
def ColumnDefinition.IsDefinedBy (c : ColumnDefinition) (part : List Char) : Prop :=
  ∃ type, declaredType c.type = .ok type ∧
    (quoteName c.name ++ " " ++ type).toList <+: part.dropWhile (· = ' ')

/-- What is written for a column: its name in quotes, its declared type without quotes, and words
that are all in one part. -/
inductive ClauseText (c : ColumnDefinition) : List Char → Prop where
  | of {type : String} {others : List Char} (declared : declaredType c.type = .ok type)
      (noQuote : '"' ∉ type.toList) (trailing : Trailing others) :
      ClauseText c (enclosed '"' c.name ++ ' ' :: (type.toList ++ others))

theorem neutral_blank : Neutral [' '] :=
  neutral_ordinary (by decide)

theorem head?_enclosed (name : String) (rest : List Char) :
    (enclosed '"' name ++ rest).head? = some '"' := rfl

/-- A clause is a part which begins with the column. -/
theorem ClauseText.isDefinedBy {c : ColumnDefinition} {text : List Char}
    (clause : ClauseText c text) (blanks : Nat) : c.IsDefinedBy (List.replicate blanks ' ' ++ text) := by
  cases clause with
  | @of type others declared _ _ =>
      have areBlanks : ∀ a ∈ List.replicate blanks ' ', decide (a = ' ') = true :=
        fun a member => decide_eq_true (List.eq_of_mem_replicate member)
      have atQuote (rest : List Char) : (enclosed '"' c.name ++ rest).dropWhile (· = ' ') =
          enclosed '"' c.name ++ rest := rfl
      refine ⟨type, declared, others, ?_⟩
      rw [List.dropWhile_append_of_pos areBlanks, atQuote, String.toList_append,
        String.toList_append, toList_quoteName]
      simp

theorem ColumnDefinition.IsDefinedBy.named {c : ColumnDefinition} {part : List Char}
    (defined : c.IsDefinedBy part) : ¬ Unnamed part := by
  rcases defined with ⟨type, _, rest, split⟩
  rw [Unnamed, firstMark?, ← split, String.toList_append, String.toList_append, toList_quoteName,
    List.append_assoc, List.append_assoc, head?_enclosed]
  simp

/-- Behind a clause whose type is enclosed the list goes on as before. -/
theorem ClauseText.partsFrom_eq {c : ColumnDefinition} {text : List Char}
    (clause : ClauseText c text) (isEnclosed : c.TypeEnclosed) (rest : List Char) :
    partsFrom 0 false (text ++ rest) = (partsFrom 0 false rest).map (before text) := by
  cases clause with
  | @of type others declared noQuote trailing =>
      rcases isEnclosed with ⟨same, sameDeclared, stays⟩
      cases declared.symm.trans sameDeclared
      have type_eq := partsFrom_append noQuote stays (others ++ rest)
      rw [List.append_assoc, neutral_enclosed, List.cons_append, List.append_assoc,
        ← List.singleton_append, neutral_blank, type_eq, trailing.neutral, map_before_before,
        map_before_before, map_before_before]
      simp

/-- If no part begins within the type of a clause, the list goes on in the same part. -/
theorem ClauseText.within {c : ColumnDefinition} {text : List Char} (clause : ClauseText c text)
    {rest : List Char} (nonempty : rest ≠ []) (unnamed : Unnamed rest) {depth : Nat}
    {part : List Char} {parts : List (List Char)}
    (read : partsFrom depth false (text ++ rest) = some (part, parts))
    (named : ∀ other ∈ parts, ¬ Unnamed other) :
    ∃ (type : String) (after : Nat) (part' : List Char), declaredType c.type = .ok type ∧
      type.toList.foldlM Sql.within depth = some after ∧
      partsFrom after false rest = some (part', parts) := by
  cases clause with
  | @of type others declared noQuote trailing =>
      rw [List.append_assoc, neutral_enclosed, List.cons_append, List.append_assoc,
        ← List.singleton_append, neutral_blank, map_before_before] at read
      rcases exists_of_map_before read with ⟨_, readType, _⟩
      have nonemptyOthers : others ++ rest ≠ [] := by simp [nonempty]
      have unnamedOthers := trailing.unnamed.append unnamed
      rcases within_of_partsFrom noQuote nonemptyOthers unnamedOthers readType named with
        ⟨after, _, stays, readOthers⟩
      rw [trailing.neutral] at readOthers
      rcases exists_of_map_before readOthers with ⟨part', readRest, _⟩
      exact ⟨type, after, part', declared, stays, readRest⟩

/-! ## The rest of a list -/

/-- Clauses behind the first one, and the end of the list. -/
def listEnd : List (List Char) → List Char
  | [] => [')']
  | text :: rest => ',' :: ' ' :: (text ++ listEnd rest)

theorem listEnd_ne_nil (texts : List (List Char)) : listEnd texts ≠ [] := by
  cases texts <;> exact List.cons_ne_nil _ _

theorem unnamed_listEnd (texts : List (List Char)) : Unnamed (listEnd texts) := by
  cases texts <;> exact nofun

theorem partsFrom_zero_listEnd (text : List Char) (rest : List (List Char)) :
    partsFrom 0 false (listEnd (text :: rest)) =
      (partsFrom 0 false (text ++ listEnd rest)).map fun (part, others) =>
        ([], (' ' :: part) :: others) := by
  have comma : partsFrom 0 false (listEnd (text :: rest)) =
      (partsFrom 0 false ([' '] ++ (text ++ listEnd rest))).map fun (part, others) =>
        ([], part :: others) := rfl
  rw [comma, neutral_blank, Option.map_map]
  rfl

theorem partsFrom_succ_listEnd (depth : Nat) (text : List Char) (rest : List (List Char)) :
    partsFrom (depth + 1) false (listEnd (text :: rest)) =
      (partsFrom (depth + 1) false (text ++ listEnd rest)).map (before [',', ' ']) := by
  have comma : partsFrom (depth + 1) false (listEnd (text :: rest)) =
      (partsFrom (depth + 1) false ([' '] ++ (text ++ listEnd rest))).map (before [',']) := rfl
  rw [comma, neutral_blank, map_before_before]
  rfl

section

variable {columns : List ColumnDefinition} {texts : List (List Char)}
  (clauses : List.Forall₂ ClauseText columns texts)
include clauses

theorem partsFrom_listEnd (isEnclosed : ∀ c ∈ columns, c.TypeEnclosed) :
    partsFrom 0 false (listEnd texts) = some ([], texts.map fun text => ' ' :: text) := by
  induction clauses with
  | nil => rfl
  | cons clause _ inductionHypothesis =>
      rw [List.forall_mem_cons] at isEnclosed
      rw [partsFrom_zero_listEnd, clause.partsFrom_eq isEnclosed.1,
        inductionHypothesis isEnclosed.2]
      simp [before]

/-- If every part but the first begins with a quote, there are not more of them than clauses, and
as many only if nothing is open and all types are enclosed. -/
theorem length_le_of_partsFrom {depth : Nat} {part : List Char} {others : List (List Char)}
    (read : partsFrom depth false (listEnd texts) = some (part, others))
    (named : ∀ other ∈ others, ¬ Unnamed other) :
    others.length ≤ columns.length ∧
      (others.length = columns.length → depth = 0 ∧ ∀ c ∈ columns, c.TypeEnclosed) := by
  induction clauses generalizing depth part others with
  | nil =>
      cases depth with
      | zero =>
          cases read
          exact ⟨Nat.le_refl 0, fun _ => ⟨rfl, nofun⟩⟩
      | succ depth => exact nomatch read
  | @cons c text _ rest clause _ inductionHypothesis =>
      have nonempty := listEnd_ne_nil rest
      have unnamed := unnamed_listEnd rest
      cases depth with
      | zero =>
          rw [partsFrom_zero_listEnd] at read
          rcases Option.map_eq_some_iff.mp read with ⟨⟨first, later⟩, readClause, same⟩
          cases same
          have namedLater := (List.forall_mem_cons.mp named).2
          rcases clause.within nonempty unnamed readClause namedLater with
            ⟨type, after, _, declared, stays, readRest⟩
          rcases inductionHypothesis readRest namedLater with ⟨atMost, equal⟩
          refine ⟨Nat.succ_le_succ atMost, fun same => ⟨rfl, ?_⟩⟩
          rcases equal (Nat.succ.inj same) with ⟨rfl, enclosedLater⟩
          exact List.forall_mem_cons.mpr ⟨⟨type, declared, stays⟩, enclosedLater⟩
      | succ depth =>
          -- a parenthesis is open, so the clause goes on in the part before it
          rw [partsFrom_succ_listEnd] at read
          rcases exists_of_map_before read with ⟨_, readClause, _⟩
          rcases clause.within nonempty unnamed readClause named with ⟨_, after, _, _, _, readRest⟩
          have atMost := (inductionHypothesis readRest named).1
          rw [List.length_cons]
          exact ⟨Nat.le_succ_of_le atMost, fun same => absurd same (by omega)⟩

end

/-! ## What is written for a column -/

theorem declaredType_noQuote {logical type : String} (declared : declaredType logical = .ok type) :
    '"' ∉ type.toList := by
  rw [declaredType] at declared
  cases known : ColumnType.ofDeclaration logical with
  | other name =>
      rw [known] at declared
      rcases bind_ok declared with ⟨_, required, declared⟩
      cases declared
      by_cases harmless : (!type.isEmpty && type.toList.all isTypeChar) = true
      · rw [Bool.and_eq_true] at harmless
        exact fun member => absurd (List.all_eq_true.mp harmless.2 '"' member) (by decide)
      · rw [require, if_neg harmless] at required
        exact nomatch required
  | _ =>
      rw [known] at declared
      cases declared
      decide

/-- A known type has neither commas nor parentheses. -/
theorem ColumnDefinition.typeEnclosed_of_known {c : ColumnDefinition}
    (known : ∀ name, ColumnType.ofDeclaration c.type ≠ .other name) : c.TypeEnclosed := by
  refine ⟨(ColumnType.ofDeclaration c.type).declaration, ?_, ?_⟩
  · rw [declaredType]
    cases type : ColumnType.ofDeclaration c.type with
    | other name => exact absurd type (known name)
    | _ => rfl
  · cases type : ColumnType.ofDeclaration c.type with
    | other name => exact absurd type (known name)
    | _ => decide

/-- The automatic sequence is an integer. -/
theorem declaredType_sequence {type : String} (sequence : isSequence type = true) :
    declaredType type = .ok "integer" := by
  have small : (Text.trim type.toList).map Text.smallLatin = "sequence".toList :=
    beq_iff_eq.mp sequence
  have asciiLetters : "sequence".toList.all (fun c => c.toNat < 0x80) = true := by decide
  have ascii : ∀ c ∈ (String.ofList (Text.trim type.toList)).toList, c.toNat < 0x80 := by
    intro c member
    rw [String.toList_ofList] at member
    have image := List.mem_map_of_mem (f := Text.smallLatin) member
    rw [small] at image
    have bound := of_decide_eq_true (List.all_eq_true.mp asciiLetters _ image)
    rw [Text.toNat_smallLatin] at bound
    split at bound <;> omega
  have lower : Text.lowercase (String.ofList (Text.trim type.toList)) = "sequence" := by
    apply String.toList_injective
    rw [Text.toList_lowercase ascii, String.toList_ofList, small]
  have isInteger : ColumnType.ofDeclaration type = .integer := by
    rw [ColumnType.ofDeclaration, lower]
    simp
  rw [declaredType, isInteger]
  rfl

theorem trailing_wordsIf (condition : Bool) {words : String}
    (ordinary : words.toList.all isOrdinary = true) :
    Trailing ((wordsIf condition words).flatMap Piece.text) := by
  cases condition with
  | false => exact trailing_nil
  | true =>
      rw [wordsIf, if_pos rfl, List.flatMap_singleton]
      exact trailing_ordinary ordinary

theorem trailing_reference (table column : String) : Trailing (List.flatMap Piece.text
    [.word " REFERENCES ", .name table, .word "(", .name column,
      .word ") ON DELETE CASCADE ON UPDATE CASCADE"]) := by
  have text_eq : List.flatMap Piece.text [.word " REFERENCES ", .name table, .word "(",
        .name column, .word ") ON DELETE CASCADE ON UPDATE CASCADE"] =
      " REFERENCES ".toList ++ (enclosed '"' table ++
        (('(' :: enclosed '"' column ++ [')']) ++
          " ON DELETE CASCADE ON UPDATE CASCADE".toList)) := by
    simp [Piece.text]
  rw [text_eq]
  constructor
  · have keyword : Neutral " REFERENCES ".toList := neutral_ordinary (by decide)
    have action : Neutral " ON DELETE CASCADE ON UPDATE CASCADE".toList :=
      neutral_ordinary (by decide)
    exact keyword.append ((neutral_enclosed table).append
      ((neutral_enclosed column).group.append action))
  · have first : firstMark? " REFERENCES ".toList = some 'R' := by decide
    rw [Unnamed, firstMark?_append, first, Option.some_or]
    decide

theorem trailing_referencesClause {schema reference : String} {clause : List Piece}
    (accepted : referencesClause schema reference = .ok clause) :
    Trailing (clause.flatMap Piece.text) := by
  have checked {schema table column : String} (accepted : (do
      checkIdentifier "Schema" schema
      checkIdentifier "Table" table
      checkIdentifier "Column" column
      pure [Piece.word " REFERENCES ", .name (Name.qualified schema table), .word "(", .name column,
        .word ") ON DELETE CASCADE ON UPDATE CASCADE"]) = Except.ok clause) :
      Trailing (clause.flatMap Piece.text) := by
    rcases bind_ok accepted with ⟨_, _, accepted⟩
    rcases bind_ok accepted with ⟨_, _, accepted⟩
    rcases bind_ok accepted with ⟨_, _, accepted⟩
    cases accepted
    exact trailing_reference (Name.qualified schema table) column
  unfold referencesClause at accepted
  generalize (Text.splitAll '.' reference.toList).map String.ofList = parts at accepted
  rcases parts with _ | ⟨first, _ | ⟨second, _ | ⟨third, _ | ⟨fourth, rest⟩⟩⟩⟩
  · cases accepted
  · cases accepted
  · exact checked accepted
  · exact checked accepted
  · cases accepted

/-- The column has no default and no check. -/
def ColumnDefinition.NoExpressions (c : ColumnDefinition) : Prop :=
  c.default?.getD "" = "" ∧ c.check?.getD "" = ""

theorem expressionClause_eq_nil {expression? : Option String} (absent : expression?.getD "" = "")
    (keyword : String) : expressionClause keyword expression? = [] := by
  cases expression? with
  | none => rfl
  | some expression =>
      cases absent
      rfl

theorem clauseText_of_pieces {c : ColumnDefinition} (plain : c.NoExpressions)
    {typed references : List Piece} {type : String} {others : List Char}
    (declared : declaredType c.type = .ok type)
    (typed_eq : typed.flatMap Piece.text = ' ' :: (type.toList ++ others))
    (trailing : Trailing others) (trailingReferences : Trailing (references.flatMap Piece.text)) :
    ClauseText c ((.name c.name :: typed ++ wordsIf (c.unique && !c.primaryKey) " UNIQUE" ++
      wordsIf c.required " NOT NULL" ++ expressionClause "DEFAULT" c.default? ++
      expressionClause "CHECK" c.check? ++ references).flatMap Piece.text) := by
  have unique : Trailing ((wordsIf (c.unique && !c.primaryKey) " UNIQUE").flatMap Piece.text) :=
    trailing_wordsIf _ (by decide)
  have required : Trailing ((wordsIf c.required " NOT NULL").flatMap Piece.text) :=
    trailing_wordsIf _ (by decide)
  have all := trailing.append (unique.append (required.append trailingReferences))
  have clause := ClauseText.of declared (declaredType_noQuote declared) all
  rw [expressionClause_eq_nil plain.1, expressionClause_eq_nil plain.2]
  simp only [List.append_nil, List.flatMap_append, List.flatMap_cons, typed_eq, List.append_assoc,
    List.cons_append]
  exact clause

/-- A clause ends with the words for a reference, if the column has one. -/
theorem exists_references {schema : String} {c : ColumnDefinition} {next : List Piece → List Piece}
    {clause : List Piece}
    (accepted : (match c.references? with
      | some reference => referencesClause schema reference >>= fun pieces => pure (next pieces)
      | none => pure [] >>= fun pieces => pure (next pieces)) = Except.ok clause) :
    ∃ pieces, Trailing (pieces.flatMap Piece.text) ∧ clause = next pieces := by
  split at accepted
  · rcases bind_ok accepted with ⟨pieces, referred, accepted⟩
    exact ⟨pieces, trailing_referencesClause referred, (Except.ok.inj accepted).symm⟩
  · exact ⟨[], trailing_nil, (Except.ok.inj accepted).symm⟩

theorem clauseText_of_columnClause {schema : String} {c : ColumnDefinition} {clause : List Piece}
    (accepted : columnClause schema c = .ok clause) (plain : c.NoExpressions) :
    ClauseText c (clause.flatMap Piece.text) := by
  unfold columnClause at accepted
  rcases bind_ok accepted with ⟨_, _, accepted⟩
  dsimp only at accepted
  by_cases sequence : isSequence c.type = true
  · rw [if_pos sequence] at accepted
    rcases exists_references accepted with ⟨references, trailingReferences, rfl⟩
    have typed_eq : [Piece.word " integer PRIMARY KEY AUTOINCREMENT"].flatMap Piece.text =
        ' ' :: ("integer".toList ++ " PRIMARY KEY AUTOINCREMENT".toList) := by decide
    exact clauseText_of_pieces plain (declaredType_sequence sequence) typed_eq
      (trailing_ordinary (by decide)) trailingReferences
  · rw [if_neg sequence] at accepted
    rcases bind_ok accepted with ⟨type, declared, accepted⟩
    rcases exists_references accepted with ⟨references, trailingReferences, rfl⟩
    have typed_eq : (Piece.word (" " ++ type) :: wordsIf c.primaryKey " PRIMARY KEY").flatMap
        Piece.text = ' ' :: (type.toList ++
          (wordsIf c.primaryKey " PRIMARY KEY").flatMap Piece.text) := by
      rw [List.flatMap_cons, Piece.text, String.toList_append]
      rfl
    exact clauseText_of_pieces plain declared typed_eq (trailing_wordsIf _ (by decide))
      trailingReferences

/-! ## What is written for a table -/

/-- What stands before the list of columns. -/
def tableHead (schema table : String) (temporary ifNotExists : Bool) : String :=
  "CREATE " ++ (if temporary then "TEMPORARY " else "") ++ "TABLE " ++
    (if ifNotExists then "IF NOT EXISTS " else "") ++ quoteName (Name.qualified schema table)

theorem text_separated (first : List Piece) (rest : List (List Piece)) :
    (separated ", " (first :: rest) ++ [Piece.word ")"]).flatMap Piece.text =
      first.flatMap Piece.text ++ listEnd (rest.map fun clause => clause.flatMap Piece.text) := by
  induction rest generalizing first with
  | nil =>
      rw [separated, List.flatMap_append]
      rfl
  | cons next others inductionHypothesis =>
      rw [separated, List.append_assoc, List.flatMap_append, List.cons_append, List.flatMap_cons,
        inductionHypothesis next]
      rfl

theorem piecesText_wordsIf (condition : Bool) (words : String) (rest : List Piece) :
    piecesText (wordsIf condition words ++ rest) =
      (if condition then words else "") ++ piecesText rest := by
  cases condition with
  | false => exact String.empty_append.symm
  | true => exact piecesText_word words rest

/-- A table is created by a list of the clauses of its columns. -/
theorem exists_clauses {schema table : String} {columns : List ColumnDefinition}
    {temporary ifNotExists : Bool} {pieces : List Piece}
    (accepted : createTable schema table columns temporary ifNotExists = .ok pieces)
    (plain : ∀ c ∈ columns, c.NoExpressions) :
    ∃ (text : List Char) (texts : List (List Char)),
      List.Forall₂ ClauseText columns (text :: texts) ∧
      piecesText pieces = tableHead schema table temporary ifNotExists ++
        String.ofList ('(' :: (text ++ listEnd texts)) := by
  rcases bind_ok accepted with ⟨_, _, accepted⟩
  rcases bind_ok accepted with ⟨_, _, accepted⟩
  rcases bind_ok accepted with ⟨_, nonempty, accepted⟩
  rcases bind_ok accepted with ⟨clauses, clausesAccepted, accepted⟩
  cases accepted
  have each := (List.forall₂_and_left _ _).mpr ⟨plain, forall₂_of_mapM_ok clausesAccepted⟩
  have written : List.Forall₂ ClauseText columns
      (clauses.map fun clause => clause.flatMap Piece.text) :=
    List.forall₂_map_right_iff.mpr
      (each.imp fun _ _ given => clauseText_of_columnClause given.2 given.1)
  cases clauses with
  | nil =>
      cases each
      exact nomatch nonempty
  | cons first rest =>
      have list_eq : piecesText (.word "(" :: (separated ", " (first :: rest) ++ [.word ")"])) =
          String.ofList ('(' :: (first.flatMap Piece.text ++
            listEnd (rest.map fun clause => clause.flatMap Piece.text))) := by
        rw [piecesText, List.flatMap_cons, text_separated]
        rfl
      refine ⟨_, _, written, ?_⟩
      rw [← list_eq, tableHead]
      simp only [List.cons_append, List.append_assoc, piecesText_word, piecesText_wordsIf,
        piecesText_name, String.append_assoc]

/-- What creates a table without defaults and checks ends with one list in parentheses, in which
each column has a definition of its own, exactly if the declared types are enclosed. -/
theorem createTable_defines_iff {schema table : String} {columns : List ColumnDefinition}
    {temporary ifNotExists : Bool} {pieces : List Piece}
    (accepted : createTable schema table columns temporary ifNotExists = .ok pieces)
    (plain : ∀ c ∈ columns, c.NoExpressions) :
    ∃ list, piecesText pieces = tableHead schema table temporary ifNotExists ++ list ∧
      ((∃ parts, partsOfList? list = some parts ∧
          List.Forall₂ ColumnDefinition.IsDefinedBy columns parts) ↔
        ∀ c ∈ columns, c.TypeEnclosed) := by
  rcases exists_clauses accepted plain with ⟨text, texts, clauses, text_eq⟩
  refine ⟨_, text_eq, ?_⟩
  rw [partsOfList?_ofList]
  cases clauses with
  | @cons c _ columns _ clause clauses =>
      constructor
      · rintro ⟨parts, read, defined⟩
        rcases Option.map_eq_some_iff.mp read with ⟨⟨first, others⟩, readAll, same⟩
        cases same
        cases defined with
        | cons _ defined =>
            have named : ∀ other ∈ others, ¬ Unnamed other := by
              intro other member
              rcases exists_left_of_forall₂ defined member with ⟨d, _, isDefined⟩
              exact isDefined.named
            rcases clause.within (listEnd_ne_nil texts) (unnamed_listEnd texts) readAll named with
              ⟨type, after, _, declared, stays, readRest⟩
            rcases (length_le_of_partsFrom clauses readRest named).2 defined.length_eq.symm with
              ⟨rfl, isEnclosed⟩
            exact List.forall_mem_cons.mpr ⟨⟨type, declared, stays⟩, isEnclosed⟩
      · intro isEnclosed
        rw [List.forall_mem_cons] at isEnclosed
        rw [clause.partsFrom_eq isEnclosed.1, partsFrom_listEnd clauses isEnclosed.2]
        refine ⟨_, rfl, .cons ?_ ?_⟩
        · rw [List.append_nil]
          exact clause.isDefinedBy 0
        · exact List.forall₂_map_right_iff.mpr (clauses.imp fun _ _ clause => clause.isDefinedBy 1)

/-- A comma in the type of the only column defines a second one. -/
theorem createTable_second_column :
    let columns : List ColumnDefinition := [{ name := "a", type := "int, admin int" }]
    ∃ pieces list, createTable "default" "t" columns false false = .ok pieces ∧
      (∀ c ∈ columns, c.NoExpressions) ∧
      piecesText pieces = tableHead "default" "t" false false ++ list ∧
      partsOfList? list = some ["\"a\" int".toList, " admin int".toList] ∧
      ¬ ∃ parts, partsOfList? list = some parts ∧
        List.Forall₂ ColumnDefinition.IsDefinedBy columns parts := by
  intro columns
  have accepted : ∃ pieces, createTable "default" "t" columns false false = .ok pieces ∧
      piecesText pieces = tableHead "default" "t" false false ++ "(\"a\" int, admin int)" :=
    ⟨_, rfl, rfl⟩
  have plain : ∀ c ∈ columns, c.NoExpressions := by simp [columns, ColumnDefinition.NoExpressions]
  have notEnclosed : ¬ ∀ c ∈ columns, c.TypeEnclosed := by
    intro each
    rcases each _ List.mem_cons_self with ⟨type, declared, stays⟩
    have same : declaredType "int, admin int" = .ok "int, admin int" := rfl
    cases same.symm.trans declared
    exact absurd stays (by decide)
  rcases accepted with ⟨pieces, accepted, text_eq⟩
  rcases createTable_defines_iff accepted plain with ⟨list, split, defined⟩
  have list_eq : list = "(\"a\" int, admin int)" :=
    (String.append_right_inj _).mp (split.symm.trans text_eq)
  refine ⟨pieces, list, accepted, plain, split, ?_, mt defined.mp notEnclosed⟩
  rw [list_eq]
  decide

end Sql
end DocumentQuery
