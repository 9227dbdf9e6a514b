import DocumentQuery.Proofs.Sql.QuotedNames
import DocumentQuery.Proofs.Sql.TableDefinitions

namespace DocumentQuery
namespace Sql

/-!
# Names of what is created

A store learns from a statement under which name it is to keep a table or an index.  That is the
first name in the statement: the words before it have no quotes, and a word behind it ends it.

So the name is read off the text, and it is the qualified name of what was to be created.  The
expressions of the caller come later, and whatever they hold they cannot change it.
-/

/-- The first name in quotes in a text. -/
def firstName? (text : String) : Option String :=
  (readName? (text.toList.dropWhile (· != '"'))).map Prod.fst

/-- Words without a quote are passed over. -/
theorem firstName?_word {word : String} (noQuote : word.toList.all (· != '"') = true)
    (rest : List Piece) :
    firstName? (piecesText (.word word :: rest)) = firstName? (piecesText rest) := by
  have passed := List.all_eq_true.mp noQuote
  rw [firstName?, firstName?, piecesText_word, String.toList_append,
    List.dropWhile_append_of_pos passed]

theorem firstName?_wordsIf (condition : Bool) {words : String}
    (noQuote : words.toList.all (· != '"') = true) (rest : List Piece) :
    firstName? (piecesText (wordsIf condition words ++ rest)) = firstName? (piecesText rest) := by
  cases condition with
  | false => rfl
  | true => exact firstName?_word noQuote rest

/-- A name is read up to a word that does not begin with a quote. -/
theorem firstName?_name (name : String) {word : String} {c : Char} {others : List Char}
    (begins : word.toList = c :: others) (noQuote : c ≠ '"') (rest : List Piece) :
    firstName? (piecesText (.name name :: .word word :: rest)) = some name := by
  have ends : (piecesText (.word word :: rest)).toList.head? ≠ some '"' := by
    rw [piecesText_word, String.toList_append, begins]
    exact fun same => noQuote (Option.some.inj same)
  have atQuote : ((quoteName name).toList ++ (piecesText (.word word :: rest)).toList).dropWhile
      (· != '"') = (quoteName name).toList ++ (piecesText (.word word :: rest)).toList := by
    rw [toList_quoteName]
    rfl
  rw [firstName?, piecesText_name, String.toList_append, atQuote, readName?_quoteName ends]
  rfl

/-! ## Statements that create -/

/-- A statement that creates something names it behind words for its kind. -/
theorem firstName?_create (special ifNotExists : Bool) {adjective noun word : String} {c : Char}
    {others : List Char} (noQuoteAdjective : adjective.toList.all (· != '"') = true)
    (noQuoteNoun : noun.toList.all (· != '"') = true) (begins : word.toList = c :: others)
    (noQuote : c ≠ '"') (name : String) (rest : List Piece) :
    firstName? (piecesText (.word "CREATE " :: (wordsIf special adjective ++ .word noun ::
      (wordsIf ifNotExists "IF NOT EXISTS " ++ .name name :: .word word :: rest)))) =
      some name := by
  rw [firstName?_word (by decide), firstName?_wordsIf special noQuoteAdjective,
    firstName?_word noQuoteNoun, firstName?_wordsIf ifNotExists (by decide)]
  exact firstName?_name name begins noQuote rest

theorem isIdentifier_of_checked {kind name : String}
    (checked : checkIdentifier kind name = .ok ()) : Name.isIdentifier name = true := by
  rw [checkIdentifier, require] at checked
  split at checked
  · assumption
  · cases checked

theorem createTable_names {schema table : String} {columns : List ColumnDefinition}
    {temporary ifNotExists : Bool} {pieces : List Piece}
    (accepted : createTable schema table columns temporary ifNotExists = .ok pieces) :
    Name.isIdentifier schema = true ∧ Name.isIdentifier table = true ∧
      firstName? (piecesText pieces) = some (Name.qualified schema table) := by
  rcases bind_ok accepted with ⟨_, schemaChecked, accepted⟩
  rcases bind_ok accepted with ⟨_, tableChecked, accepted⟩
  rcases bind_ok accepted with ⟨_, _, accepted⟩
  rcases bind_ok accepted with ⟨clauses, _, accepted⟩
  cases accepted
  refine ⟨isIdentifier_of_checked schemaChecked, isIdentifier_of_checked tableChecked, ?_⟩
  simp only [List.cons_append, List.append_assoc]
  exact firstName?_create temporary ifNotExists (by decide) (by decide)
    (show "(".toList = ['('] by decide) (by decide) _ _

/-- The schema of an index is not looked at by the builder. -/
theorem createIndex_names {schema table index : String} {columns : List String}
    {unique ifNotExists : Bool} {pieces : List Piece}
    (accepted : createIndex schema table index columns unique ifNotExists = .ok pieces) :
    Name.isIdentifier index = true ∧
      firstName? (piecesText pieces) = some (Name.qualified schema index) := by
  rcases bind_ok accepted with ⟨_, indexChecked, accepted⟩
  rcases bind_ok accepted with ⟨_, _, accepted⟩
  rcases bind_ok accepted with ⟨_, _, accepted⟩
  rcases bind_ok accepted with ⟨_, _, accepted⟩
  cases accepted
  refine ⟨isIdentifier_of_checked indexChecked, ?_⟩
  simp only [List.cons_append, List.append_assoc]
  exact firstName?_create unique ifNotExists (by decide) (by decide)
    (show " ON ".toList = [' ', 'O', 'N', ' '] by decide) (by decide) _ _

end Sql
end DocumentQuery
