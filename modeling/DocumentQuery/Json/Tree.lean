import DocumentQuery.Json.Numeral

namespace DocumentQuery
namespace Json

/-!
# Reading JSON texts

A text is split into tokens, and a stack machine builds a tree from the tokens.  The tree
is the document as written: members that repeat a name are still there, and a numeral
beyond all doubles or a string with half of a surrogate pair has no value yet does no
harm unless that value is asked for.  `Tree.document?` asks for all of them.

Both passes are folds over a list, so reading ends on every input.
-/

/-- A JSON text whose grammar has been checked. -/
inductive Tree where
  | null
  | bool (b : Bool)
  | number (value : Option Number)
  | string (value : Option String)
  | list (items : List Tree)
  | members (entries : List (Option String × Tree))
deriving Inhabited

/-! ## Strings -/

/-- A piece of a written string: a character, or a UTF-16 unit given by its number. -/
inductive StringUnit where
  | char (c : Char)
  | unit (n : Nat)
deriving Repr, DecidableEq

def hexValue? (c : Char) : Option Nat :=
  if '0' ≤ c && c ≤ '9' then some (c.toNat - '0'.toNat)
  else if 'a' ≤ c && c ≤ 'f' then some (c.toNat - 'a'.toNat + 10)
  else if 'A' ≤ c && c ≤ 'F' then some (c.toNat - 'A'.toNat + 10)
  else none

/-- The character that a backslash and a letter stand for. -/
def escaped? (c : Char) : Option Char :=
  if c = '"' || c = '\\' || c = '/' then some c
  else if c = 'b' then some '\x08'
  else if c = 'f' then some '\x0c'
  else if c = 'n' then some '\n'
  else if c = 'r' then some '\r'
  else if c = 't' then some '\t'
  else none

/-- A unit in the first half of a surrogate pair. -/
def isHighSurrogate (n : Nat) : Bool :=
  decide (0xD800 ≤ n) && decide (n < 0xDC00)

/-- A unit in the second half of a surrogate pair. -/
def isLowSurrogate (n : Nat) : Bool :=
  decide (0xDC00 ≤ n) && decide (n < 0xE000)

/-- The characters of a written string, if every surrogate is half of a pair. -/
def joinUnits : List StringUnit → Option (List Char)
  | [] => some []
  | .char c :: rest => (joinUnits rest).map (c :: ·)
  | .unit high :: .unit low :: rest =>
    if isHighSurrogate high then
      if isLowSurrogate low then
        (joinUnits rest).map
          (Char.ofNat (0x10000 + (high - 0xD800) * 0x400 + (low - 0xDC00)) :: ·)
      else none
    else if isLowSurrogate high then none
    else (joinUnits (.unit low :: rest)).map (Char.ofNat high :: ·)
  | .unit n :: rest =>
    if isHighSurrogate n || isLowSurrogate n then none
    else (joinUnits rest).map (Char.ofNat n :: ·)

/-! ## Tokens -/

/-- A token of a JSON text. -/
inductive Token where
  | openList
  | closeList
  | openMembers
  | closeMembers
  | comma
  | colon
  | leaf (value : Tree)
deriving Inhabited

/-- What the scanner is in the middle of.  Texts and units are held last first. -/
inductive Scan where
  | between
  | word (read : List Char)
  | numeral (read : List Char)
  | string (read : List StringUnit)
  | escape (read : List StringUnit)
  | unit (read : List StringUnit) (digitsLeft : Nat) (value : Nat)

/-- The scanner: the tokens so far, last first, and what it is in the middle of. -/
structure Scanner where
  tokens : List Token
  scan : Scan

/-- A character of the words `null`, `true` and `false`. -/
def isWordChar (c : Char) : Bool :=
  'a' ≤ c && c ≤ 'z'

def isNumeralChar (c : Char) : Bool :=
  Text.isDigit c || c = '-' || c = '+' || c = '.' || c = 'e' || c = 'E'

/-- The only blanks between tokens. -/
def isSpace (c : Char) : Bool :=
  c = ' ' || c = '\t' || c = '\n' || c = '\r'

def wordToken? (word : List Char) : Option Token :=
  if word = ['n', 'u', 'l', 'l'] then some (.leaf .null)
  else if word = ['t', 'r', 'u', 'e'] then some (.leaf (.bool true))
  else if word = ['f', 'a', 'l', 's', 'e'] then some (.leaf (.bool false))
  else none

def numeralToken? (text : List Char) : Option Token :=
  (Numeral.read? text).map fun numeral => .leaf (.number numeral.value?)

def stringToken (units : List StringUnit) : Token :=
  .leaf (.string ((joinUnits units).map String.ofList))

/-- Start a token, or skip a blank. -/
def Scanner.start (tokens : List Token) (c : Char) : Option Scanner :=
  if isSpace c then some ⟨tokens, .between⟩
  else if c = '[' then some ⟨.openList :: tokens, .between⟩
  else if c = ']' then some ⟨.closeList :: tokens, .between⟩
  else if c = '\x7b' then some ⟨.openMembers :: tokens, .between⟩
  else if c = '\x7d' then some ⟨.closeMembers :: tokens, .between⟩
  else if c = ',' then some ⟨.comma :: tokens, .between⟩
  else if c = ':' then some ⟨.colon :: tokens, .between⟩
  else if c = '"' then some ⟨tokens, .string []⟩
  else if isWordChar c then some ⟨tokens, .word [c]⟩
  else if isNumeralChar c then some ⟨tokens, .numeral [c]⟩
  else none

def Scanner.step (s : Scanner) (c : Char) : Option Scanner :=
  match s.scan with
  | .between => Scanner.start s.tokens c
  | .word read =>
    if isWordChar c then some ⟨s.tokens, .word (c :: read)⟩
    else (wordToken? read.reverse).bind fun token => Scanner.start (token :: s.tokens) c
  | .numeral read =>
    if isNumeralChar c then some ⟨s.tokens, .numeral (c :: read)⟩
    else (numeralToken? read.reverse).bind fun token => Scanner.start (token :: s.tokens) c
  | .string read =>
    if c = '"' then some ⟨stringToken read.reverse :: s.tokens, .between⟩
    else if c = '\\' then some ⟨s.tokens, .escape read⟩
    else if c.toNat < 0x20 then none
    else some ⟨s.tokens, .string (.char c :: read)⟩
  | .escape read =>
    if c = 'u' then some ⟨s.tokens, .unit read 4 0⟩
    else (escaped? c).map fun char => ⟨s.tokens, .string (.char char :: read)⟩
  | .unit read left value =>
    (hexValue? c).map fun digit =>
      let value := 16 * value + digit
      if left ≤ 1 then ⟨s.tokens, .string (.unit value :: read)⟩
      else ⟨s.tokens, .unit read (left - 1) value⟩

/-- The tokens at the end of a text, last first. -/
def Scanner.finish (s : Scanner) : Option (List Token) :=
  match s.scan with
  | .between => some s.tokens
  | .word read => (wordToken? read.reverse).map (· :: s.tokens)
  | .numeral read => (numeralToken? read.reverse).map (· :: s.tokens)
  | _ => none

def tokens? (text : List Char) : Option (List Token) := do
  let scanner ← text.foldlM Scanner.step ⟨[], .between⟩
  let tokens ← scanner.finish
  pure tokens.reverse

/-! ## The stack machine -/

/-- A container that is still open, with what it holds so far, last first. -/
inductive Frame where
  | list (items : List Tree)
  | members (entries : List (Option String × Tree)) (name : Option String)

/-- What may come next. -/
inductive Place where
  | value
  | firstItem
  | firstName
  | name
  | colon
  | afterValue
  | complete (tree : Tree)

/-- The stack machine: the open containers, innermost first, and what may come next. -/
structure Builder where
  frames : List Frame
  place : Place

/-- A value is complete: it goes into the innermost container. -/
def Builder.give (frames : List Frame) (tree : Tree) : Builder :=
  match frames with
  | [] => ⟨[], .complete tree⟩
  | .list items :: outer => ⟨.list (tree :: items) :: outer, .afterValue⟩
  | .members entries name :: outer =>
    ⟨.members ((name, tree) :: entries) none :: outer, .afterValue⟩

/-- The innermost container is complete. -/
def Builder.close (frames : List Frame) (token : Token) : Option Builder :=
  match frames, token with
  | .list items :: outer, .closeList => some (Builder.give outer (.list items.reverse))
  | .members entries _ :: outer, .closeMembers =>
    some (Builder.give outer (.members entries.reverse))
  | _, _ => none

/-- A value starts. -/
def Builder.beginValue (frames : List Frame) : Token → Option Builder
  | .openList => some ⟨.list [] :: frames, .firstItem⟩
  | .openMembers => some ⟨.members [] none :: frames, .firstName⟩
  | .leaf tree => some (Builder.give frames tree)
  | _ => none

/-- The name of a member starts. -/
def Builder.beginName (frames : List Frame) (token : Token) : Option Builder :=
  match frames, token with
  | .members entries _ :: outer, .leaf (.string name) =>
    some ⟨.members entries name :: outer, .colon⟩
  | _, _ => none

def Builder.step (b : Builder) (token : Token) : Option Builder :=
  match b.place, token with
  | .value, _ => Builder.beginValue b.frames token
  | .firstItem, .closeList => Builder.close b.frames token
  | .firstItem, _ => Builder.beginValue b.frames token
  | .firstName, .closeMembers => Builder.close b.frames token
  | .firstName, _ => Builder.beginName b.frames token
  | .name, _ => Builder.beginName b.frames token
  | .colon, .colon => some ⟨b.frames, .value⟩
  | .afterValue, .comma =>
    match b.frames with
    | .list _ :: _ => some ⟨b.frames, .value⟩
    | .members _ _ :: _ => some ⟨b.frames, .name⟩
    | [] => none
  | .afterValue, _ => Builder.close b.frames token
  | _, _ => none

/-- The tree of a text, if the text is one JSON value. -/
def tree? (text : String) : Option Tree := do
  let tokens ← tokens? text.toList
  let builder ← tokens.foldlM Builder.step ⟨[], .value⟩
  match builder.place with
  | .complete tree => some tree
  | _ => none

/-! ## Documents -/

mutual

/-- The document that a tree denotes, nested at most `depth` containers deep.  A name that
comes again keeps its first place and takes its last value. -/
def Tree.document? (depth : Nat) : Tree → Option Json
  | .null => some .null
  | .bool b => some (.bool b)
  | .number value => value.map .number
  | .string value => value.map .string
  | .list items =>
    match depth with
    | 0 => none
    | depth + 1 => (documents? depth items).map .array
  | .members entries =>
    match depth with
    | 0 => none
    | depth + 1 => (memberDocuments? depth entries).map ofMembers

/-- The documents of the items of a list. -/
def documents? (depth : Nat) : List Tree → Option (List Json)
  | [] => some []
  | tree :: rest =>
    match tree.document? depth, documents? depth rest with
    | some item, some items => some (item :: items)
    | _, _ => none

/-- The documents of the members of an object, with their names. -/
def memberDocuments? (depth : Nat) : List (Option String × Tree) → Option (List (String × Json))
  | [] => some []
  | (name, tree) :: rest =>
    match name, tree.document? depth, memberDocuments? depth rest with
    | some name, some value, some members => some ((name, value) :: members)
    | _, _, _ => none

end

/-- The number of containers that may be nested in each other. -/
def maxDepth : Nat := 127

def read? (text : String) : Option Json :=
  (tree? text).bind fun tree => tree.document? maxDepth

mutual

/-- A document as a tree that denotes it. -/
def tree : Json → Tree
  | .null => .null
  | .bool b => .bool b
  | .number n => .number (some n)
  | .string s => .string (some s)
  | .array items => .list (itemTrees items)
  | .object ⟨members⟩ => .members (memberTrees members)

def itemTrees : List Json → List Tree
  | [] => []
  | item :: rest => item.tree :: itemTrees rest

def memberTrees : List (String × Json) → List (Option String × Tree)
  | [] => []
  | (name, value) :: rest => (some name, value.tree) :: memberTrees rest

end

end Json
end DocumentQuery
