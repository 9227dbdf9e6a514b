import DocumentQuery.Text.LetterCaseTable

namespace DocumentQuery
namespace Text

/-!
# Lower case

Names of schemas, tables and types are compared without regard to case, by comparing
their lower-case forms.  The mapping is the full one of Unicode: a capital I with a dot
becomes two characters, and a capital sigma becomes a final sigma at the end of a word.
On ASCII text it only turns `A` to `Z` into `a` to `z`.
-/

/-- The small letter of one capital; characters that are no capitals stay as they are. -/
def smallLetter (c : Char) : Char :=
  if c.toNat < 0x80 then smallLatin c
  else
    match capitalRuns.find? fun (first, last, step, _) =>
        decide (first ≤ c.toNat) && decide (c.toNat ≤ last) && (c.toNat - first) % step == 0 with
    | some (_, _, _, distance) => Char.ofNat ((c.toNat : Int) + distance).toNat
    | none => c

/-- The character has no influence on whether a word ends beside it. -/
def isCaseIgnorable (c : Char) : Bool :=
  inRanges caseIgnorableRanges c.toNat

/-- The first character that is not case-ignorable is a letter with a case. -/
def startsCased (s : List Char) : Bool :=
  match s.dropWhile isCaseIgnorable with
  | [] => false
  | c :: _ => inRanges casedRanges c.toNat

/-- The lower-case form of one character, where `before` is the text before it, nearest
character first, and `after` the text after it. -/
def lowercaseAt (before : List Char) (c : Char) (after : List Char) : List Char :=
  if c = '\u0130' then ['i', '\u0307']
  else if c = '\u03a3' then
    [if startsCased before && !startsCased after then '\u03c2' else '\u03c3']
  else [smallLetter c]

/-- The lower-case form of a text that follows `before`, given nearest character first. -/
def lowercaseFrom (before : List Char) : List Char → List Char
  | [] => []
  | c :: after => lowercaseAt before c after ++ lowercaseFrom (c :: before) after

def lowercase (s : String) : String :=
  String.ofList (lowercaseFrom [] s.toList)

end Text
end DocumentQuery
