namespace DocumentQuery
namespace Text

/-!
# Classes of characters as ranges of code points

A class is a list of closed ranges.  Membership is a scan of that list, so a table of a
Unicode property is plain data and what it says about one character is decided by
evaluation.
-/

/-- The code point lies in one of the closed ranges. -/
def inRanges (ranges : List (Nat × Nat)) (codePoint : Nat) : Bool :=
  ranges.any fun range => decide (range.1 ≤ codePoint) && decide (codePoint ≤ range.2)

def isLatinLetter (c : Char) : Bool :=
  ('A' ≤ c && c ≤ 'Z') || ('a' ≤ c && c ≤ 'z')

def isDigit (c : Char) : Bool :=
  '0' ≤ c && c ≤ '9'

/-- The small form of a letter `A` to `Z`; every other character is itself. -/
def smallLatin (c : Char) : Char :=
  if 'A' ≤ c && c ≤ 'Z' then Char.ofNat (c.toNat + 32) else c

/-- The text before the first occurrence of a separator and the text after it. -/
def splitAtFirst (separator : Char) : List Char → Option (List Char × List Char)
  | [] => none
  | c :: rest =>
    if c = separator then some ([], rest)
    else (splitAtFirst separator rest).map fun parts => (c :: parts.1, parts.2)

/-- Every part of a text between occurrences of a separator; a text without one is its
only part. -/
def splitAll (separator : Char) : List Char → List (List Char)
  | [] => [[]]
  | c :: rest =>
    match splitAll separator rest with
    | [] => [[c]]
    | part :: parts => if c = separator then [] :: part :: parts else (c :: part) :: parts

end Text
end DocumentQuery
