/-!
# UserDirectory — sets of characters as text

The large tables of the Unicode standard are kept as texts. A set of characters is written as its
edges: the code points at which membership changes, each as its distance from the one before, in
base 36 and divided by blanks and line breaks.
-/

namespace UserDirectory.Text

/-- A set of characters with the names it goes by, all in lower case and without blanks. -/
structure CodedSet where
  names : List String
  edges : String

/-- The value of a digit in base 36. -/
def digitValue (c : Char) : Nat :=
  if c ≤ '9' then c.toNat - '0'.toNat else c.toNat - 'a'.toNat + 10

/-- The number that digits in base 36 stand for. -/
def numberOf (digits : List Char) : Nat := digits.foldl (fun n c => n * 36 + digitValue c) 0

/-- The words of a text: what stands between characters that satisfy `gap`. `word` is what has been
read of the current one, backwards. -/
def wordsBy (gap : Char → Bool) (word : List Char) : List Char → List (List Char)
  | [] => if word.isEmpty then [] else [word.reverse]
  | c :: cs =>
    if gap c then
      if word.isEmpty then wordsBy gap [] cs else word.reverse :: wordsBy gap [] cs
    else wordsBy gap (c :: word) cs

/-- The words of a text between blanks and line breaks. -/
def tableWords (table : String) : List (List Char) := wordsBy (· ≤ ' ') [] table.toList

/-- The ranges between the edges that follow the given one. -/
def rangesFrom (edge : Nat) : List Nat → List (Nat × Nat)
  | a :: b :: rest => (edge + a, edge + a + b - 1) :: rangesFrom (edge + a + b) rest
  | _ => []

/-- The ranges of a set that is given by its edges. -/
def decodeEdges (edges : String) : List (Nat × Nat) :=
  rangesFrom 0 ((tableWords edges).map numberOf)

end UserDirectory.Text
