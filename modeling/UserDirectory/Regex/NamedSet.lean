import UserDirectory.Regex.Basic
import UserDirectory.Regex.Flags
import UserDirectory.Text.Property

/-!
# UserDirectory — sets of characters that have a name

The sets that stand for a dot, for a letter behind a backslash, for a name between `[:` and `:]`, and
for a property of characters.
-/

namespace UserDirectory.Regex

open Text

/-- The character class `.`. -/
def dotSet (f : Flags) : Option CharSet :=
  if !f.unicode then none
  else if f.dotAll then some .all
  else some ⟨[(0, 9), (11, CharSet.maxCode)]⟩

def digitSet (f : Flags) : CharSet :=
  if f.unicode then ⟨(CodedSet.find? categories "nd").getD []⟩ else .range 0x30 0x39

def spaceSet (f : Flags) : CharSet :=
  if f.unicode then ⟨blankRanges⟩ else ⟨[(9, 13), (32, 32)]⟩

def wordClass (f : Flags) : CharSet := if f.unicode then wordSet else asciiWordSet

/-- The classes of ASCII characters that have a name between `[:` and `:]`. -/
def asciiClass? (name : List Char) : Option CharSet :=
  match String.ofList name with
  | "alnum" => some ⟨[(0x30, 0x39), (0x41, 0x5A), (0x61, 0x7A)]⟩
  | "alpha" => some ⟨[(0x41, 0x5A), (0x61, 0x7A)]⟩
  | "ascii" => some ⟨[(0, 0x7F)]⟩
  | "blank" => some ⟨[(9, 9), (32, 32)]⟩
  | "cntrl" => some ⟨[(0, 0x1F), (0x7F, 0x7F)]⟩
  | "digit" => some ⟨[(0x30, 0x39)]⟩
  | "graph" => some ⟨[(0x21, 0x7E)]⟩
  | "lower" => some ⟨[(0x61, 0x7A)]⟩
  | "print" => some ⟨[(0x20, 0x7E)]⟩
  | "punct" => some ⟨[(0x21, 0x2F), (0x3A, 0x40), (0x5B, 0x60), (0x7B, 0x7E)]⟩
  | "space" => some ⟨[(9, 13), (32, 32)]⟩
  | "upper" => some ⟨[(0x41, 0x5A)]⟩
  | "word" => some asciiWordSet
  | "xdigit" => some ⟨[(0x30, 0x39), (0x41, 0x46), (0x61, 0x66)]⟩
  | _ => none

/-- Split a list at the first place where `mark` stands. -/
def splitAtMark (mark : List Char) : List Char → Option (List Char × List Char)
  | [] => none
  | c :: cs =>
    if mark.isPrefixOf (c :: cs) then some ([], (c :: cs).drop mark.length)
    else (splitAtMark mark cs).map fun (a, b) => (c :: a, b)

/-- The set that a property between braces stands for, and whether its complement is meant. -/
def propertySet? (inside : List Char) : Option (List (Nat × Nat) × Bool) :=
  match splitAtMark ['!', '='] inside with
  | some (name, value) => (valueSet? name value).map (·, true)
  | none =>
    match splitAtMark [':'] inside with
    | some (name, value) => (valueSet? name value).map (·, false)
    | none =>
      match splitAtMark ['='] inside with
      | some (name, value) => (valueSet? name value).map (·, false)
      | none => (namedSet? inside).map (·, false)

end UserDirectory.Regex
