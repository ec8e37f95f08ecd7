import UserDirectory.Regex.CharSet
import UserDirectory.Text.PropertyData

/-!
# UserDirectory — regular expressions

Regular expressions and what they match. An expression matches a stretch of a text, from one
position to another; a position counts the characters before it. Which of several matches would be
taken is of no interest here, so greedy and reluctant repetitions match the same, and so does an
expression with parentheses around it or without.

`Regex.Matches` is the meaning, as rules; `Regex.ends` finds all positions at which a match may
end, for a whole set of positions at once.
-/

namespace UserDirectory

open Text

namespace Regex

-- ---------------------------------------------------------------------------
-- Assertions
-- ---------------------------------------------------------------------------

/-- The characters that words are made of. -/
def wordSet : CharSet := ⟨decodeEdges wordEdges⟩

/-- The word characters of ASCII. -/
def asciiWordSet : CharSet := ⟨[(0x30, 0x39), (0x41, 0x5A), (0x5F, 0x5F), (0x61, 0x7A)]⟩

/-- A side of a word. -/
inductive WordEdge where
  /-- Either end of a word. -/
  | either
  /-- The start of a word. -/
  | start
  /-- The end of a word. -/
  | «end»
  /-- No word before it. -/
  | startHalf
  /-- No word after it. -/
  | endHalf
  deriving DecidableEq, Repr

/-- A condition on a position. -/
inductive Assertion where
  | textStart
  | textEnd
  | lineStart
  | lineEnd
  /-- A side of a word; only ASCII characters make words if `ascii` is set. -/
  | word (edge : WordEdge) (ascii : Bool)
  deriving DecidableEq, Repr

/-- Whether the condition holds between two characters, where there are such. -/
def Assertion.holds : Assertion → Option Char → Option Char → Bool
  | .textStart, before, _ => before.isNone
  | .textEnd, _, after => after.isNone
  | .lineStart, before, _ => before.all (· == '\n')
  | .lineEnd, _, after => after.all (· == '\n')
  | .word edge ascii, before, after =>
    let inWord := (if ascii then asciiWordSet else wordSet).contains
    let b := before.any inWord
    let a := after.any inWord
    match edge with
    | .either => b != a
    | .start => !b && a
    | .«end» => b && !a
    | .startHalf => !b
    | .endHalf => !a

end Regex

-- ---------------------------------------------------------------------------
-- Expressions
-- ---------------------------------------------------------------------------

/-- A regular expression. -/
inductive Regex where
  /-- The empty stretch. -/
  | empty
  /-- One character of the set. -/
  | set (s : Regex.CharSet)
  /-- The empty stretch, where the condition holds. -/
  | assertion (a : Regex.Assertion)
  /-- An expression in parentheses; `numbered` if what it matches can be asked for. -/
  | group (numbered : Bool) (r : Regex)
  /-- One after the other. -/
  | seq (r s : Regex)
  /-- One or the other. -/
  | alt (r s : Regex)
  /-- At least `min` times and, if there is a `max`, at most `max` times; `greedy` if more times are
  tried before fewer. -/
  | rep (r : Regex) (min : Nat) (max : Option Nat) (greedy : Bool)
  deriving DecidableEq, Repr

namespace Regex

/-- The rules of matching: `Matches text r i j` says that `r` matches the stretch of `text` from
position `i` to position `j`. -/
inductive Matches (text : List Char) : Regex → Nat → Nat → Prop where
  | empty {i} : i ≤ text.length → Matches text .empty i i
  | set {s i c} : text[i]? = some c → s.contains c = true → Matches text (.set s) i (i + 1)
  | assertion {a i} : i ≤ text.length → a.holds ((text.take i).getLast?) text[i]? = true →
      Matches text (.assertion a) i i
  | group {n r i j} : Matches text r i j → Matches text (.group n r) i j
  | seq {r s i j k} : Matches text r i j → Matches text s j k → Matches text (.seq r s) i k
  | left {r s i j} : Matches text r i j → Matches text (.alt r s) i j
  | right {r s i j} : Matches text s i j → Matches text (.alt r s) i j
  | stop {r max g i} : i ≤ text.length → Matches text (.rep r 0 max g) i i
  | more {r min max g i j k} : Matches text r i j →
      Matches text (.rep r (min - 1) (max.map (· - 1)) g) j k → max ≠ some 0 →
      Matches text (.rep r min max g) i k

/-- Whether the expression matches some stretch of the text. -/
def Finds (r : Regex) (text : List Char) : Prop := ∃ i j, Matches text r i j

end Regex

end UserDirectory
