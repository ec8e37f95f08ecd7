import UserDirectory.Regex.Basic

/-!
# UserDirectory — finding matches

All matches are followed at once. A set of positions is kept as a number whose bit `i` tells
whether position `i` belongs to it, and each expression takes the set of positions where matches
start to the set of those where they end. A repetition is followed until no new position turns up,
so the work grows with the length of the text and the expression and not with the number of ways
to match.
-/

namespace UserDirectory.Regex

/-- The positions of the characters that satisfy `p`. -/
def marks (p : Char → Bool) : List Char → Nat
  | [] => 0
  | c :: cs => (if p c then 1 else 0) + 2 * marks p cs

/-- The positions at which the condition holds; `before` is the character before the text. -/
def assertionMarks (a : Assertion) (before : Option Char) : List Char → Nat
  | [] => if a.holds before none then 1 else 0
  | c :: cs =>
    (if a.holds before (some c) then 1 else 0) + 2 * assertionMarks a (some c) cs

/-- All positions of a text. -/
def allPositions (text : List Char) : Nat := Nat.pow 2 (text.length + 1) - 1

/-- Take `step` `n` times, or until it changes nothing. -/
def iterate (step : Nat → Nat) : Nat → Nat → Nat
  | 0, xs => xs
  | n + 1, xs => let ys := step xs; if ys = xs then xs else iterate step n ys

/-- The positions that take at most `n` steps from `frontier`, with those already seen. -/
def spread (step : Nat → Nat) : Nat → Nat → Nat → Nat
  | 0, seen, _ => seen
  | n + 1, seen, frontier =>
    let reached := step frontier
    let fresh := reached ^^^ (reached &&& seen)
    if fresh = 0 then seen else spread step n (seen ||| fresh) fresh

/-- The positions at which a match that starts at one of `starts` may end. -/
def ends (text : List Char) : Regex → Nat → Nat
  | .empty, starts => starts
  | .set s, starts => (starts &&& marks s.contains text) <<< 1
  | .assertion a, starts => starts &&& assertionMarks a none text
  | .group _ r, starts => ends text r starts
  | .seq r s, starts => ends text s (ends text r starts)
  | .alt r s, starts => ends text r starts ||| ends text s starts
  | .rep r min max _, starts =>
    let step := ends text r
    let least := iterate step min starts
    let bound := match max with
      | none => text.length + 1
      | some m => m - min
    spread step bound least least

/-- Whether the expression matches some stretch of the text. -/
def isMatch (r : Regex) (text : List Char) : Bool := ends text r (allPositions text) != 0

end UserDirectory.Regex
