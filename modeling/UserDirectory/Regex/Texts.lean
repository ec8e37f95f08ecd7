import UserDirectory.Regex.Plan
import UserDirectory.Text.Basic

/-!
# UserDirectory — expressions for a few texts

An expression that matches only a few short texts needs no automaton: the texts are looked for
themselves. What can never match, such as a repetition of an empty set, has no texts, however large an
automaton for it would be.
-/

namespace UserDirectory.Regex

open Text

/-- The greatest number of texts of a plan. -/
def maxTexts : Nat := 250

/-- The greatest number of bytes of a text of a plan. -/
def maxTextSize : Nat := 100

/-- The greatest number of characters of a set that are taken for texts. -/
def maxSetTexts : Nat := 10

/-- The greatest number of times that a repetition is written out. -/
def maxWrittenOut : Nat := 10

/-- The characters of a set as texts, if they are few. -/
def CharSet.texts? (s : CharSet) : Option (List (List Char)) :=
  if s.ranges.foldl (fun n (lo, hi) => n + (hi + 1 - lo)) 0 ≤ maxSetTexts then
    some (s.ranges.flatMap fun (lo, hi) =>
      (List.range (hi + 1 - lo)).map fun i => [Char.ofNat (lo + i)])
  else none

/-- The texts that are made of one of the first and one of the second, if they are few and short. -/
def joinTexts (first : List (List Char)) (second : Option (List (List Char))) :
    Option (List (List Char)) :=
  if first.isEmpty then some []
  else
    match second with
    | none => none
    | some second =>
      let joined := (first.flatMap fun a => second.map (a ++ ·)).eraseReps
      if first.length * second.length ≤ maxTexts ∧ joined.all (byteLength · ≤ maxTextSize) then
        some joined
      else none

/-- The texts of a repetition whose body has the given ones. Where there are texts, exactly `min`
times must be meant, and they must be few. -/
def repTexts (body : Option (List (List Char))) (min : Nat) (max : Option Nat) (greedy : Bool) :
    Option (List (List Char)) :=
  if min = 0 then
    match body with
    | none => none
    | some [] => some [[]]
    | some texts =>
      if max = some 1 then some (if greedy then texts ++ [[]] else [] :: texts) else none
  else
    let written := (List.replicate (Nat.min min maxWrittenOut) body).foldl
      (fun texts body => texts.bind (joinTexts · body)) (some [[]])
    match written with
    | some [] => some []
    | some texts => if max = some min ∧ min ≤ maxWrittenOut then some texts else none
    | none => none

namespace Plan

mutual

/-- The texts that a plan matches, if they are few and short. -/
def texts? : Plan → Option (List (List Char))
  | .empty => some [[]]
  | .literal text => if byteLength text ≤ maxTextSize then some [text] else none
  | .set s => s.texts?
  | .assertion _ => none
  | .rep p min max greedy => repTexts p.texts? min max greedy
  | .capture _ => none
  | .seq ps => seqTexts [[]] ps
  | .alt ps => altTexts [] ps

/-- The texts of plans one after the other, behind the given ones. -/
def seqTexts (front : List (List Char)) : List Plan → Option (List (List Char))
  | [] => some front
  | p :: ps => (joinTexts front p.texts?).bind (seqTexts · ps)

/-- The texts of alternatives, with the given ones. -/
def altTexts (front : List (List Char)) : List Plan → Option (List (List Char))
  | [] => some front
  | p :: ps =>
    match p.texts? with
    | none => none
    | some texts =>
      if front.length + texts.length ≤ maxTexts then altTexts (front ++ texts).eraseReps ps else none

end

mutual

/-- Whether there are neither numbered groups nor conditions in a plan. -/
def isBare : Plan → Bool
  | .assertion _ => false
  | .capture _ => false
  | .rep p _ _ _ => p.isBare
  | .seq ps => allBare ps
  | .alt ps => allBare ps
  | _ => true

/-- Whether all of the plans are bare. -/
def allBare : List Plan → Bool
  | [] => true
  | p :: ps => p.isBare && allBare ps

end

/-- Whether texts can be looked for in place of the plan. The empty text cannot. -/
def isFewTexts (p : Plan) : Bool :=
  p.isBare && p.texts?.any fun texts => !texts.isEmpty && texts.all (!·.isEmpty)

end Plan

end UserDirectory.Regex
