import UserDirectory.Regex.Plan
import UserDirectory.Regex.Tally
import UserDirectory.Regex.SharedStates
import UserDirectory.Regex.Texts

/-!
# UserDirectory — the size of a regular expression

An expression is refused when an automaton for it would grow too large. There are two of them: one
reads a text forwards and keeps track of groups, and one reads it backwards. A repetition holds a copy
of its body for each time that it may be taken, so a short expression such as `a{1000000000}` can be
far too large. The sizes are worked out here without building anything.
-/

namespace UserDirectory.Regex

open Text

/-- The bytes of a literal in the order in which they are read. -/
def bytesOf (back : Bool) (text : List Char) : List Nat :=
  let bytes := (String.ofList text).toUTF8.toList.map (·.toNat)
  if back then bytes.reverse else bytes

namespace Plan

/-- The text of a literal. -/
def literal? : Plan → Option (List Char)
  | .literal text => some text
  | _ => none

/-- Count a repetition whose body is counted by `one`; `moves` tells that every match of the body
takes a character. -/
def tallyRep (one : Tally → Option Tally) (moves : Bool) (min : Nat) (max : Option Nat)
    (t : Tally) : Option Tally :=
  let fork := 2 * branchSize
  match max with
  | none =>
    if 0 < min then (t.times one min).bind (·.add 1 fork)
    else if moves then (t.add 1 fork).bind one
    else (one t).bind (·.add 3 (2 * fork))
  | some max =>
    let optional (t : Tally) : Option Tally := (t.add 1 fork).bind one
    if min = 0 ∧ max = 1 then (optional t).bind (·.add 1 0)
    else
      let least := if min = 0 then t.add 1 0 else t.times one min
      if min = max then least
      else (least.bind (·.add 1 0)).bind (·.times optional (max - min))

mutual

/-- Count the automaton for a plan; `back` if it reads texts backwards. -/
def tally (back : Bool) : Plan → Tally → Option Tally
  | .empty, t => t.add 1 0
  | .literal text, t => t.add (byteLength text) 0
  | .set s, t => t.addSet back s
  | .assertion _, t => t.add 1 0
  | .rep p min max _, t => tallyRep (tally back p) (p.least?.any (0 < ·)) min max t
  | .capture p, t =>
    if back then tally back p t else ((t.add 1 0).bind (tally back p)).bind (·.add 1 0)
  | .seq ps, t => if back then tallyLast ps t else tallyFirst ps t
  | .alt ps, t =>
    match ps.mapM literal? with
    | some texts => t.addLiterals (texts.map (bytesOf back))
    | none => tallyAlt back 0 ps t

/-- Count plans one after the other, the first one first. -/
def tallyFirst : List Plan → Tally → Option Tally
  | [], t => some t
  | p :: ps, t => (tally false p t).bind (tallyFirst ps)

/-- Count plans one after the other for reading backwards, the last one first. -/
def tallyLast : List Plan → Tally → Option Tally
  | [], t => some t
  | p :: ps, t => (tallyLast ps t).bind (tally true p)

/-- Count alternatives, of which `n` have been counted. The branch to them comes when there are
two. -/
def tallyAlt (back : Bool) (n : Nat) : List Plan → Tally → Option Tally
  | [], t => some t
  | p :: ps, t =>
    match tally back p t with
    | none => none
    | some t =>
      let branch :=
        if n = 0 then some t else if n = 1 then t.add 2 (2 * branchSize) else t.add 0 branchSize
      branch.bind (tallyAlt back (n + 1) ps)

end

/-- Whether the automaton for a plan is small enough; `back` if it reads texts backwards. It starts
with a loop that passes over what comes before a match, unless every match is bound to where reading
starts. -/
def fits (back : Bool) (p : Plan) : Bool :=
  let bound := p.isBound (if back then .textEnd else .textStart) back
  let start := if bound then Tally.add {} 1 0
    else Tally.add {} 3 (2 * branchSize + transitionSize)
  ((start.bind (tally back (.capture p))).bind (·.add 1 0)).isSome

end Plan

/-- Whether the automata for the expression are small enough, or none is needed. -/
def fits (r : Regex) : Bool :=
  let p := r.plan
  p.isFewTexts || (p.fits false && p.fits true)

end UserDirectory.Regex
