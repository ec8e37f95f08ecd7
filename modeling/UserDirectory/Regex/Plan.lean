import UserDirectory.Regex.Basic

/-!
# UserDirectory — plans of automata

An expression is put into a simpler form before an automaton is made for it. Characters in a row
become one literal, sequences and alternatives within their like are flattened, alternatives of one
character each become a set, and what all alternatives start with is taken out in front of them.
A plan matches what its expression matches; only the size of the automaton hangs on it.
-/

namespace UserDirectory.Regex

/-- The parts that an automaton is made of. -/
inductive Plan where
  /-- The empty stretch. -/
  | empty
  /-- Characters in a row. -/
  | literal (text : List Char)
  /-- One character of the set. -/
  | set (s : CharSet)
  | assertion (a : Assertion)
  | rep (p : Plan) (min : Nat) (max : Option Nat) (greedy : Bool)
  /-- A numbered group. -/
  | capture (p : Plan)
  | seq (ps : List Plan)
  | alt (ps : List Plan)

namespace Plan

-- ---------------------------------------------------------------------------
-- Properties
-- ---------------------------------------------------------------------------

mutual

/-- How many characters a match has at least. There is no answer for a plan with an empty set in
it. -/
def least? : Plan → Option Nat
  | .empty => some 0
  | .literal text => some text.length
  | .set s => if s.ranges.isEmpty then none else some 1
  | .assertion _ => some 0
  | .rep p min _ _ => p.least?.map (· * min)
  | .capture p => p.least?
  | .seq ps => leastSum? ps
  | .alt ps => leastOf? ps

/-- The sum of what the plans have at least. -/
def leastSum? : List Plan → Option Nat
  | [] => some 0
  | p :: ps => p.least?.bind fun n => (leastSum? ps).map (n + ·)

/-- The least of what the plans have at least. -/
def leastOf? : List Plan → Option Nat
  | [] => none
  | [p] => p.least?
  | p :: ps => p.least?.bind fun n => (leastOf? ps).map (Nat.min n)

end

mutual

/-- Whether all matches are empty. A plan with an empty set in it does not count. -/
def isWidthless : Plan → Bool
  | .empty => true
  | .literal _ => false
  | .set _ => false
  | .assertion _ => true
  | .rep p _ _ _ => p.isWidthless
  | .capture p => p.isWidthless
  | .seq ps => allWidthless ps
  | .alt ps => allWidthless ps

/-- Whether the plans have empty matches only. -/
def allWidthless : List Plan → Bool
  | [] => true
  | p :: ps => p.isWidthless && allWidthless ps

end

mutual

/-- Whether every match starts where the condition holds, or ends there if `back` is set, because
the plan says so at that end. -/
def isBound (a : Assertion) (back : Bool) : Plan → Bool
  | .assertion b => a == b
  | .rep p min _ _ => min != 0 && isBound a back p
  | .capture p => isBound a back p
  | .seq ps => if back then endsBound a ps else startsBound a ps
  | .alt ps => allBound a back ps
  | _ => false

/-- Whether the plans, one after the other, start where the condition holds. -/
def startsBound (a : Assertion) : List Plan → Bool
  | [] => false
  | p :: ps => isBound a false p || (p.isWidthless && startsBound a ps)

/-- Whether the plans, one after the other, end where the condition holds. -/
def endsBound (a : Assertion) : List Plan → Bool
  | [] => false
  | p :: ps => endsBound a ps || (allWidthless ps && isBound a true p)

/-- Whether each of the plans is bound to the condition. -/
def allBound (a : Assertion) (back : Bool) : List Plan → Bool
  | [] => true
  | p :: ps => isBound a back p && allBound a back ps

end

mutual

/-- Whether two plans are the same. A numbered group is like no other. -/
def same : Plan → Plan → Bool
  | .empty, .empty => true
  | .literal a, .literal b => a == b
  | .set s, .set t => s == t
  | .assertion a, .assertion b => a == b
  | .rep p min max g, .rep q min' max' g' =>
    min == min' && max == max' && g == g' && same p q
  | .seq ps, .seq qs => sameAll ps qs
  | .alt ps, .alt qs => sameAll ps qs
  | _, _ => false

/-- Whether two lists hold the same plans. -/
def sameAll : List Plan → List Plan → Bool
  | [], [] => true
  | p :: ps, q :: qs => same p q && sameAll ps qs
  | _, _ => false

end

-- ---------------------------------------------------------------------------
-- Sets, repetitions and sequences
-- ---------------------------------------------------------------------------

/-- One character of a set, which is a literal if there is only one. -/
def ofSet (s : CharSet) : Plan :=
  match s.single? with
  | some n => .literal [Char.ofNat n]
  | none => .set s

/-- A plan again and again. There is no use in more than one empty match. -/
def repOf (p : Plan) (min : Nat) (max : Option Nat) (greedy : Bool) : Plan :=
  let (min, max) : Nat × Option Nat :=
    if p.isWidthless then (Nat.min min 1, some ((max.map (Nat.min 1)).getD 1)) else (min, max)
  if max = some 0 then .empty
  else if min = 1 ∧ max = some 1 then p
  else .rep p min max greedy

/-- The parts that a plan puts one after the other. -/
def parts : Plan → List Plan
  | .empty => []
  | .seq ps => ps
  | p => [p]

/-- Join literals that stand next to each other. -/
def joinLiterals : List Plan → List Plan
  | [] => []
  | .literal a :: ps =>
    match joinLiterals ps with
    | .literal b :: qs => .literal (a ++ b) :: qs
    | qs => .literal a :: qs
  | p :: ps => p :: joinLiterals ps

/-- Plans one after the other. -/
def seqOf (ps : List Plan) : Plan :=
  match joinLiterals (ps.flatMap parts) with
  | [] => .empty
  | [p] => p
  | ps => .seq ps

-- ---------------------------------------------------------------------------
-- Alternatives
-- ---------------------------------------------------------------------------

/-- The alternatives that a plan gives. -/
def branches : Plan → List Plan
  | .alt ps => ps
  | p => [p]

/-- The character that a plan is. -/
def char? : Plan → Option Char
  | .literal [c] => some c
  | _ => none

/-- The set that a plan is. -/
def set? : Plan → Option CharSet
  | .set s => some s
  | _ => none

/-- The parts of a sequence. -/
def seq? : Plan → Option (List Plan)
  | .seq ps => some ps
  | _ => none

/-- In how many plans two lists agree from the front on. -/
def sharedFront : List Plan → List Plan → Nat
  | p :: ps, q :: qs => if p.same q then sharedFront ps qs + 1 else 0
  | _, _ => 0

/-- Take out in front of sequences what they share there, and let `join` make one plan of what is
left of them. There is no answer if they share nothing. -/
def lift? (join : List Plan → Plan) : List (List Plan) → Option Plan
  | [] => none
  | ps :: pss =>
    let shared := pss.foldl (fun n qs => Nat.min n (sharedFront ps qs)) ps.length
    if shared = 0 then none
    else
      let rests := (ps :: pss).map fun qs => seqOf (qs.drop shared)
      some (seqOf (ps.take shared ++ [join rests]))

/-- One plan or another. What they start with is taken out `depth` times at most. -/
def altOf (depth : Nat) (ps : List Plan) : Plan :=
  match ps.flatMap branches with
  | [] => .set .empty
  | [p] => p
  | ps =>
    match ps.mapM char? with
    | some cs => ofSet (CharSet.normalise ⟨cs.map fun c => (c.toNat, c.toNat)⟩)
    | none =>
      match ps.mapM set? with
      | some ss => ofSet (CharSet.normalise ⟨ss.flatMap (·.ranges)⟩)
      | none =>
        match depth with
        | 0 => .alt ps
        | d + 1 => ((ps.mapM seq?).bind (lift? (altOf d))).getD (.alt ps)

end Plan

-- ---------------------------------------------------------------------------
-- Plans of expressions
-- ---------------------------------------------------------------------------

/-- How many expressions there are in an expression, itself included. -/
def nodes : Regex → Nat
  | .empty | .set _ | .assertion _ => 1
  | .group _ r | .rep r _ _ _ => r.nodes + 1
  | .seq r s | .alt r s => r.nodes + s.nodes + 1

/-- The plan of an expression, given the parts of each of its alternatives. Parts can be taken out in
front of them only as often as there are expressions in it. -/
def planOf (r : Regex) : List (List Plan) → Plan
  | [ps] => Plan.seqOf ps
  | bs => Plan.altOf r.nodes (bs.map Plan.seqOf)

/-- The parts of an expression, given those of each of its alternatives. -/
def partsOf (r : Regex) : List (List Plan) → List Plan
  | [ps] => ps
  | bs => [planOf r bs]

/-- The alternatives of an expression, each as the plans of its parts. -/
def branches : Regex → List (List Plan)
  | .empty => [[]]
  | .set s => [[Plan.ofSet s]]
  | .assertion a => [[.assertion a]]
  | .group numbered r =>
    let p := planOf r r.branches
    [[if numbered then .capture p else p]]
  | .seq r s => [partsOf r r.branches ++ partsOf s s.branches]
  | .alt r s => r.branches ++ s.branches
  | .rep r min max greedy => [[Plan.repOf (planOf r r.branches) min max greedy]]

/-- The plan of an expression. -/
def plan (r : Regex) : Plan := planOf r r.branches

end UserDirectory.Regex
