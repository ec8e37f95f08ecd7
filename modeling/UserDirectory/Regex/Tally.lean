/-!
# UserDirectory — counting states

The size of an automaton is counted while it is planned, without building it. The count ends as soon
as it passes the limit.

Where all alternatives are literals, the automaton for them is a tree: literals that start alike
share the states for their start. A literal that ends at a node of the tree comes before the literals
that were put in after it, so these do not share what follows with those put in before.
-/

namespace UserDirectory.Regex

/-- The bytes that one state takes. -/
def stateSize : Nat := 32

/-- The bytes that a branch to a further state takes. -/
def branchSize : Nat := 4

/-- The bytes that a transition on a range of bytes takes, in states with several. -/
def transitionSize : Nat := 8

/-- The greatest size that is let through: 10 MiB. -/
def maxSize : Nat := 10 * Nat.pow 2 20

/-- The part of an automaton that has been counted. -/
structure Tally where
  /-- How many states there are. A new state has the number that this was before. -/
  states : Nat := 0
  /-- The bytes that states take besides their own. -/
  extra : Nat := 0
  deriving DecidableEq, Repr

namespace Tally

/-- The size of what has been counted. -/
def bytes (t : Tally) : Nat := stateSize * t.states + t.extra

/-- Count some more, if it is within the limit. -/
def add (t : Tally) (states extra : Nat) : Option Tally :=
  let u : Tally := ⟨t.states + states, t.extra + extra⟩
  if u.bytes ≤ maxSize then some u else none

/-- Count the same `n` times. -/
def times (one : Tally → Option Tally) : Nat → Tally → Option Tally
  | 0, t => some t
  | n + 1, t =>
    match one t with
    | none => none
    | some u => times one n u

end Tally

-- ---------------------------------------------------------------------------
-- Alternatives that are literals
-- ---------------------------------------------------------------------------

/-- The stretches of a list between its empty members. -/
def stretches : List (List Nat) → List (List (List Nat))
  | [] => [[]]
  | [] :: lits => [] :: stretches lits
  | lit :: lits =>
    match stretches lits with
    | [] => [[lit]]
    | first :: rest => (lit :: first) :: rest

/-- The literals without those that end at the node before any goes on from there, but for one. -/
def endOnce : List (List Nat) → List (List Nat)
  | [] :: lits => [] :: lits.dropWhile (·.isEmpty)
  | lits => lits

/-- What follows the given byte in those literals that start with it. -/
def follow (b : Nat) (lits : List (List Nat)) : List (List Nat) :=
  lits.filterMap fun
    | [] => none
    | c :: lit => if c = b then some lit else none

/-- Count the node of the tree where the literals start. They take at most `depth` bytes. The node is
a branch to each of its stretches and to the end of each literal that ends there. -/
def Tally.addNode : Nat → List (List Nat) → Tally → Tally
  | 0, _, t => t
  | depth + 1, lits, t =>
    let all := stretches (endOnce lits)
    let chunks := all.filter (!·.isEmpty)
    chunks.foldl
      (fun t chunk =>
        let firsts := (chunk.filterMap List.head?).eraseDups
        let state : Tally :=
          ⟨t.states + 1, t.extra + if firsts.length = 1 then 0 else transitionSize * firsts.length⟩
        firsts.foldl
          (fun t b =>
            let rests := follow b chunk
            if rests.all (·.isEmpty) then t else t.addNode depth rests)
          state)
      ⟨t.states + 1, t.extra + branchSize * (all.length - 1 + chunks.length)⟩

/-- Count the automaton for one of the literals, given by their bytes. -/
def Tally.addLiterals (lits : List (List Nat)) (t : Tally) : Option Tally :=
  let depth := lits.foldl (fun n lit => Nat.max n lit.length) 0
  (Tally.addNode depth lits ⟨t.states + 1, t.extra⟩).add 0 0

end UserDirectory.Regex
