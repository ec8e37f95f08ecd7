import UserDirectory.Text.FoldData
import UserDirectory.Text.CodedSet

/-!
# UserDirectory — sets of characters

A set of characters is a list of ranges of code points. The operations of character classes need
the ranges in ascending order and apart from each other (`normalise`); membership does not.

Main result: `contains_single`.
-/

namespace UserDirectory.Regex

open Text

/-- A set of characters, as ranges of code points. -/
structure CharSet where
  ranges : List (Nat × Nat)
  deriving DecidableEq, Repr

namespace CharSet

/-- The greatest code point. -/
def maxCode : Nat := 0x10FFFF

/-- Membership of a code point. -/
def holds (s : CharSet) (n : Nat) : Bool := s.ranges.any fun (lo, hi) => lo ≤ n && n ≤ hi

/-- Membership of a character. -/
def contains (s : CharSet) (c : Char) : Bool := s.holds c.toNat

def empty : CharSet := ⟨[]⟩

/-- The set of the code points from `lo` to `hi`. -/
def range (lo hi : Nat) : CharSet := ⟨[(lo, hi)]⟩

/-- The set of one character. -/
def single (c : Char) : CharSet := range c.toNat c.toNat

/-- Every character. -/
def all : CharSet := range 0 maxCode

-- ---------------------------------------------------------------------------
-- Operations
-- ---------------------------------------------------------------------------

/-- Join neighbouring and overlapping ranges of an ascending list, of which `(lo, hi)` is the
first. -/
def joinFrom (lo hi : Nat) : List (Nat × Nat) → List (Nat × Nat)
  | [] => [(lo, hi)]
  | (a, b) :: rest =>
    if a ≤ hi + 1 then joinFrom lo (max hi b) rest else (lo, hi) :: joinFrom a b rest

/-- The same set with its ranges in ascending order and apart from each other. -/
def normalise (s : CharSet) : CharSet :=
  match s.ranges.mergeSort (fun p q => p.1 ≤ q.1) with
  | [] => ⟨[]⟩
  | (lo, hi) :: rest => ⟨joinFrom lo hi rest⟩

def union (s t : CharSet) : CharSet := normalise ⟨s.ranges ++ t.ranges⟩

/-- The code point after that of a character. No character has one from `0xD800` to `0xDFFF`. -/
def codeAfter (n : Nat) : Nat := if n = 0xD7FF then 0xE000 else n + 1

/-- The code point before that of a character. -/
def codeBefore (n : Nat) : Nat := if n = 0xE000 then 0xD7FF else n - 1

/-- The gaps between ascending ranges, from `next` up to `top`. -/
def gapsFrom (top next : Nat) : List (Nat × Nat) → List (Nat × Nat)
  | [] => if next ≤ top then [(next, top)] else []
  | (a, b) :: rest =>
    (if next < a then [(next, codeBefore a)] else []) ++ gapsFrom top (codeAfter b) rest

/-- The code points up to `top` that are not in the set. -/
def complement (top : Nat) (s : CharSet) : CharSet := ⟨gapsFrom top 0 s.normalise.ranges⟩

def inter (s t : CharSet) : CharSet :=
  complement maxCode (union (complement maxCode s) (complement maxCode t))

def diff (s t : CharSet) : CharSet := inter s (complement maxCode t)

def symmDiff (s t : CharSet) : CharSet := union (diff s t) (diff t s)

/-- Whether every member is an ASCII character. -/
def isAscii (s : CharSet) : Bool := s.ranges.all fun (_, hi) => hi < 0x80

/-- Whether the set is one character, and which. -/
def single? (s : CharSet) : Option Nat :=
  match s.ranges with
  | [(lo, hi)] => if lo = hi then some lo else none
  | _ => none

-- ---------------------------------------------------------------------------
-- Letter case
-- ---------------------------------------------------------------------------

/-- The code points of a group, each given by its distance from the one before. -/
def placesFrom (n : Nat) : List Nat → List Nat
  | [] => []
  | d :: ds => (n + d) :: placesFrom (n + d) ds

/-- The groups that follow one whose first code point is `n`. -/
def groupsFrom (n : Nat) : List (List Nat) → List (List Nat)
  | [] => []
  | g :: gs =>
    let places := placesFrom n g
    places :: groupsFrom (places.headD n) gs

/-- The groups of characters that differ in letter case only. -/
def foldGroups : List (List Nat) :=
  groupsFrom 0 ((tableWords foldWords).map fun w => (wordsBy (· == '+') [] w).map numberOf)

/-- The set with all characters that differ from a member in letter case only. -/
def foldCase (s : CharSet) : CharSet :=
  let met := foldGroups.filter fun g => g.any s.holds
  if met.isEmpty then s else union s ⟨met.flatten.map fun n => (n, n)⟩

/-- The same for the letters of ASCII alone. -/
def foldAsciiCase (s : CharSet) : CharSet :=
  let letters := (List.range 26).filter fun i => s.holds (0x41 + i) || s.holds (0x61 + i)
  if letters.isEmpty then s
  else union s ⟨letters.flatMap fun i => [(0x41 + i, 0x41 + i), (0x61 + i, 0x61 + i)]⟩

-- ---------------------------------------------------------------------------
-- Membership
-- ---------------------------------------------------------------------------

theorem contains_single (c d : Char) : (single c).contains d = (d == c) := by
  rw [Bool.eq_iff_iff]
  simp only [contains, holds, single, range, List.any_cons, List.any_nil, Bool.or_false,
    Bool.and_eq_true, decide_eq_true_eq, beq_iff_eq]
  constructor
  · intro h
    exact Char.toNat_inj.1 (by omega)
  · rintro rfl
    omega

end CharSet

end UserDirectory.Regex
