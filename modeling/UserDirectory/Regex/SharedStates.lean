import Std.Data.HashMap
import UserDirectory.Regex.CharSet
import UserDirectory.Regex.Tally

/-!
# UserDirectory — the automaton for a set of characters

An automaton reads the bytes of UTF-8. The characters of a set are written as products of ranges of
bytes, one range for each byte of a character.

The automaton has a path for each product, and paths that end alike share states. To find a state
that does what a new one would do, states are kept in slots by a hash of what they do. A slot
remembers only the last state put there, so now and then a state is made a second time.
-/

namespace UserDirectory.Regex

-- ---------------------------------------------------------------------------
-- Characters as ranges of bytes
-- ---------------------------------------------------------------------------

/-- A range of bytes, from the first to the last. -/
abbrev ByteRange := Nat × Nat

/-- The numbers from `a` to `b` as products of ranges of `k + 1` digits in base 64. -/
def digitProducts : Nat → Nat → Nat → List (List (Nat × Nat))
  | 0, a, b => [[(a, b)]]
  | k + 1, a, b =>
    let m := Nat.pow 64 (k + 1)
    if a / m = b / m then (digitProducts k (a % m) (b % m)).map ((a / m, a / m) :: ·)
    else
      let lo := if a % m = 0 then a / m else a / m + 1
      let hi := if b % m = m - 1 then b / m else b / m - 1
      (if a % m = 0 then [] else (digitProducts k (a % m) (m - 1)).map ((a / m, a / m) :: ·)) ++
      (if lo ≤ hi then [(lo, hi) :: List.replicate (k + 1) (0, 63)] else []) ++
      (if b % m = m - 1 then [] else (digitProducts k 0 (b % m)).map ((b / m, b / m) :: ·))

/-- A stretch of code points that are written with equally many bytes. -/
structure ByteWidth where
  /-- How many bytes follow the first one. -/
  further : Nat
  /-- What the first byte says besides the first digit of the code point. -/
  lead : Nat
  first : Nat
  last : Nat

/-- The stretches of code points that are written with equally many bytes. There are no characters
from `0xD800` to `0xDFFF`. -/
def byteWidths : List ByteWidth :=
  [⟨0, 0, 0, 0x7F⟩, ⟨1, 0xC0, 0x80, 0x7FF⟩, ⟨2, 0xE0, 0x800, 0xD7FF⟩, ⟨2, 0xE0, 0xE000, 0xFFFF⟩,
    ⟨3, 0xF0, 0x10000, 0x10FFFF⟩]

/-- The bytes for a product of ranges of digits. -/
def ByteWidth.bytes (w : ByteWidth) : List (Nat × Nat) → List ByteRange
  | [] => []
  | (a, b) :: digits => (w.lead + a, w.lead + b) :: digits.map fun (a, b) => (0x80 + a, 0x80 + b)

/-- The characters of the set as products of ranges of bytes, in ascending order. -/
def CharSet.byteProducts (s : CharSet) : List (List ByteRange) :=
  s.ranges.flatMap fun (lo, hi) =>
    byteWidths.flatMap fun w =>
      let a := max lo w.first
      let b := min hi w.last
      if a ≤ b then (digitProducts w.further a b).map w.bytes else []

-- ---------------------------------------------------------------------------
-- States that are shared
-- ---------------------------------------------------------------------------

/-- Take numbers into a hash of 64 bits, one after the other. -/
def mixHash (hash : UInt64) : List Nat → UInt64
  | [] => hash
  | n :: key => mixHash ((hash ^^^ n.toUInt64) * 1099511628211) key

/-- The slot, one of so many, for a state that does what the numbers say. -/
def slotOf (slots : Nat) (key : List Nat) : Nat := (mixHash 14695981039346656037 key).toNat % slots

/-- The states of a set that have been made. -/
structure SharedStates where
  /-- How many slots there are. -/
  slots : Nat
  /-- What the state in a slot does, and its number. -/
  kept : Std.HashMap Nat (List Nat × Nat) := {}
  tally : Tally

namespace SharedStates

/-- The number of the state that does what `key` says, if it is still remembered. -/
def find? (m : SharedStates) (key : List Nat) : Option Nat :=
  match m.kept[slotOf m.slots key]? with
  | some (other, id) => if other = key then some id else none
  | none => none

/-- The number of the state that does what `key` says, which is made if it is not found. A new state
takes `extra` bytes besides its own. -/
def state (m : SharedStates) (key : List Nat) (extra : Nat) : Nat × SharedStates :=
  match m.find? key with
  | some id => (id, m)
  | none =>
    let id := m.tally.states
    (id, { m with
      kept := m.kept.insert (slotOf m.slots key) (key, id)
      tally := ⟨id + 1, m.tally.extra + extra⟩ })

-- ---------------------------------------------------------------------------
-- Backwards
-- ---------------------------------------------------------------------------

/-- The path that reads a product backwards, the last byte first, down to the state `target`. It is
made from its end, which reads the first byte. -/
def path (m : SharedStates) (target : Nat) : List ByteRange → SharedStates
  | [] => { m with tally.extra := m.tally.extra + branchSize }
  | (lo, hi) :: bytes =>
    let (id, m) := m.state [target, lo, hi] 0
    m.path id bytes

-- ---------------------------------------------------------------------------
-- Forwards
-- ---------------------------------------------------------------------------

/-- Products with the same first range, as that range and the rests of the products. -/
def byFirst : List (List ByteRange) → List (ByteRange × List (List ByteRange))
  | [] => []
  | [] :: products => byFirst products
  | (r :: bytes) :: products =>
    match byFirst products with
    | [] => [(r, [bytes])]
    | (q, rests) :: groups =>
      if r = q then (r, bytes :: rests) :: groups else (r, [bytes]) :: (q, rests) :: groups

/-- The state that reads one of the products, of at most `depth` ranges, and goes on to the state
`target`. -/
def tree (target : Nat) : Nat → List (List ByteRange) → SharedStates → Nat × SharedStates
  | 0, _, m => (target, m)
  | depth + 1, products, m =>
    let groups := byFirst products
    if groups.isEmpty then (target, m)
    else
      let (key, m) := groups.foldl (fun (key, m) ((lo, hi), rests) =>
        let (next, m) := tree target depth rests m
        (key ++ [lo, hi, next], m)) (([] : List Nat), m)
      m.state key (transitionSize * groups.length)

end SharedStates

/-- How many slots there are when states are made from their ends. -/
def pathSlots : Nat := 1000

/-- How many slots there are when states are made as a tree. -/
def treeSlots : Nat := 10000

/-- Count the automaton for one character of the set; `back` if it reads the bytes backwards. ASCII
characters need a single state that reads them. -/
def Tally.addSet (back : Bool) (s : CharSet) (t : Tally) : Option Tally :=
  if s.isAscii then t.add 2 (transitionSize * s.ranges.length)
  else if back then
    let m : SharedStates := { slots := pathSlots, tally := ⟨t.states + 2, t.extra⟩ }
    let target := t.states + 1
    (s.byteProducts.foldl (fun m bytes => m.path target bytes) m).tally.add 0 0
  else
    let m : SharedStates := { slots := treeSlots, tally := ⟨t.states + 1, t.extra⟩ }
    (SharedStates.tree t.states 4 s.byteProducts m).2.tally.add 0 0

end UserDirectory.Regex
