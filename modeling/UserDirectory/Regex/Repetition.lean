import UserDirectory.Regex.Flags

/-!
# UserDirectory — repetitions in regular expressions

The marks `?`, `*`, `+` and the bounds in braces. A question mark behind them makes a repetition
reluctant.
-/

namespace UserDirectory.Regex

open Text

/-- Read the question mark that may make a repetition reluctant, and tell whether it is greedy. -/
def greedyAt : (s : List Char) → Bool × Tail s
  | '?' :: s => (false, ⟨s, Nat.le_succ _⟩)
  | s => (true, .whole s)

/-- Read digits. -/
def digitsAt (f : Flags) (s : List Char) : List Char × Tail s :=
  match s with
  | [] => ([], .whole [])
  | c :: cs =>
    if c.isDigit then
      let t := f.skip cs
      have : t.1.length < (c :: cs).length := Nat.lt_succ_of_le t.2
      let (ds, r) := digitsAt f t.1
      (c :: ds, ⟨r.1, Nat.le_trans r.2 (Nat.le_of_lt this)⟩)
    else ([], .whole (c :: cs))
termination_by s.length
decreasing_by exact this

/-- Pass over blanks, whatever the flags. -/
def dropBlanks : (s : List Char) → Tail s
  | [] => .whole []
  | c :: s => if isBlank c then ((dropBlanks s).cons c).toTail else .whole (c :: s)

/-- Read a number of at most 32 bits between blanks: none where there are no digits. -/
def countAt (f : Flags) (s : List Char) : Option (Option Nat × Tail s) :=
  let t := dropBlanks s
  let (ds, u) := digitsAt f t.1
  let v := dropBlanks u.1
  let rest := (t.trans u).trans v
  if ds.isEmpty then some (none, rest)
  else
    let n := ds.foldl (fun n d => n * 10 + (d.toNat - '0'.toNat)) 0
    if n < Nat.pow 2 32 then some (some n, rest) else none

/-- Read the bounds of a repetition from after its opening brace. -/
def boundsAt (f : Flags) (s : List Char) : Option (Nat × Option Nat × Rest s) :=
  let t := f.skip s
  match countAt f t.1 with
  | none => none
  | some (least, u) =>
    have hu : u.1.length ≤ s.length := Nat.le_trans u.2 t.2
    match h : u.1 with
    | '\x7d' :: cs =>
      have lt : cs.length < s.length := by simp only [h, List.length_cons] at hu; omega
      least.map fun n => (n, some n, ⟨cs, lt⟩)
    | ',' :: cs =>
      have lt : cs.length < s.length := by simp only [h, List.length_cons] at hu; omega
      let v := f.skip cs
      have hv : v.1.length ≤ cs.length := f.length_skip_le cs
      match h' : v.1 with
      | '\x7d' :: ds =>
        have lt' : ds.length < s.length := by simp only [h', List.length_cons] at hv; omega
        least.map fun n => (n, none, ⟨ds, lt'⟩)
      | _ =>
        match countAt f v.1 with
        | some (some most, ⟨'\x7d' :: es, hw⟩) =>
          have lt' : es.length < s.length := by simp only [List.length_cons] at hw; omega
          least.bind fun n => if n ≤ most then some (n, some most, ⟨es, lt'⟩) else none
        | _ => none
    | _ => none

/-- How a repetition repeats: its bounds, and whether it is greedy. -/
structure Repetition where
  min : Nat
  max : Option Nat
  greedy : Bool

/-- The bounds that a repetition mark stands for. -/
def markBounds? : Char → Option (Nat × Option Nat)
  | '?' => some (0, some 1)
  | '*' => some (0, none)
  | '+' => some (1, none)
  | _ => none

/-- Read the mark or the braces of a repetition. -/
def repetitionAt (f : Flags) : (s : List Char) → Option (Repetition × Rest s)
  | [] => none
  | '\x7b' :: s =>
    match boundsAt f s with
    | none => none
    | some (min, max, r) =>
      let t := f.skip r.1
      let (greedy, u) := greedyAt t.1
      some (⟨min, max, greedy⟩, ((r.tail t).tail u).cons '\x7b')
  | c :: s =>
    (markBounds? c).map fun (min, max) =>
      let (greedy, t) := greedyAt s
      (⟨min, max, greedy⟩, t.cons c)

/-- Whether a repetition starts with the character. -/
def startsRepetition (c : Char) : Bool := c == '?' || c == '*' || c == '+' || c == '\x7b'

end UserDirectory.Regex
