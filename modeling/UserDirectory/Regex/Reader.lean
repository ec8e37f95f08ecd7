import UserDirectory.Regex.Class
import UserDirectory.Regex.Group
import UserDirectory.Regex.Repetition
import UserDirectory.Regex.Size

/-!
# UserDirectory — reading regular expressions

The written form of regular expressions. It is read in lower case, so the escapes and flags that
are capital letters do not occur. `Regex.ofText?` has no answer for a text that is not an
expression, is nested too deeply, or whose automaton would be too large.

Flags hold up to the end of the group they stand in, across the bars of its alternatives.
-/

namespace UserDirectory.Regex

open Text

/-- An expression that has been read. -/
structure Fragment where
  regex : Regex
  /-- How deeply groups, repetitions and the like are nested in it. -/
  depth : Nat := 0
  /-- The names of the groups in it. -/
  names : List (List Char) := []

/-- A member of a sequence. -/
inductive Item where
  /-- A change of flags, which matches nothing by itself and cannot be repeated. -/
  | flags
  | part (f : Fragment)

/-- How deeply an expression may be nested. -/
def maxNesting : Nat := 250

/-- The expression for a character that stands for itself. -/
def literalRegex (f : Flags) (c : Char) : Regex := .set (f.fold (.single c))

-- ---------------------------------------------------------------------------
-- Sequences and alternatives
-- ---------------------------------------------------------------------------

/-- Repeat the last member of a sequence, which is given backwards. -/
def repeatLast (r : Repetition) : List Item → Option (List Item)
  | .part p :: items =>
    let regex := .rep p.regex r.min r.max r.greedy
    some (.part { p with regex := regex, depth := p.depth + 1 } :: items)
  | _ => none

/-- The expressions of the members, one after the other. -/
def seqAll : List Item → Regex
  | [] => .empty
  | .flags :: items => seqAll items
  | [.part p] => p.regex
  | .part p :: items => .seq p.regex (seqAll items)

/-- One sequence of a body, whose members are given backwards. -/
def closeSeq (items : List Item) : Fragment :=
  let depths := items.map fun
    | .flags => 0
    | .part p => p.depth
  let names := items.flatMap fun
    | .flags => []
    | .part p => p.names
  { regex := seqAll items.reverse
    depth := depths.foldl max 0 + if items.length ≤ 1 then 0 else 1
    names := names }

/-- A body, whose alternatives are given backwards. -/
def closeBody : List Fragment → Fragment
  | [] => { regex := .empty }
  | [p] => p
  | p :: ps =>
    { regex := ps.foldl (fun r q => .alt q.regex r) p.regex
      depth := (ps.map (·.depth)).foldl max p.depth + 1
      names := (p :: ps).flatMap (·.names) }

-- ---------------------------------------------------------------------------
-- Expressions
-- ---------------------------------------------------------------------------

/-- Read what can be repeated, but for groups: a class, an escape or a character. -/
def atomAt (f : Flags) : (s : List Char) → Option (Fragment × Rest s)
  | [] => none
  | '[' :: s =>
    (classAt f s).map fun (p, r) => ({ regex := .set p.set, depth := p.depth }, r.cons '[')
  | '\\' :: s =>
    (escapeAt f s).map fun (p, r) =>
      let regex := match p with
        | .literal c => literalRegex f c
        | .set s => .set s
        | .assertion a => .assertion a
      ({ regex := regex }, r.cons '\\')
  | '.' :: s => (dotSet f).map fun dot => ({ regex := .set dot }, (Tail.whole s).cons '.')
  | '^' :: s =>
    let a : Assertion := if f.multiline then .lineStart else .textStart
    some ({ regex := .assertion a }, (Tail.whole s).cons '^')
  | '$' :: s =>
    let a : Assertion := if f.multiline then .lineEnd else .textEnd
    some ({ regex := .assertion a }, (Tail.whole s).cons '$')
  | c :: s => some ({ regex := literalRegex f c }, (Tail.whole s).cons c)

/-- Read a body: up to a closing parenthesis if `inGroup` is set, and otherwise up to the end.
`branches` and `items` are the alternatives and the members of the current one read so far, both
backwards. -/
def bodyAt (inGroup : Bool) (f : Flags) (branches : List Fragment) (items : List Item)
    (s : List Char) : Option (Fragment × Tail s) :=
  match f.skip s with
  | ⟨[], _⟩ =>
    if inGroup then none else some (closeBody (closeSeq items :: branches), ⟨[], Nat.zero_le _⟩)
  | ⟨c :: cs, h⟩ =>
    have here : cs.length < s.length := Nat.lt_of_succ_le h
    if c = ')' then
      if inGroup then some (closeBody (closeSeq items :: branches), ⟨cs, Nat.le_of_lt here⟩)
      else none
    else if c = '|' then
      match bodyAt inGroup f (closeSeq items :: branches) [] cs with
      | none => none
      | some (p, r) => some (p, .trans ⟨cs, Nat.le_of_lt here⟩ r)
    else if c = '(' then
      match openGroup f cs with
      | none => none
      | some (.flags g, ⟨t, ht⟩) =>
        have lt : t.length < s.length := Nat.lt_of_le_of_lt ht here
        match bodyAt inGroup g branches (.flags :: items) t with
        | none => none
        | some (p, r) => some (p, .trans ⟨t, Nat.le_of_lt lt⟩ r)
      | some (.group g numbered name, ⟨t, ht⟩) =>
        have lt : t.length < s.length := Nat.lt_of_le_of_lt ht here
        match bodyAt true g [] [] t with
        | none => none
        | some (inner, ⟨q, hq⟩) =>
          have lt' : q.length < s.length := Nat.lt_of_le_of_lt hq lt
          let group : Fragment :=
            { regex := .group numbered inner.regex
              depth := inner.depth + 1
              names := name.toList ++ inner.names }
          match bodyAt inGroup f branches (.part group :: items) q with
          | none => none
          | some (p, r) => some (p, .trans ⟨q, Nat.le_of_lt lt'⟩ r)
    else if startsRepetition c then
      match repetitionAt f (c :: cs) with
      | none => none
      | some (repetition, ⟨q, hq⟩) =>
        have lt : q.length < s.length := Nat.lt_of_lt_of_le hq h
        match repeatLast repetition items with
        | none => none
        | some repeated =>
          match bodyAt inGroup f branches repeated q with
          | none => none
          | some (p, r) => some (p, .trans ⟨q, Nat.le_of_lt lt⟩ r)
    else
      match atomAt f (c :: cs) with
      | none => none
      | some (part, ⟨q, hq⟩) =>
        have lt : q.length < s.length := Nat.lt_of_lt_of_le hq h
        match bodyAt inGroup f branches (.part part :: items) q with
        | none => none
        | some (p, r) => some (p, .trans ⟨q, Nat.le_of_lt lt⟩ r)
termination_by s.length

/-- The expression with the given written form. -/
def ofText? (s : List Char) : Option Regex :=
  match bodyAt false {} [] [] s with
  | none => none
  | some (p, _) =>
    if p.depth ≤ maxNesting ∧ p.names.Nodup ∧ p.regex.fits then some p.regex else none

end UserDirectory.Regex
