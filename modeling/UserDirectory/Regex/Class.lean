import UserDirectory.Regex.Escape

/-!
# UserDirectory — character classes in regular expressions

Classes in brackets. Their members are characters, ranges, escapes, named classes and classes in
brackets of their own; operators between parts of a class are intersection `&&`, difference `--` and
symmetric difference `~~`, all of which bind alike and from left to right.
-/

namespace UserDirectory.Regex

open Text

/-- A part of a class: its set, and how deeply it is nested. -/
structure ClassPart where
  set : CharSet
  depth : Nat

/-- The members of a class that have been read since the last operator. -/
structure ClassUnion where
  set : CharSet := .empty
  count : Nat := 0
  depth : Nat := 0

def ClassUnion.add (u : ClassUnion) (p : ClassPart) : ClassUnion :=
  ⟨⟨u.set.ranges ++ p.set.ranges⟩, u.count + 1, max u.depth p.depth⟩

/-- The members as one part. -/
def ClassUnion.part (u : ClassUnion) : ClassPart :=
  ⟨u.set.normalise, if u.count ≤ 1 then u.depth else u.depth + 1⟩

/-- An operator between parts of a class. -/
inductive ClassOp where
  | inter
  | diff
  | symmDiff

/-- The part that the operator makes of two. -/
def ClassOp.join (f : Flags) (op : ClassOp) (l r : ClassPart) : ClassPart :=
  let a := f.fold l.set
  let b := f.fold r.set
  let joined := match op with
    | .inter => a.inter b
    | .diff => a.diff b
    | .symmDiff => a.symmDiff b
  ⟨joined, max l.depth r.depth + 1⟩

/-- The part that ends here, joined with the one before the operator, if there was one. -/
def joinPending (f : Flags) (pending : Option (ClassOp × ClassPart)) (u : ClassUnion) : ClassPart :=
  match pending with
  | none => u.part
  | some (op, l) => op.join f l u.part

/-- A whole class in brackets, where the flags admit it. -/
def closeClass (f : Flags) (negated : Bool) (p : ClassPart) : Option ClassPart :=
  let folded := f.fold p.set
  let cls := if negated then folded.complement f.top else folded
  if f.admits cls then some ⟨cls, p.depth + 1⟩ else none

/-- The one character of a primitive. Outside of Unicode it must be ASCII. -/
def Primitive.classLiteral? (f : Flags) : Primitive → Option Char
  | .literal c => if !f.unicode && 0x7F < c.toNat then none else some c
  | _ => none

/-- The set of a primitive in a class. -/
def Primitive.classSet? (f : Flags) : Primitive → Option CharSet
  | .set s => some s
  | .assertion _ => none
  | p => (p.classLiteral? f).map .single

/-- Read a name of letters up to the mark that follows it. -/
def asciiName : (s : List Char) → Option (List Char × Rest s)
  | [] => none
  | ':' :: ']' :: s => some ([], ⟨s, by simp only [List.length_cons]; omega⟩)
  | ':' :: _ => none
  | c :: s => (asciiName s).map fun (name, r) => (c :: name, r.cons c)

/-- Read a named class from after its opening bracket. -/
def asciiClassAt (f : Flags) : (s : List Char) → Option (CharSet × Rest s)
  | ':' :: '^' :: s =>
    match asciiName s with
    | none => none
    | some (name, r) =>
      (asciiClass? name).map fun cls => ((f.fold cls).complement f.top, (r.cons '^').cons ':')
  | ':' :: s =>
    match asciiName s with
    | none => none
    | some (name, r) => (asciiClass? name).map fun cls => (f.fold cls, r.cons ':')
  | _ => none

/-- Read one character or escape of a class. -/
def classPrimitive (f : Flags) : (s : List Char) → Option (Primitive × Rest s)
  | [] => none
  | '\\' :: s => (escapeAt f s).map fun (p, r) => (p, r.cons '\\')
  | c :: s => some (.literal c, (Tail.whole s).cons c)

/-- Read one member of a class: a character, an escape, or a range. -/
def classMember (f : Flags) (s : List Char) : Option (CharSet × Rest s) :=
  match classPrimitive f s with
  | none => none
  | some (first, r) =>
    let t := f.skip r.1
    let alone : Option (CharSet × Rest s) := (first.classSet? f).map fun cls => (cls, r.tail t)
    match h : t.1 with
    | [] => none
    | '-' :: cs =>
      match f.afterHyphen? cs with
      | some ']' => alone
      | some '-' => alone
      | _ =>
        let u := f.skip cs
        match classPrimitive f u.1 with
        | none => none
        | some (last, q) =>
          match first.classLiteral? f, last.classLiteral? f with
          | some a, some b =>
            if b < a then none
            else
              have lt : q.1.length < s.length := by
                have h1 := q.2
                have h2 := u.2
                have h3 := t.2
                have h4 := r.2
                simp only [h, List.length_cons] at h3
                omega
              some (.range a.toNat b.toNat, ⟨q.1, lt⟩)
          | _, _ => none
    | _ => alone

/-- Read the hyphens at the start of a class, which stand for themselves. -/
def leadingHyphens (f : Flags) (s : List Char) : Option (Nat × Tail s) :=
  match s with
  | [] => none
  | '-' :: cs =>
    let t := f.skip cs
    have : t.1.length < ('-' :: cs).length := Nat.lt_succ_of_le t.2
    match leadingHyphens f t.1 with
    | none => none
    | some (n, r) => some (n + 1, ⟨r.1, Nat.le_trans r.2 (Nat.le_of_lt this)⟩)
  | c :: cs => some (0, .whole (c :: cs))
termination_by s.length
decreasing_by exact this

/-- Read the opening of a class from after its bracket: whether it is negated, and the hyphens or
the closing bracket that stand for themselves there. -/
def openClass (f : Flags) (s : List Char) : Option (Bool × ClassUnion × Tail s) :=
  let t := f.skip s
  let (negated, (u : Tail t.1)) := match t.1 with
    | '^' :: cs => (true, ((f.skip cs).cons '^').toTail)
    | cs => (false, .whole cs)
  match leadingHyphens f u.1 with
  | none => none
  | some (0, ⟨']' :: cs, h⟩) =>
    let v := f.skip cs
    if v.1.isEmpty then none
    else
      have le : v.1.length ≤ s.length := by
        have h1 := v.2
        have h2 := u.2
        have h3 := t.2
        simp only [List.length_cons] at h
        omega
      some (negated, ClassUnion.add {} ⟨.single ']', 0⟩, ⟨v.1, le⟩)
  | some (n, v) =>
    some (negated, (List.replicate n (⟨.single '-', 0⟩ : ClassPart)).foldl ClassUnion.add {},
      (t.trans u).trans v)

/-- Read an operator between parts of a class. -/
def classOperator : (s : List Char) → Option (ClassOp × Rest s)
  | '&' :: '&' :: s => some (.inter, ⟨s, by simp only [List.length_cons]; omega⟩)
  | '-' :: '-' :: s => some (.diff, ⟨s, by simp only [List.length_cons]; omega⟩)
  | '~' :: '~' :: s => some (.symmDiff, ⟨s, by simp only [List.length_cons]; omega⟩)
  | _ => none

mutual

/-- Read a class from after its opening bracket. -/
def classAt (f : Flags) (s : List Char) : Option (ClassPart × Rest s) :=
  match openClass f s with
  | none => none
  | some (negated, members, t) =>
    match classBody f none members t.1 with
    | none => none
    | some (p, r) => (closeClass f negated p).map fun whole => (whole, .ofTail t r)
termination_by 2 * s.length + 1
decreasing_by exact Nat.lt_succ_of_le (Nat.mul_le_mul_left 2 t.2)

/-- Read the members of a class and its closing bracket. -/
def classBody (f : Flags) (pending : Option (ClassOp × ClassPart)) (members : ClassUnion)
    (s : List Char) : Option (ClassPart × Rest s) :=
  match f.skip s with
  | ⟨[], _⟩ => none
  | ⟨c :: cs, h⟩ =>
    let here : Rest s := ⟨cs, Nat.lt_of_succ_le h⟩
    if c = ']' then some (joinPending f pending members, here)
    else
      match classOperator (c :: cs) with
      | some (op, ⟨r, hr⟩) =>
        have : r.length < s.length := Nat.lt_of_lt_of_le hr h
        match classBody f (some (op, joinPending f pending members)) {} r with
        | none => none
        | some (p, q) => some (p, .trans ⟨r, this⟩ q)
      | none =>
        if c = '[' then
          match asciiClassAt f cs with
          | some (cls, ⟨r, hr⟩) =>
            have : r.length < s.length := Nat.lt_trans hr here.2
            if !f.admits cls then none
            else
              match classBody f pending (members.add ⟨cls, 0⟩) r with
              | none => none
              | some (p, q) => some (p, .trans ⟨r, this⟩ q)
          | none =>
            have : cs.length < s.length := here.2
            match classAt f cs with
            | none => none
            | some (inner, ⟨r, hr⟩) =>
              have : r.length < s.length := Nat.lt_trans hr here.2
              match classBody f pending (members.add inner) r with
              | none => none
              | some (p, q) => some (p, .trans ⟨r, this⟩ q)
        else
          match classMember f (c :: cs) with
          | none => none
          | some (cls, ⟨r, hr⟩) =>
            have : r.length < s.length := Nat.lt_of_lt_of_le hr h
            match classBody f pending (members.add ⟨cls, 0⟩) r with
            | none => none
            | some (p, q) => some (p, .trans ⟨r, this⟩ q)
termination_by 2 * s.length
end

end UserDirectory.Regex
