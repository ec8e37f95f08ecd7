import UserDirectory.Regex.NamedSet

/-!
# UserDirectory — escapes in regular expressions

What may follow a backslash. Regular expressions are read in lower case, so the escapes that are
capital letters do not occur.
-/

namespace UserDirectory.Regex

open Text

/-- What a single character or an escape stands for. -/
inductive Primitive where
  | literal (c : Char)
  | set (s : CharSet)
  | assertion (a : Assertion)

/-- The value of a hexadecimal digit. -/
def hexValue? (c : Char) : Option Nat :=
  if '0' ≤ c ∧ c ≤ '9' then some (c.toNat - 0x30)
  else if 'a' ≤ c ∧ c ≤ 'f' then some (c.toNat - 0x61 + 10)
  else none

/-- The character with the given code point. -/
def charOfCode? (n : Nat) : Option Char :=
  if n.isValidChar then some (Char.ofNat n) else none

/-- Read exactly `count` hexadecimal digits. -/
def hexDigits (f : Flags) (value : Nat) : Nat → (s : List Char) → Option (Nat × Tail s)
  | 0, s => some (value, .whole s)
  | count + 1, s =>
    match s with
    | [] => none
    | c :: s =>
      match hexValue? c with
      | none => none
      | some d =>
        let t := f.skip s
        match hexDigits f (value * 16 + d) count t.1 with
        | none => none
        | some (n, r) => some (n, ((t.trans r).cons c).toTail)

/-- Read up to a closing brace, which is read too. -/
def untilBrace (f : Flags) (s : List Char) : Option (List Char × Rest s) :=
  match f.skip s with
  | ⟨[], _⟩ => none
  | ⟨c :: cs, h⟩ =>
    have lt : cs.length < s.length := Nat.lt_of_succ_le h
    if c = '\x7d' then some ([], ⟨cs, lt⟩)
    else (untilBrace f cs).map fun (inside, r) => (c :: inside, .trans ⟨cs, lt⟩ r)
termination_by s.length
decreasing_by exact lt

/-- Read the code point of a character after `\x` or `\u`: `count` digits, or any number of them
in braces. -/
def hexEscape (f : Flags) (count : Nat) (s : List Char) : Option (Char × Tail s) :=
  let t := f.skip s
  have ht : t.1.length ≤ s.length := f.length_skip_le s
  match h : t.1 with
  | '\x7b' :: cs =>
    match untilBrace f cs with
    | none => none
    | some (digits, r) =>
      match digits.mapM hexValue? with
      | none | some [] => none
      | some values =>
        let u := f.skip r.1
        have le : u.1.length ≤ s.length := by
          have h1 := u.2
          have h2 := r.2
          simp only [h, List.length_cons] at ht
          omega
        match charOfCode? (values.foldl (fun n d => n * 16 + d) 0) with
        | none => none
        | some c => some (c, ⟨u.1, le⟩)
  | _ =>
    match hexDigits f 0 count t.1 with
    | none => none
    | some (n, r) => (charOfCode? n).map fun c => (c, t.trans r)

/-- Read the property after `\p`: one letter, or a name in braces. -/
def propertyEscape (f : Flags) (s : List Char) : Option (CharSet × Tail s) :=
  if !f.unicode then none
  else
    match f.skip s with
    | ⟨[], _⟩ => none
    | ⟨'\x7b' :: cs, h⟩ =>
      match untilBrace f cs with
      | none => none
      | some (inside, r) =>
        (propertySet? inside).map fun (ranges, negated) =>
          let cls := f.fold (CharSet.normalise ⟨ranges⟩)
          (if negated then cls.complement f.top else cls,
            ⟨r.1, Nat.le_trans (Nat.le_of_lt r.2) (Nat.le_trans (Nat.le_succ _) h)⟩)
    | ⟨c :: cs, h⟩ =>
      if c = '\\' then none
      else
        let u := f.skip cs
        (namedSet? [c]).map fun ranges =>
          (f.fold (CharSet.normalise ⟨ranges⟩),
            ⟨u.1, Nat.le_trans u.2 (Nat.le_trans (Nat.le_succ _) h)⟩)

/-- Read the letters of a kind of word boundary. -/
def boundaryName (f : Flags) (s : List Char) : List Char × Tail s :=
  match s with
  | [] => ([], .whole [])
  | c :: cs =>
    if ('a' ≤ c ∧ c ≤ 'z') ∨ c = '-' then
      let t := f.skip cs
      have : t.1.length < (c :: cs).length := Nat.lt_succ_of_le t.2
      let (name, r) := boundaryName f t.1
      (c :: name, ⟨r.1, Nat.le_trans r.2 (Nat.le_of_lt this)⟩)
    else ([], .whole (c :: cs))
termination_by s.length
decreasing_by exact this

/-- Read what follows `\b`: the kind of boundary in braces. Braces with anything but letters in
front are left for a repetition. -/
def boundaryEscape (f : Flags) (s : List Char) : Option (WordEdge × Tail s) :=
  match s with
  | '\x7b' :: cs =>
    let t := f.skip cs
    match t.1 with
    | [] => none
    | c :: _ =>
      if !(('a' ≤ c ∧ c ≤ 'z') ∨ c = '-') then some (.either, .whole _)
      else
        match boundaryName f t.1 with
        | (name, ⟨'\x7d' :: rest, h⟩) =>
          have lt : rest.length ≤ ('\x7b' :: cs).length := by
            have := t.2
            simp only [List.length_cons] at h ⊢
            omega
          match String.ofList name with
          | "start" => some (.start, ⟨rest, lt⟩)
          | "end" => some (.«end», ⟨rest, lt⟩)
          | "start-half" => some (.startHalf, ⟨rest, lt⟩)
          | "end-half" => some (.endHalf, ⟨rest, lt⟩)
          | _ => none
        | _ => none
  | s => some (.either, .whole s)

/-- Whether a backslash before the character makes it stand for itself: ASCII characters other
than letters, digits and angle brackets. -/
def isEscapable (c : Char) : Bool :=
  c.toNat < 0x80 && !c.isAlphanum && c != '<' && c != '>'

/-- A character that an escape stands for. Outside of Unicode, a code of two digits is a byte, and
only ASCII bytes are characters. -/
def codeLiteral (f : Flags) (isByte : Bool) (c : Char) : Option Primitive :=
  if !f.unicode && isByte && 0x7F < c.toNat then none else some (.literal c)

/-- Read what follows a backslash. -/
def escapeAt (f : Flags) : (s : List Char) → Option (Primitive × Rest s)
  | [] => none
  | c :: s =>
    let here (p : Primitive) : Option (Primitive × Rest (c :: s)) := some (p, (Tail.whole s).cons c)
    match c with
    | 'x' =>
      match hexEscape f 2 s with
      | none => none
      | some (d, t) =>
        let isByte := (f.skip s).1.head? != some '\x7b'
        (codeLiteral f isByte d).map fun p => (p, t.cons 'x')
    | 'u' => (hexEscape f 4 s).map fun (d, t) => (.literal d, t.cons 'u')
    | 'p' => (propertyEscape f s).map fun (cls, t) => (.set cls, t.cons 'p')
    | 'd' => here (.set (digitSet f))
    | 's' => here (.set (spaceSet f))
    | 'w' => here (.set (wordClass f))
    | 'a' => here (.literal '\x07')
    | 'f' => here (.literal '\x0c')
    | 't' => here (.literal '\t')
    | 'n' => here (.literal '\n')
    | 'r' => here (.literal '\r')
    | 'v' => here (.literal '\x0b')
    | 'z' => here (.assertion .textEnd)
    | 'b' => (boundaryEscape f s).map fun (edge, t) =>
        (.assertion (.word edge (!f.unicode)), t.cons 'b')
    | '<' => here (.assertion (.word .start (!f.unicode)))
    | '>' => here (.assertion (.word .«end» (!f.unicode)))
    | c => if isEscapable c then here (.literal c) else none

end UserDirectory.Regex
