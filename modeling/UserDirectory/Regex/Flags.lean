import UserDirectory.Regex.CharSet
import UserDirectory.Text.Basic

/-!
# UserDirectory — flags of regular expressions

Flags (`(?i)`, `(?m)`, `(?s)`, `(?u)`, `(?x)`) say how the text behind them is to be read. Readers
are given the text from the current character on and say what is left of it.
-/

namespace UserDirectory.Regex

open Text

/-- How the text that follows is to be read. -/
structure Flags where
  /-- `i`: letters match in either case. -/
  caseless : Bool := false
  /-- `m`: `^` and `$` match at line breaks too. -/
  multiline : Bool := false
  /-- `s`: `.` matches a line break too. -/
  dotAll : Bool := false
  /-- `u`: classes are those of Unicode rather than ASCII. -/
  unicode : Bool := true
  /-- `x`: blanks and comments are passed over. -/
  verbose : Bool := false

/-- A flag letter. -/
inductive Flag where
  | caseless
  | multiline
  | dotAll
  | unicode
  | verbose
  deriving DecidableEq

def Flag.ofChar? : Char → Option Flag
  | 'i' => some .caseless
  | 'm' => some .multiline
  | 's' => some .dotAll
  | 'u' => some .unicode
  | 'x' => some .verbose
  | _ => none

def Flags.put (f : Flags) : Flag → Bool → Flags
  | .caseless, b => { f with caseless := b }
  | .multiline, b => { f with multiline := b }
  | .dotAll, b => { f with dotAll := b }
  | .unicode, b => { f with unicode := b }
  | .verbose, b => { f with verbose := b }

/-- Pass over blanks and comments, up to the end of a comment first if `comment` is set. -/
def skipBlanks (comment : Bool) : (s : List Char) → Tail s
  | [] => .whole []
  | c :: s =>
    if comment then ((skipBlanks (c != '\n') s).cons c).toTail
    else if isBlank c then ((skipBlanks false s).cons c).toTail
    else if c = '#' then ((skipBlanks true s).cons c).toTail
    else .whole (c :: s)

/-- Pass over blanks and comments where the flags say so. -/
def Flags.skip (f : Flags) (s : List Char) : Tail s :=
  if f.verbose then skipBlanks false s else .whole s

theorem Flags.length_skip_le (f : Flags) (s : List Char) : (f.skip s).1.length ≤ s.length :=
  (f.skip s).2

/-- The set with what the flags add to it. -/
def Flags.fold (f : Flags) (s : CharSet) : CharSet :=
  if !f.caseless then s else if f.unicode then s.foldCase else s.foldAsciiCase

/-- The greatest code point of a class. -/
def Flags.top (f : Flags) : Nat := if f.unicode then CharSet.maxCode else 0xFF

/-- Whether a class may be the given set: outside of Unicode only ASCII characters may belong to
it. -/
def Flags.admits (f : Flags) (s : CharSet) : Bool := f.unicode || s.isAscii

/-- The character that decides whether a hyphen before `s` makes a range. Blanks are passed over
where the flags say so, and so is one mark of a comment, but neither the comment itself nor its
end. -/
def Flags.afterHyphen? (f : Flags) (s : List Char) : Option Char :=
  if f.verbose then (seen false s).or s.head? else s.head?
where
  /-- The first character that is not passed over. -/
  seen (marked : Bool) : List Char → Option Char
    | [] => none
    | c :: cs =>
      if isBlank c then seen marked cs
      else if c = '#' && !marked then seen true cs
      else some c

end UserDirectory.Regex
