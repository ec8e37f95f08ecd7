import UserDirectory.Regex.Flags
import UserDirectory.Text.Property

/-!
# UserDirectory — groups in regular expressions

What may follow an opening parenthesis: the name of a group, or flags, for the group alone or up to
its end.
-/

namespace UserDirectory.Regex

open Text

/-- A letter in the sense of group names. -/
def isNameStart (c : Char) : Bool :=
  c == '_' || (namedSet? "alphabetic".toList).any (fun ranges => (CharSet.mk ranges).contains c) ||
    (CharSet.mk (decodeEdges laterLetterEdges)).contains c

/-- A character that may stand in a group name. -/
def isNameChar (c : Char) : Bool :=
  isNameStart c || c == '.' || c == '[' || c == ']' ||
    (categorySet? "n").any (fun ranges => (CharSet.mk ranges).contains c) ||
    (CharSet.mk (decodeEdges laterNumberEdges)).contains c

/-- Read a group name and the angle bracket after it. -/
def groupName (first : Bool) : (s : List Char) → Option (List Char × Rest s)
  | [] => none
  | '>' :: s => if first then none else some ([], (Tail.whole s).cons '>')
  | c :: s =>
    if if first then isNameStart c else isNameChar c then
      (groupName false s).map fun (name, r) => (c :: name, r.cons c)
    else none

/-- Where a list of flags ends. -/
inductive FlagsEnd where
  /-- At a parenthesis: the flags hold from here on. -/
  | close
  /-- At a colon: the flags hold for a group that starts here. -/
  | colon

/-- Read flags up to the mark that ends them. `seen` are those read so far, `negated` tells whether
a hyphen has been read, and `dangling` whether it was the last thing read. -/
def flagsAt (seen : List Flag) (negated dangling : Bool) (f : Flags) :
    (s : List Char) → Option (Flags × Bool × FlagsEnd × Rest s)
  | [] => none
  | ')' :: s => if dangling then none else some (f, seen.isEmpty, .close, (Tail.whole s).cons ')')
  | ':' :: s => if dangling then none else some (f, seen.isEmpty, .colon, (Tail.whole s).cons ':')
  | '-' :: s =>
    if negated then none
    else (flagsAt seen true true f s).map fun (g, e, k, r) => (g, e, k, r.cons '-')
  | c :: s =>
    match Flag.ofChar? c with
    | none => none
    | some flag =>
      if flag ∈ seen then none
      else
        (flagsAt (flag :: seen) negated false (f.put flag (!negated)) s).map fun (g, e, k, r) =>
          (g, e, k, r.cons c)

/-- What an opening parenthesis opens. -/
inductive Opening where
  /-- A change of flags. -/
  | flags (f : Flags)
  /-- A group, which may be numbered and have a name. -/
  | group (f : Flags) (numbered : Bool) (name : Option (List Char))

/-- Read what follows an opening parenthesis, up to where the inside of the group starts. -/
def openGroup (f : Flags) (s : List Char) : Option (Opening × Tail s) :=
  match f.skip s with
  | ⟨'?' :: '=' :: _, _⟩ => none
  | ⟨'?' :: '!' :: _, _⟩ => none
  | ⟨'?' :: '<' :: cs, h⟩ =>
    match groupName true cs with
    | none => none
    | some (name, r) =>
      some (.group f true (some name), ⟨r.1, by have := r.2; simp only [List.length_cons] at h; omega⟩)
  | ⟨'?' :: cs, h⟩ =>
    match flagsAt [] false false f cs with
    | none => none
    | some (g, none?, .close, r) =>
      if none? then none
      else some (.flags g, ⟨r.1, by have := r.2; simp only [List.length_cons] at h; omega⟩)
    | some (g, _, .colon, r) =>
      some (.group g false none, ⟨r.1, by have := r.2; simp only [List.length_cons] at h; omega⟩)
  | t => some (.group f true none, t)

end UserDirectory.Regex
