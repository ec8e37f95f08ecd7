import UserDirectory.Regex.Matching
import UserDirectory.Regex.Reader
import UserDirectory.Text.LowerCase

/-!
# UserDirectory — patterns

A pattern is the value side of an equality. It is kept in lower case, and two patterns are equal
when their texts are.

It is a regular expression in which a dot stands for itself and a star for any stretch of a line. It
accepts a value in which it occurs anywhere, without regard to letter case. A pattern that is no
regular expression accepts nothing, and one of stars alone accepts all values but the empty one.
-/

namespace UserDirectory

open Text

/-- The text of a pattern, in lower case. -/
structure Pattern where
  source : String
  lowerCase_source : lowerCase source = source
  deriving DecidableEq

/-- The pattern with the given text, which is brought to lower case. -/
def Pattern.ofText (text : String) : Pattern := ⟨lowerCase text, lowerCase_lowerCase text⟩

theorem Pattern.ext_source {p q : Pattern} (h : p.source = q.source) : p = q := by
  cases p
  cases q
  cases h
  rfl

-- ---------------------------------------------------------------------------
-- Which values a pattern accepts
-- ---------------------------------------------------------------------------

namespace Pattern

/-- The regular expression that a pattern stands for: a backslash before each dot and a dot before
each star. -/
def expand : List Char → List Char
  | [] => []
  | '.' :: cs => '\\' :: '.' :: expand cs
  | '*' :: cs => '.' :: '*' :: expand cs
  | c :: cs => c :: expand cs

/-- A pattern that is ready to be compared with values. -/
structure Matcher where
  /-- None for a pattern that accepts nothing. -/
  regex? : Option Regex
  /-- Whether the empty value is refused. -/
  presence : Bool

/-- The pattern, ready to be compared with values. -/
def matcher (p : Pattern) : Matcher :=
  let cs := p.source.toList
  ⟨Regex.ofText? (expand cs), !cs.isEmpty && cs.all (· == '*')⟩

/-- Whether the value is accepted. -/
def Matcher.accepts (m : Matcher) (value : String) : Bool :=
  match m.regex? with
  | none => false
  | some r => !(m.presence && value.isEmpty) && r.isMatch (lowerChars value.toList)

/-- Whether the pattern accepts the value. -/
def accepts (p : Pattern) (value : String) : Bool := p.matcher.accepts value

end Pattern

end UserDirectory
