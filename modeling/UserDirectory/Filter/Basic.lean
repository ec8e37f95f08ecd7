import UserDirectory.Entry
import UserDirectory.Pattern

/-!
# UserDirectory — filters

A filter is a tree of equalities joined by conjunction, disjunction and negation. Its text has the
attribute and the pattern in lower case and no blanks: `(&(uid=person*)(!(objectclass=disabled)))`.

Evaluation has an answer for every filter and every entry; a conjunction without members holds of all
entries and a disjunction without members of none.
-/

namespace UserDirectory

open Text

/-- A search filter. -/
inductive Filter where
  /-- Some value of the attribute matches the pattern. -/
  | equality (name : String) (pattern : Pattern)
  /-- Every member matches. -/
  | conjunction (members : List Filter)
  /-- Some member matches. -/
  | disjunction (members : List Filter)
  /-- The member does not match. -/
  | negation (member : Filter)

namespace Filter

mutual

/-- Filters are equal when their trees are. -/
def decEq : (f g : Filter) → Decidable (f = g)
  | .equality n p, .equality m q =>
    if h : n = m ∧ p = q then isTrue (by rw [h.1, h.2])
    else isFalse fun e => h (Filter.equality.inj e)
  | .conjunction fs, .conjunction gs =>
    match decEqAll fs gs with
    | isTrue h => isTrue (by rw [h])
    | isFalse h => isFalse fun e => h (Filter.conjunction.inj e)
  | .disjunction fs, .disjunction gs =>
    match decEqAll fs gs with
    | isTrue h => isTrue (by rw [h])
    | isFalse h => isFalse fun e => h (Filter.disjunction.inj e)
  | .negation f, .negation g =>
    match decEq f g with
    | isTrue h => isTrue (by rw [h])
    | isFalse h => isFalse fun e => h (Filter.negation.inj e)
  | .equality .., .conjunction _ => isFalse nofun
  | .equality .., .disjunction _ => isFalse nofun
  | .equality .., .negation _ => isFalse nofun
  | .conjunction _, .equality .. => isFalse nofun
  | .conjunction _, .disjunction _ => isFalse nofun
  | .conjunction _, .negation _ => isFalse nofun
  | .disjunction _, .equality .. => isFalse nofun
  | .disjunction _, .conjunction _ => isFalse nofun
  | .disjunction _, .negation _ => isFalse nofun
  | .negation _, .equality .. => isFalse nofun
  | .negation _, .conjunction _ => isFalse nofun
  | .negation _, .disjunction _ => isFalse nofun

/-- Lists of filters are equal when they agree member by member. -/
def decEqAll : (fs gs : List Filter) → Decidable (fs = gs)
  | [], [] => isTrue rfl
  | [], _ :: _ => isFalse nofun
  | _ :: _, [] => isFalse nofun
  | f :: fs, g :: gs =>
    match decEq f g, decEqAll fs gs with
    | isTrue h, isTrue hs => isTrue (by rw [h, hs])
    | isFalse h, _ => isFalse fun e => h (List.cons.inj e).1
    | _, isFalse h => isFalse fun e => h (List.cons.inj e).2

end

instance : DecidableEq Filter := decEq

/-- The equality of an attribute and a pattern, both brought to lower case. -/
def equals (name pattern : String) : Filter :=
  .equality (lowerCase name) (.ofText pattern)

-- ---------------------------------------------------------------------------
-- Text
-- ---------------------------------------------------------------------------

mutual

/-- The text of a filter, as characters. -/
def chars : Filter → List Char
  | .equality name pattern =>
    '(' :: (name.toList ++ '=' :: (pattern.source.toList ++ [')']))
  | .conjunction members => '(' :: '&' :: (charsOfAll members ++ [')'])
  | .disjunction members => '(' :: '|' :: (charsOfAll members ++ [')'])
  | .negation member => '(' :: '!' :: (chars member ++ [')'])

/-- The texts of the filters, one after the other. -/
def charsOfAll : List Filter → List Char
  | [] => []
  | f :: fs => chars f ++ charsOfAll fs

end

/-- The text of a filter. -/
def render (f : Filter) : String := String.ofList f.chars

-- ---------------------------------------------------------------------------
-- Evaluation
-- ---------------------------------------------------------------------------

mutual

/-- Whether the filter finds the entry. -/
def evaluate (e : Entry) : Filter → Bool
  | .equality name pattern => (e.values name).any pattern.matcher.accepts
  | .conjunction members => evaluateAll e members
  | .disjunction members => evaluateAny e members
  | .negation member => !evaluate e member

/-- Whether every one of the filters finds the entry. -/
def evaluateAll (e : Entry) : List Filter → Bool
  | [] => true
  | f :: fs => evaluate e f && evaluateAll e fs

/-- Whether some one of the filters finds the entry. -/
def evaluateAny (e : Entry) : List Filter → Bool
  | [] => false
  | f :: fs => evaluate e f || evaluateAny e fs

end

end Filter

end UserDirectory
