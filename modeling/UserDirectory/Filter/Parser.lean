import UserDirectory.Filter.Basic
import UserDirectory.Text.Basic

/-!
# UserDirectory — reading filters

A filter is read from the front of a text. Its first two characters decide what it is: `(&`, `(|`
and `(!` open a conjunction, a disjunction and a negation, and any other `(` an equality. An
equality ends at the first `)`, and the reader of a conjunction or disjunction goes on until it
finds a `)` where a member could start.

Readers return what is left of the text together with a proof that it is shorter, which is why
they end. Conjunctions, disjunctions and negations may be nested `maxDepth` deep; `depth` counts
those that are open.

A filter is refused because the reader was sent to a place that is not in the text, or because the
text there is not of the kind that the reader was looking for.
-/

namespace UserDirectory

/-- The kind of filter that a reader looks for. -/
inductive Condition where
  /-- A filter of any kind. -/
  | any
  /-- An equality, `(attribute=pattern)`. -/
  | equality
  /-- A conjunction, `(&...)`. -/
  | conjunction
  /-- A disjunction, `(|...)`. -/
  | disjunction
  /-- A negation, `(!...)`. -/
  | negation
  deriving DecidableEq, Repr

/-- The name that messages use; a filter of any kind has none. -/
def Condition.name : Condition → String
  | .any => ""
  | .equality => "equals"
  | .conjunction => "and"
  | .disjunction => "or"
  | .negation => "not"

/-- Why a filter could not be read. -/
inductive FilterError where
  /-- The place to start at is not between two characters of the expression, which takes `length`
  bytes. -/
  | badOffset (offset : Int) (length : Nat)
  /-- The text is not a filter of the kind that was looked for. -/
  | notA (expected : Condition)
  deriving DecidableEq, Repr

/-- The message for a user. -/
def FilterError.message : FilterError → String
  | .badOffset offset length =>
    "the provided offset (" ++ toString offset ++
      ") is not valid for the length of this expression (" ++ toString length ++ ")"
  | .notA .any => "the provided expression is not a valid condition"
  | .notA kind => "the provided expression is not a valid '" ++ kind.name ++ "' condition"

namespace Filter

open Text

/-- How many conjunctions, disjunctions and negations may be open at once. -/
def maxDepth : Nat := 128

/-- The connective of several members. -/
inductive Connective where
  | all
  | some
  deriving DecidableEq, Repr

namespace Connective

/-- The character after the opening parenthesis. -/
def symbol : Connective → Char
  | .all => '&'
  | .some => '|'

/-- The kind of filter that the connective makes. -/
def condition : Connective → Condition
  | .all => .conjunction
  | .some => .disjunction

/-- The filter with the given members. -/
def join : Connective → List Filter → Filter
  | .all, fs => .conjunction fs
  | .some, fs => .disjunction fs

end Connective

-- ---------------------------------------------------------------------------
-- Reading from the front of a text
-- ---------------------------------------------------------------------------

/-- Split the inside of an equality at its first `=`. There is none in a text with an opening
parenthesis, without `=`, or with nothing before it. -/
def splitAssertion (inside : List Char) : Option (List Char × List Char) :=
  if '(' ∈ inside then none
  else
    match inside.span (· != '=') with
    | ([], _) => none
    | (name, '=' :: pattern) => some (name, pattern)
    | (_, _) => none

/-- What is left of a text after its first `)`, and what stands before it. -/
def untilClose : (s : List Char) → Option (List Char × Rest s)
  | [] => none
  | ')' :: s => some ([], ⟨s, Nat.lt_succ_self _⟩)
  | c :: s => (untilClose s).map fun (inside, r) => (c :: inside, r.cons c)

/-- Read an equality. -/
def equalityAt : (s : List Char) → Except Condition (Filter × Rest s)
  | '(' :: s =>
    match untilClose s with
    | none => .error .equality
    | some (inside, r) =>
      match splitAssertion inside with
      | none => .error .equality
      | some (name, pattern) =>
        .ok (equals (String.ofList name) (String.ofList pattern), r.cons '(')
  | _ => .error .equality

mutual

/-- Read a filter of any kind. -/
def filterAt (depth : Nat) (s : List Char) : Except Condition (Filter × Rest s) :=
  match s with
  | '(' :: '&' :: body => groupAt .all depth ('(' :: '&' :: body)
  | '(' :: '|' :: body => groupAt .some depth ('(' :: '|' :: body)
  | '(' :: '!' :: body => negationAt depth ('(' :: '!' :: body)
  | '(' :: body => equalityAt ('(' :: body)
  | _ => .error .any
termination_by 4 * s.length + 2

/-- Read a conjunction or disjunction. -/
def groupAt (k : Connective) (depth : Nat) (s : List Char) : Except Condition (Filter × Rest s) :=
  match s with
  | '(' :: o :: body =>
    if o ≠ k.symbol then .error k.condition
    else if maxDepth ≤ depth then .error k.condition
    else do
      let (members, r) ← membersAt k (depth + 1) body
      if members.isEmpty then throw k.condition
      return (k.join members, (r.cons o).cons '(')
  | _ => .error k.condition
termination_by 4 * s.length + 1

/-- Read members up to the closing parenthesis, which is read too. -/
def membersAt (k : Connective) (depth : Nat) (s : List Char) :
    Except Condition (List Filter × Rest s) :=
  match s with
  | [] => .error k.condition
  | ')' :: rest => .ok ([], ⟨rest, Nat.lt_succ_self _⟩)
  | c :: cs => do
    let (member, r) ← filterAt depth (c :: cs)
    let (members, q) ← membersAt k depth r.1
    return (member :: members, r.trans q)
termination_by 4 * s.length + 3
decreasing_by
  · omega
  · have := r.2
    simp only [List.length_cons] at *
    omega

/-- Read a negation. -/
def negationAt (depth : Nat) (s : List Char) : Except Condition (Filter × Rest s) :=
  match s with
  | '(' :: '!' :: body =>
    if maxDepth ≤ depth then .error .negation
    else do
      let (member, r) ← filterAt (depth + 1) body
      match hr : r.1 with
      | ')' :: rest =>
        return (.negation member,
          ⟨rest, by have := r.2; simp only [hr, List.length_cons] at this ⊢; omega⟩)
      | _ => throw .negation
  | _ => .error .negation
termination_by 4 * s.length + 1

end

-- ---------------------------------------------------------------------------
-- Reading from an offset
-- ---------------------------------------------------------------------------

/-- The reader of the given kind of filter. -/
def readerOf : Condition → (s : List Char) → Except Condition (Filter × Rest s)
  | .any => filterAt 0
  | .equality => equalityAt
  | .conjunction => groupAt .all 0
  | .disjunction => groupAt .some 0
  | .negation => negationAt 0

/-- Where in an expression an offset points to, as the text from there on. -/
def startAt (expression : List Char) (offset : Int) : Option (List Char) :=
  match offset with
  | .ofNat n => suffixAt expression n
  | .negSucc _ => none

/-- Read a filter of the given kind that starts at `offset`. The answer tells where the filter
ends. Offsets are in bytes. -/
def parseAt (kind : Condition) (expression : String) (offset : Int) :
    Except FilterError (Filter × Nat) :=
  let cs := expression.toList
  match startAt cs offset with
  | none => .error (.badOffset offset (byteLength cs))
  | some s =>
    match readerOf kind s with
    | .error c => .error (.notA c)
    | .ok (f, r) => .ok (f, byteLength cs - byteLength r.1)

/-- Read a filter that makes up the whole text, but for blanks around it. -/
def parse (text : String) : Except FilterError Filter :=
  match filterAt 0 (trimChars text.toList) with
  | .error c => .error (.notA c)
  | .ok (f, ⟨[], _⟩) => .ok f
  | .ok (_, ⟨_ :: _, _⟩) => .error (.notA .any)

end Filter

end UserDirectory
