import UserDirectory.Yaml.Token.Tag

/-!
# UserDirectory — from text to YAML tokens

Tokens are read from left to right. Indentation is kept as a stack of columns: a deeper column opens
a block collection and a shallower one closes those that are deeper.

A key on one line is only known to be one when its colon turns up. Until then the place where it
started is kept as a candidate, and the tokens that belong before it are put in afterwards. A
candidate lapses when its line ends or it grows too long; that is an error where the column leaves
no other choice than a key.
-/

namespace UserDirectory.Yaml

open Cursor

/-- The start of what may turn out to be a key. -/
structure Candidate where
  /-- Whether it has to be a key. -/
  required : Bool
  /-- How many tokens come before it. -/
  token : Nat
  /-- Where it starts. -/
  index : Nat
  line : Nat
  column : Nat

/-- What is known between two tokens. -/
structure Lexer where
  /-- The tokens read so far. -/
  tokens : Array Token := #[]
  /-- The columns of the open block collections, the innermost first. -/
  indents : List Nat := []
  /-- The candidate for a key in each open flow collection, the innermost first. -/
  outer : List (Option Candidate) := []
  /-- The candidate for a key where the reader is. -/
  candidate : Option Candidate := none
  /-- Whether a key on one line may start here. -/
  keyAllowed : Bool := true

/-- The longest key on one line. -/
def maxKeyLength : Nat := 1024

namespace Lexer

/-- Whether the reader is in a flow collection. -/
def inFlow (l : Lexer) : Bool := !l.outer.isEmpty

/-- Add a token. -/
def push (l : Lexer) (t : Token) (keyAllowed : Bool) : Lexer :=
  { l with tokens := l.tokens.push t, keyAllowed := keyAllowed }

/-- Put a token in at an earlier place. -/
def insert (l : Lexer) (place : Nat) (t : Token) : Lexer :=
  { l with tokens := l.tokens.insertIdxIfInBounds place t }

-- ---------------------------------------------------------------------------
-- Candidates for keys
-- ---------------------------------------------------------------------------

/-- Whether the candidate can still become a key. -/
def isAlive (c : Cursor) (k : Candidate) : Bool :=
  k.line == c.line && c.index ≤ k.index + maxKeyLength

/-- The candidate, if it is still alive. There is no answer if it lapses but has to be a key. -/
def refresh (c : Cursor) : Option Candidate → Option (Option Candidate)
  | none => some none
  | some k => if isAlive c k then some (some k) else if k.required then none else some none

/-- Let go of all candidates that are no longer alive. -/
def dropLapsed (l : Lexer) (c : Cursor) : Option Lexer :=
  match refresh c l.candidate, l.outer.mapM (refresh c) with
  | some k, some ks => some { l with candidate := k, outer := ks }
  | _, _ => none

/-- Let go of the candidate where the reader is. -/
def dropCandidate (l : Lexer) : Option Lexer :=
  if l.candidate.any (·.required) then none else some { l with candidate := none }

/-- Keep the place as a candidate for a key, if one may start here. -/
def mark (l : Lexer) (c : Cursor) : Option Lexer :=
  if !l.keyAllowed then some l
  else
    l.dropCandidate.map fun l =>
      let required := !l.inFlow && l.indents.head? == some c.column
      { l with candidate := some ⟨required, l.tokens.size, c.index, c.line, c.column⟩ }

-- ---------------------------------------------------------------------------
-- Indentation
-- ---------------------------------------------------------------------------

/-- Close the block collections that are deeper than `column`, or all if there is none. -/
def closeBlocks (column : Option Nat) : List Nat → Array Token → List Nat × Array Token
  | [], tokens => ([], tokens)
  | indent :: indents, tokens =>
    if column.any (indent ≤ ·) then (indent :: indents, tokens)
    else closeBlocks column indents (tokens.push .blockEnd)

/-- Close the block collections that are deeper than `column`, or all if there is none. -/
def unroll (l : Lexer) (column : Option Nat) : Lexer :=
  if l.inFlow then l
  else
    let (indents, tokens) := closeBlocks column l.indents l.tokens
    { l with indents := indents, tokens := tokens }

/-- Open a block collection at `column` if it is deeper than the innermost one; its token goes in at
`place`. -/
def roll (l : Lexer) (column place : Nat) (t : Token) : Lexer :=
  if l.inFlow then l
  else if l.indents.head?.all (· < column) then
    { l.insert place t with indents := column :: l.indents }
  else l

-- ---------------------------------------------------------------------------
-- Marks
-- ---------------------------------------------------------------------------

/-- End a document, or its head: all block collections are closed. -/
def endDocument (l : Lexer) : Option Lexer :=
  (l.unroll none).dropCandidate.map fun l => { l with keyAllowed := false }

/-- Take the opening mark of a flow collection. -/
def openFlow (l : Lexer) (c : Cursor) (t : Token) : Option Lexer :=
  (l.mark c).map fun l =>
    { l.push t true with outer := l.candidate :: l.outer, candidate := none }

/-- Take the closing mark of a flow collection. -/
def closeFlow (l : Lexer) (t : Token) : Option Lexer :=
  l.dropCandidate.map fun l =>
    let l := l.push t false
    match l.outer with
    | [] => l
    | k :: ks => { l with candidate := k, outer := ks }

/-- Take a comma. -/
def flowEntry (l : Lexer) : Option Lexer := l.dropCandidate.map fun l => l.push .flowEntry true

/-- Take a hyphen. -/
def blockEntry (l : Lexer) (c : Cursor) : Option Lexer :=
  if !l.inFlow && !l.keyAllowed then none
  else
    (l.roll c.column l.tokens.size .blockSequenceStart).dropCandidate.map fun l =>
      l.push .blockEntry true

/-- Take a question mark. -/
def key (l : Lexer) (c : Cursor) : Option Lexer :=
  if !l.inFlow && !l.keyAllowed then none
  else
    (l.roll c.column l.tokens.size .blockMappingStart).dropCandidate.map fun l =>
      l.push .key (!l.inFlow)

/-- Take a colon. If there is a candidate for a key, it is one. -/
def value (l : Lexer) (c : Cursor) : Option Lexer :=
  match l.candidate with
  | some k =>
    let l := (l.insert k.token .key).roll k.column k.token .blockMappingStart
    some { l.push .value false with candidate := none }
  | none =>
    if !l.inFlow && !l.keyAllowed then none
    else some ((l.roll c.column l.tokens.size .blockMappingStart).push .value (!l.inFlow))

-- ---------------------------------------------------------------------------
-- Longer tokens
-- ---------------------------------------------------------------------------

/-- Read a plain scalar that starts with the character `first`, from behind it. -/
def plain (l : Lexer) (c : Cursor) (first : Char) {o : Cursor} (d : o.From) :
    Option (Lexer × o.From) :=
  match l.mark c with
  | none => none
  | some l =>
    let minColumn := match l.indents with | [] => 0 | n :: _ => n + 1
    (readPlain l.inFlow minColumn first d).map fun (text, broken, d) =>
      (l.push (.scalar text .plain) broken, d)

/-- Read a quoted scalar from behind its first quote. -/
def quoted (l : Lexer) (c : Cursor) (single : Bool) {o : Cursor} (d : o.From) :
    Option (Lexer × o.From) :=
  match l.mark c with
  | none => none
  | some l =>
    (readQuoted single d).map fun (text, d) =>
      (l.push (.scalar text (if single then .singleQuoted else .doubleQuoted)) false, d)

/-- Read a block scalar from behind its mark. -/
def block (l : Lexer) (literal : Bool) {o : Cursor} (d : o.From) : Option (Lexer × o.From) :=
  match l.dropCandidate with
  | none => none
  | some l =>
    (readBlock literal l.indents.head? d).map fun (text, d) =>
      (l.push (.scalar text (if literal then .literal else .folded)) true, d)

/-- Read an anchor or an alias from behind its mark. -/
def anchor (l : Lexer) (c : Cursor) (t : List Char → Token) {o : Cursor} (d : o.From) :
    Option (Lexer × o.From) :=
  match l.mark c with
  | none => none
  | some l => (readAnchor d).map fun (name, d) => (l.push (t name) false, d)

/-- Read a tag from behind its mark. -/
def tag (l : Lexer) (c : Cursor) {o : Cursor} (d : o.From) : Option (Lexer × o.From) :=
  match l.mark c with
  | none => none
  | some l =>
    (readTag l.inFlow d).map fun (handle, suffix, d) => (l.push (.tag handle suffix) false, d)

/-- Read a directive from behind its mark. -/
def directive (l : Lexer) {o : Cursor} (d : o.From) : Option (Lexer × o.From) :=
  match l.endDocument with
  | none => none
  | some l => (readDirective d).map fun (t, d) => (l.push t false, d)

-- ---------------------------------------------------------------------------
-- Tokens
-- ---------------------------------------------------------------------------

/-- Pass over blanks and a comment in one line. Tabs are no indentation, so they are left where a key
could start. -/
def skipBlanks (inFlow keyAllowed : Bool) (c : Cursor) : c.From :=
  let d := From.here c
  let d := if c.column == 0 && c.sees '\uFEFF' then d.advance 1 else d
  (d.skipWhile fun ch => ch == ' ' || ((inFlow || !keyAllowed) && ch == '\t')).skipComment

/-- Pass over blanks, comments and line breaks before a token, and tell whether a key may start
there. -/
def skipToToken (inFlow keyAllowed : Bool) {o : Cursor} (c : o.From) : Bool × o.From :=
  let d := skipBlanks inFlow keyAllowed c.1
  match h : d.1.rest with
  | [] => (keyAllowed, c.trans d)
  | ch :: _ =>
    if b : isBreak ch then
      have lt := Nat.lt_of_lt_of_le (left_readBreak_lt h b) d.2
      skipToToken inFlow (keyAllowed || !inFlow) (c.trans ⟨d.1.readBreak.2, Nat.le_of_lt lt⟩)
    else (keyAllowed, c.trans d)
termination_by c.1.left

/-- Whether a plain scalar may start with the character when `next` follows it. -/
def startsPlain (inFlow : Bool) (ch : Char) (next : Option Char) : Bool :=
  if ch == '-' then !next.any isSpace
  else if ch == '?' || ch == ':' then !inFlow && !endsWord next
  else
    !isGap ch &&
      !([',', '[', ']', '\x7b', '\x7d', '#', '&', '*', '!', '|', '>', '\'', '"', '%', '@', '`']).contains
        ch

/-- Read the token that starts with the character `ch` at the cursor. -/
def readToken (l : Lexer) (c : Cursor) (ch : Char) : Option (Lexer × (c.advance 1).From) :=
  let d := From.here (c.advance 1)
  let short (l : Option Lexer) : Option (Lexer × (c.advance 1).From) := l.map (·, d)
  let mark (t : Token) := l.endDocument.map fun l => (l.push t false, d.advance 2)
  let ends := endsWord (c.peek 1)
  if c.column == 0 && ch == '%' then l.directive d
  else if c.atMark '-' then mark .documentStart
  else if c.atMark '.' then mark .documentEnd
  else if ch == '[' then short (l.openFlow c .flowSequenceStart)
  else if ch == '\x7b' then short (l.openFlow c .flowMappingStart)
  else if ch == ']' then short (l.closeFlow .flowSequenceEnd)
  else if ch == '\x7d' then short (l.closeFlow .flowMappingEnd)
  else if ch == ',' then short l.flowEntry
  else if ch == '-' && ends then short (l.blockEntry c)
  else if ch == '?' && (l.inFlow || ends) then short (l.key c)
  else if ch == ':' && (l.inFlow || ends) then short (l.value c)
  else if ch == '*' then l.anchor c .alias d
  else if ch == '&' then l.anchor c .anchor d
  else if ch == '!' then l.tag c d
  else if ch == '|' && !l.inFlow then l.block true d
  else if ch == '>' && !l.inFlow then l.block false d
  else if ch == '\'' then l.quoted c true d
  else if ch == '"' then l.quoted c false d
  else if startsPlain l.inFlow ch (c.peek 1) then l.plain c ch d
  else none

/-- Read all tokens from the cursor on. -/
def run (l : Lexer) (c : Cursor) : Option (Array Token) :=
  let (keyAllowed, d) := skipToToken l.inFlow l.keyAllowed (From.here c)
  match { l with keyAllowed := keyAllowed }.dropLapsed d.1 with
  | none => none
  | some l =>
    match h : d.1.rest with
    | [] => (l.unroll none).dropCandidate.map (·.tokens)
    | ch :: _ =>
      match (l.unroll (some d.1.column)).readToken d.1 ch with
      | none => none
      | some (l, e) =>
        have : e.1.left < c.left :=
          Nat.lt_of_lt_of_le (Nat.lt_of_le_of_lt e.2 (left_advance_lt h 0)) d.2
        run l e.1
termination_by c.left

end Lexer

/-- The tokens of a text. There is no answer for a text that is malformed. -/
def tokensOf? (text : List Char) : Option (List Token) :=
  if text.all isPrintable then (Lexer.run {} { rest := text }).map (·.toList) else none

end UserDirectory.Yaml
