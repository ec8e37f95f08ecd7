import UserDirectory.Yaml.Cursor

/-!
# UserDirectory — reading YAML scalars

The five ways to write a scalar. Where a scalar runs over several lines, a single line break within
it is folded to a blank and further ones are kept. Each reader has no answer where the text is
malformed. Text that is being collected is kept backwards.
-/

namespace UserDirectory.Yaml

open Cursor

-- ---------------------------------------------------------------------------
-- Blanks between the words of a scalar
-- ---------------------------------------------------------------------------

/-- Blanks and line breaks that have been read but may turn out not to belong to the scalar. -/
structure Gap where
  /-- Whether a line break has been read. -/
  broken : Bool := false
  /-- The blanks before the first line break. -/
  blanks : List Char := []
  /-- The first line break. -/
  first : List Char := []
  /-- The line breaks after it. -/
  others : List Char := []

namespace Gap

/-- What the gap stands for between two words. -/
def text (g : Gap) : List Char :=
  if !g.broken then g.blanks
  else if g.first.head? == some '\n' then if g.others.isEmpty then [' '] else g.others
  else g.first ++ g.others

/-- The gap with the blank or line break `ch` that is at the cursor, and the place behind it. -/
def add (g : Gap) (c : Cursor) (ch : Char) : Gap × Cursor :=
  if isBreak ch then
    let br := c.readBreak.1
    (if g.broken then { g with others := g.others ++ br }
      else { g with broken := true, blanks := [], first := br }, c.readBreak.2)
  else (if g.broken then g else { g with blanks := g.blanks ++ [ch] }, c.advance 1)

theorem left_add_lt (g : Gap) {c : Cursor} {ch : Char} {cs : List Char} (h : c.rest = ch :: cs) :
    (g.add c ch).2.left < c.left := by
  unfold add
  split
  · next b => exact left_readBreak_lt h b
  · exact left_advance_lt h 0

/-- Read blanks and line breaks. `minColumn` is the column up to which tabs are no indentation, if
that matters. -/
def read (minColumn : Option Nat) {o : Cursor} (g : Gap) (c : o.From) : Option (Gap × o.From) :=
  match h : c.1.rest with
  | [] => some (g, c)
  | ch :: _ =>
    if !isGap ch then some (g, c)
    else if g.broken && ch == '\t' && minColumn.any (c.1.column < ·) then none
    else
      have lt := left_add_lt g h
      read minColumn (g.add c.1 ch).1 (c.trans ⟨(g.add c.1 ch).2, Nat.le_of_lt lt⟩)
termination_by c.1.left

/-- Read the gap that starts with the blank or line break `ch` at the cursor. -/
def readFrom (minColumn : Option Nat) (c : Cursor) (ch : Char) :
    Option (Gap × (add {} c ch).2.From) :=
  read minColumn (add {} c ch).1 (.here _)

end Gap

-- ---------------------------------------------------------------------------
-- Plain scalars
-- ---------------------------------------------------------------------------

/-- A character that divides or encloses the members of a flow collection. -/
def isFlowMark (c : Char) : Bool := c == ',' || c == '[' || c == ']' || c == '\x7b' || c == '\x7d'

/-- The part of a plain scalar up to the next blank. There is none in a flow collection where a
colon stands right before a mark. -/
def plainWord (inFlow : Bool) : List Char → Option (List Char)
  | [] => some []
  | ch :: cs =>
    if isGap ch then some []
    else if inFlow && ch == ':' && cs.head?.any (fun d => isFlowMark d || d == '?') then none
    else if (ch == ':' && endsWord cs.head?) || (inFlow && isFlowMark ch) then some []
    else (plainWord inFlow cs).map (ch :: ·)

/-- Read gaps and the words behind them. The answer tells whether line breaks follow the scalar. -/
def plainFrom (inFlow : Bool) (minColumn : Nat) {o : Cursor} (text : List Char) (c : o.From) :
    Option (List Char × Bool × o.From) :=
  match h : c.1.rest with
  | [] => some (text.reverse, false, c)
  | ch :: _ =>
    if !isGap ch then some (text.reverse, false, c)
    else
      have lt := Gap.left_add_lt {} h
      match Gap.readFrom (some minColumn) c.1 ch with
      | none => none
      | some (gap, d) =>
        have lt := Nat.lt_of_le_of_lt d.2 lt
        let e : o.From := c.trans ⟨d.1, Nat.le_of_lt lt⟩
        if (!inFlow && d.1.column < minColumn) || d.1.atDocumentMark || d.1.sees '#' then
          some (text.reverse, gap.broken, e)
        else
          match plainWord inFlow d.1.rest with
          | none => none
          | some [] => some (text.reverse, gap.broken, e)
          | some word =>
            have := Nat.lt_of_le_of_lt (left_advance_le d.1 word.length) lt
            plainFrom inFlow minColumn (word.reverseAux (gap.text.reverseAux text))
              (e.advance word.length)
termination_by c.1.left
decreasing_by exact this

/-- Read a plain scalar from behind its first character: its text, whether line breaks follow it,
and the place after the gap behind it. Outside of flow collections it ends where a line starts
before `minColumn`. -/
def readPlain (inFlow : Bool) (minColumn : Nat) (first : Char) {o : Cursor} (c : o.From) :
    Option (List Char × Bool × o.From) :=
  match plainWord inFlow c.1.rest with
  | none => none
  | some word => plainFrom inFlow minColumn (word.reverseAux [first]) (c.advance word.length)

-- ---------------------------------------------------------------------------
-- Quoted scalars
-- ---------------------------------------------------------------------------

/-- The value of a hexadecimal digit. -/
def hexValue? (c : Char) : Option Nat :=
  if c.isDigit then some (c.toNat - '0'.toNat)
  else if 'a' ≤ c ∧ c ≤ 'f' then some (c.toNat - 'a'.toNat + 10)
  else if 'A' ≤ c ∧ c ≤ 'F' then some (c.toNat - 'A'.toNat + 10)
  else none

/-- The character whose code the first `count` characters give. -/
def codeOf? (count : Nat) (cs : List Char) : Option Char :=
  match (cs.take count).mapM hexValue? with
  | none => none
  | some digits =>
    let n := digits.foldl (fun n d => n * 16 + d) 0
    if digits.length = count ∧ n.isValidChar then some (Char.ofNat n) else none

/-- The character that a backslash and what follows it stand for, and how many characters follow. -/
def escapeOf? : List Char → Option (Char × Nat)
  | [] => none
  | 'x' :: cs => (codeOf? 2 cs).map (·, 3)
  | 'u' :: cs => (codeOf? 4 cs).map (·, 5)
  | 'U' :: cs => (codeOf? 8 cs).map (·, 9)
  | ch :: _ =>
    match ch with
    | '0' => some ('\x00', 1)
    | 'a' => some ('\x07', 1)
    | 'b' => some ('\x08', 1)
    | 't' | '\t' => some ('\t', 1)
    | 'n' => some ('\n', 1)
    | 'v' => some ('\x0b', 1)
    | 'f' => some ('\x0c', 1)
    | 'r' => some ('\r', 1)
    | 'e' => some ('\x1b', 1)
    | ' ' | '"' | '/' | '\\' => some (ch, 1)
    | 'N' => some ('\u0085', 1)
    | '_' => some ('\u00a0', 1)
    | 'L' => some ('\u2028', 1)
    | 'P' => some ('\u2029', 1)
    | _ => none

/-- Read up to the closing quote, which is read too. A quote is written twice between single quotes;
between double quotes there are escapes, of which one hides a line break. -/
def quotedFrom (single : Bool) {o : Cursor} (text : List Char) (c : o.From) :
    Option (List Char × o.From) :=
  match h : c.1.rest with
  | [] => none
  | ch :: cs =>
    have lt := left_advance_lt h
    if c.1.atDocumentMark then none
    else if isGap ch then
      have lt := Gap.left_add_lt {} h
      match Gap.readFrom none c.1 ch with
      | none => none
      | some (gap, d) =>
        have lt := Nat.lt_of_le_of_lt d.2 lt
        quotedFrom single (gap.text.reverseAux text) (c.trans ⟨d.1, Nat.le_of_lt lt⟩)
    else if ch == if single then '\'' else '"' then
      if single && cs.head? == some '\'' then quotedFrom single (ch :: text) (c.advance 2)
      else some (text.reverse, c.advance 1)
    else if !single && ch == '\\' then
      if cs.head?.any isBreak then
        match Gap.read none { broken := true } (From.here (c.advance 1).readBreak.2.1) with
        | none => none
        | some (gap, d) =>
          have lt := Nat.lt_of_le_of_lt (Nat.le_trans d.2 (left_readBreak_le _)) (lt 0)
          quotedFrom single (gap.text.reverseAux text) (c.trans ⟨d.1, Nat.le_of_lt lt⟩)
      else
        match escapeOf? cs with
        | none => none
        | some (d, n) => quotedFrom single (d :: text) (c.advance (n + 1))
    else quotedFrom single (ch :: text) (c.advance 1)
termination_by c.1.left
decreasing_by
  · exact lt
  · exact lt 1
  · exact lt
  · exact lt n
  · exact lt 0

/-- Read a quoted scalar from behind its first quote. -/
def readQuoted (single : Bool) {o : Cursor} (c : o.From) : Option (List Char × o.From) :=
  quotedFrom single [] c

-- ---------------------------------------------------------------------------
-- Block scalars
-- ---------------------------------------------------------------------------

/-- What becomes of the line breaks at the end of a block scalar. -/
inductive Chomping where
  /-- The last line break stays. -/
  | clip
  /-- None stays. -/
  | strip
  /-- All stay. -/
  | keep
  deriving DecidableEq

def Chomping.ofChar? : Char → Option Chomping
  | '+' => some .keep
  | '-' => some .strip
  | _ => none

/-- Read the indentation indicator, a digit from 1 to 9, if there is one. -/
def readIndicator {o : Cursor} (c : o.From) : Option (Option Nat × o.From) :=
  match c.1.peek with
  | some ch =>
    if ch.isDigit then
      if ch == '0' then none else some (some (ch.toNat - '0'.toNat), c.advance 1)
    else some (none, c)
  | none => some (none, c)

/-- Read what follows `|` or `>` in the same line: chomping and indentation, in either order. -/
def readHeader {o : Cursor} (c : o.From) : Option (Chomping × Option Nat × o.From) :=
  match c.1.peek.bind Chomping.ofChar? with
  | some chomping => (readIndicator (c.advance 1)).map fun (n, c) => (chomping, n, c)
  | none =>
    match readIndicator c with
    | none => none
    | some (none, c) => some (.clip, none, c)
    | some (some n, c) =>
      match c.1.peek.bind Chomping.ofChar? with
      | some chomping => some (chomping, some n, c.advance 1)
      | none => some (.clip, some n, c)

/-- Pass over the indentation of a line, up to column `indent` if it is known. -/
def skipIndent (indent : Option Nat) {o : Cursor} (c : o.From) : o.From :=
  let blanks := (c.1.rest.takeWhile (· == ' ')).length
  c.advance (match indent with | none => blanks | some n => min blanks (n - c.1.column))

/-- Read empty lines and the indentation of the line after them: the line breaks, and the greatest
column reached. -/
def blockGap (indent : Option Nat) {o : Cursor} (breaks : List Char) (widest : Nat) (c : o.From) :
    Option (List Char × Nat × o.From) :=
  let d := skipIndent indent (From.here c.1)
  let widest := max widest d.1.column
  if d.1.sees '\t' && indent.all (d.1.column < ·) then none
  else
    match h : d.1.rest with
    | [] => some (breaks, widest, c.trans d)
    | ch :: _ =>
      if b : isBreak ch then
        have lt := Nat.lt_of_lt_of_le (left_readBreak_lt h b) d.2
        blockGap indent (breaks ++ d.1.readBreak.1) widest
          (c.trans ⟨d.1.readBreak.2, Nat.le_of_lt lt⟩)
      else some (breaks, widest, c.trans d)
termination_by c.1.left

/-- The end of a block scalar: its text but for the line breaks at the end, the first of these, and
the others. -/
structure BlockEnd where
  text : List Char
  last : List Char
  breaks : List Char

/-- Read the lines of a block scalar whose indentation is known. `e` is what has been read so far,
and `blankLine` tells whether the line before started with a blank. -/
def blockLines (literal : Bool) (indent : Nat) {o : Cursor} (e : BlockEnd) (blankLine : Bool)
    (c : o.From) : Option (BlockEnd × o.From) :=
  match h : c.1.rest with
  | [] => some (e, c)
  | ch :: _ =>
    if c.1.column != indent then some (e, c)
    else
      let joint :=
        if !literal && e.last.head? == some '\n' && !blankLine && !isSpace ch then
          if e.breaks.isEmpty then [' '] else []
        else e.last
      have lt := From.left_readLine_lt c h
      let (line, br, _) := c.readLine
      match blockGap (some indent) [] 0 (From.here c.readLine.2.2.1) with
      | none => none
      | some (breaks, _, d) =>
        have lt := Nat.lt_of_le_of_lt d.2 lt
        let text := line.reverseAux (e.breaks.reverseAux (joint.reverseAux e.text))
        blockLines literal indent ⟨text, br, breaks⟩ (isSpace ch)
          (c.trans ⟨d.1, Nat.le_of_lt lt⟩)
termination_by c.1.left

/-- Read a block scalar from behind its mark. `parent` is the column of the collection it belongs
to, if any. -/
def readBlock (literal : Bool) (parent : Option Nat) {o : Cursor} (c : o.From) :
    Option (List Char × o.From) :=
  match readHeader c with
  | none => none
  | some (chomping, increment, c) =>
    let c := (c.skipWhile isSpace).skipComment
    if !c.1.atLineEnd then none
    else
      let given := increment.map fun n => parent.getD 0 + n
      match blockGap given [] 0 c.readBreak.2 with
      | none => none
      | some (breaks, widest, c) =>
        let least := match parent with | none => 1 | some p => p + 1
        let indent := given.getD (max widest least)
        match blockLines literal indent ⟨[], [], breaks⟩ false c with
        | none => none
        | some (e, c) =>
          let text := e.text.reverse ++
            match chomping with
            | .strip => []
            | .clip => e.last
            | .keep => e.last ++ e.breaks
          some (text, c)

end UserDirectory.Yaml
