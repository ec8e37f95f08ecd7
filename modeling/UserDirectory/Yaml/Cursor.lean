import UserDirectory.Text.Basic

/-!
# UserDirectory — a place in a YAML text

The reader of tokens needs to know where it is: indentation is a matter of columns, and a key must
stand on one line. A cursor holds what is left of the text together with its place.

A reader that starts somewhere behind the cursor `c` gives back a cursor of type `c.From`, so that
there is never more left than before. Where something has been read there is less left
(`left_advance_lt`, `left_readBreak_lt`), which is why readers end.
-/

namespace UserDirectory.Yaml

open Text

-- ---------------------------------------------------------------------------
-- Characters
-- ---------------------------------------------------------------------------

/-- Whether a character may stand in a YAML text. -/
def isPrintable (c : Char) : Bool :=
  let n := c.toNat
  n == 0x9 || n == 0xA || n == 0xD || (0x20 ≤ n && n ≤ 0x7E) || n == 0x85 ||
    (0xA0 ≤ n && n ≤ 0xD7FF) || (0xE000 ≤ n && n ≤ 0xFFFD) || 0x10000 ≤ n

/-- A character that breaks a line. -/
def isBreak (c : Char) : Bool :=
  c == '\n' || c == '\r' || c == '\u0085' || c == '\u2028' || c == '\u2029'

/-- A blank within a line. -/
def isSpace (c : Char) : Bool := c == ' ' || c == '\t'

/-- A character between words. -/
def isGap (c : Char) : Bool := isSpace c || isBreak c

/-- Whether a word ends before the character, or at the end of the text. -/
def endsWord : Option Char → Bool
  | none => true
  | some c => isGap c

/-- A character of anchors, directives and tag handles. -/
def isNameChar (c : Char) : Bool := c.isAlphanum || c == '_' || c == '-'

-- ---------------------------------------------------------------------------
-- Cursors
-- ---------------------------------------------------------------------------

/-- A place in a text. -/
structure Cursor where
  /-- What is left of the text. -/
  rest : List Char
  /-- How many bytes come before. -/
  index : Nat := 0
  line : Nat := 0
  column : Nat := 0

namespace Cursor

/-- How many characters are left. -/
def left (c : Cursor) : Nat := c.rest.length

/-- The character at the cursor, or at a distance from it. -/
def peek (c : Cursor) (ahead : Nat := 0) : Option Char := c.rest[ahead]?

/-- Whether the given character is at the cursor. -/
def sees (c : Cursor) (ch : Char) : Bool := c.peek == some ch

/-- Move on by `n` characters of the same line. -/
def advance (c : Cursor) (n : Nat) : Cursor :=
  { c with
    rest := c.rest.drop n
    index := c.index + byteLength (c.rest.take n)
    column := c.column + n }

/-- Move to the start of the next line, past `n` characters. -/
def nextLine (c : Cursor) (n : Nat) : Cursor :=
  { rest := c.rest.drop n
    index := c.index + byteLength (c.rest.take n)
    line := c.line + 1
    column := 0 }

/-- Whether a line or the text ends at the cursor. -/
def atLineEnd (c : Cursor) : Bool := c.peek.all isBreak

/-- Read a line break. It counts as a line feed, but for the two separators that Unicode has for
lines and paragraphs, which stand for themselves. Elsewhere nothing is read. -/
def readBreak (c : Cursor) : List Char × Cursor :=
  match c.rest with
  | [] => ([], c)
  | ch :: cs =>
    if ch == '\r' && cs.head? == some '\n' then (['\n'], c.nextLine 2)
    else if ch == '\u2028' || ch == '\u2029' then ([ch], c.nextLine 1)
    else if isBreak ch then (['\n'], c.nextLine 1)
    else ([], c)

/-- Whether a line with the given mark of three characters starts here. -/
def atMark (c : Cursor) (mark : Char) : Bool :=
  c.column == 0 && c.rest.take 3 == [mark, mark, mark] && endsWord (c.peek 3)

/-- Whether a document starts or ends here by a mark. -/
def atDocumentMark (c : Cursor) : Bool := c.atMark '-' || c.atMark '.'

-- ---------------------------------------------------------------------------
-- How much is left
-- ---------------------------------------------------------------------------

theorem left_advance_le (c : Cursor) (n : Nat) : (c.advance n).left ≤ c.left := by
  simp only [left, advance, List.length_drop]
  omega

theorem left_nextLine_le (c : Cursor) (n : Nat) : (c.nextLine n).left ≤ c.left := by
  simp only [left, nextLine, List.length_drop]
  omega

theorem left_advance_lt {c : Cursor} {ch : Char} {cs : List Char} (h : c.rest = ch :: cs)
    (n : Nat) : (c.advance (n + 1)).left < c.left := by
  simp only [left, advance, List.length_drop, h, List.length_cons]
  omega

theorem left_nextLine_lt {c : Cursor} {ch : Char} {cs : List Char} (h : c.rest = ch :: cs)
    (n : Nat) : (c.nextLine (n + 1)).left < c.left := by
  simp only [left, nextLine, List.length_drop, h, List.length_cons]
  omega

/-- To read a line break leaves no more than there was. -/
theorem left_readBreak_le (c : Cursor) : c.readBreak.2.left ≤ c.left := by
  unfold readBreak
  split
  · exact Nat.le_refl _
  · split
    · exact left_nextLine_le c 2
    · split
      · exact left_nextLine_le c 1
      · split
        · exact left_nextLine_le c 1
        · exact Nat.le_refl _

/-- Where there is a line break, to read it leaves less. -/
theorem left_readBreak_lt {c : Cursor} {ch : Char} {cs : List Char} (h : c.rest = ch :: cs)
    (b : isBreak ch = true) : c.readBreak.2.left < c.left := by
  unfold readBreak
  rw [h]
  simp only [b, if_true]
  split
  · exact left_nextLine_lt h 1
  · split
    · exact left_nextLine_lt h 0
    · exact left_nextLine_lt h 0

-- ---------------------------------------------------------------------------
-- Moving on
-- ---------------------------------------------------------------------------

/-- A cursor where `c` stands or behind it. -/
abbrev From (c : Cursor) := { d : Cursor // d.left ≤ c.left }

namespace From

variable {o : Cursor}

/-- The cursor itself. -/
def here (c : Cursor) : c.From := ⟨c, Nat.le_refl _⟩

/-- A cursor from one that is from `o` on. -/
def trans (c : o.From) (d : c.1.From) : o.From := ⟨d.1, Nat.le_trans d.2 c.2⟩

/-- Move on by `n` characters of the same line. -/
def advance (c : o.From) (n : Nat) : o.From := c.trans ⟨c.1.advance n, left_advance_le c.1 n⟩

/-- Take the characters of the same line that satisfy `p`. -/
def takeWhile (c : o.From) (p : Char → Bool) : List Char × o.From :=
  let taken := c.1.rest.takeWhile p
  (taken, c.advance taken.length)

/-- Pass over the characters of the same line that satisfy `p`. -/
def skipWhile (c : o.From) (p : Char → Bool) : o.From := (c.takeWhile p).2

/-- Pass over a comment. -/
def skipComment (c : o.From) : o.From :=
  if c.1.sees '#' then c.skipWhile fun ch => !isBreak ch else c

/-- Read a line break, as `Cursor.readBreak` does. -/
def readBreak (c : o.From) : List Char × o.From :=
  (c.1.readBreak.1, c.trans ⟨c.1.readBreak.2, left_readBreak_le c.1⟩)

/-- Read what is left of the line, and the line break behind it. -/
def readLine (c : o.From) : List Char × List Char × o.From :=
  let (line, d) := c.takeWhile fun ch => !isBreak ch
  (line, d.readBreak)

/-- To read a line leaves less, if there is anything left. -/
theorem left_readLine_lt (c : o.From) {ch : Char} {cs : List Char} (h : c.1.rest = ch :: cs) :
    c.readLine.2.2.1.left < c.1.left := by
  simp only [readLine, takeWhile, readBreak, trans, h, List.takeWhile_cons]
  by_cases b : isBreak ch = true
  · have e : c.1.advance 0 = c.1 := rfl
    simpa [b, advance, trans, e] using left_readBreak_lt h b
  · simp only [b, Bool.not_false, if_true, List.length_cons]
    exact Nat.lt_of_le_of_lt (left_readBreak_le _) (left_advance_lt h _)

end From

end Cursor

end UserDirectory.Yaml
