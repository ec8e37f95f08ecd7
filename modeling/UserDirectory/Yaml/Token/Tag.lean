import UserDirectory.Yaml.Token.Basic
import UserDirectory.Yaml.Token.Scalar

/-!
# UserDirectory — reading YAML names

Anchors, aliases, tags and directives. A tag is `!<...>`, a handle such as `!`, `!!` or `!name!`
followed by a suffix, or `!` alone. Each reader has no answer where the text is malformed.
-/

namespace UserDirectory.Yaml

open Cursor

-- ---------------------------------------------------------------------------
-- Anchors
-- ---------------------------------------------------------------------------

/-- Read the name of an anchor or alias from behind its mark. -/
def readAnchor {o : Cursor} (c : o.From) : Option (List Char × o.From) :=
  let (name, c) := c.takeWhile isNameChar
  let follows := endsWord c.1.peek ||
    c.1.peek.any fun ch => ch ∈ ['?', ':', ',', ']', '\x7d', '%', '@', '`']
  if name.isEmpty || !follows then none else some (name, c)

-- ---------------------------------------------------------------------------
-- Tags
-- ---------------------------------------------------------------------------

/-- A character of a tag, other than one written by its code; `wide` lets the marks of flow
collections through. -/
def isTagChar (wide : Bool) (c : Char) : Bool :=
  isNameChar c ||
    c ∈ [';', '/', '?', ':', '@', '&', '=', '+', '$', '.', '!', '~', '*', '\'', '(', ')'] ||
    (wide && c ∈ [',', '[', ']'])

/-- How many bytes the UTF-8 form of a character takes that starts with the given byte. -/
def utf8Width (lead : Nat) : Option Nat :=
  if lead < 0x80 then some 1
  else if lead / 32 = 6 then some 2
  else if lead / 16 = 14 then some 3
  else if lead / 8 = 30 then some 4
  else none

/-- Read the bytes `%XX`. -/
def readBytes : Nat → List Char → Option (List Nat)
  | 0, _ => some []
  | n + 1, '%' :: a :: b :: cs =>
    match hexValue? a, hexValue? b, readBytes n cs with
    | some x, some y, some rest => some ((x * 16 + y) :: rest)
    | _, _, _ => none
  | _, _ => none

/-- Read a character whose UTF-8 form is written as `%XX` bytes. The first byte tells how many there
are, and those after it must look like such; that they make a character is not asked. -/
def readCoded (cs : List Char) : Option Tag :=
  match readBytes 1 cs with
  | some [lead] =>
    match utf8Width lead with
    | none => none
    | some width =>
      match readBytes width cs with
      | none => none
      | some bytes =>
        if bytes.tail.all fun b => b / 64 = 2 then some (bytes.map UInt8.ofNat) else none
  | _ => none

/-- Read the bytes of a tag; `tag` are those read so far, backwards. -/
def readTagBytes (wide : Bool) {o : Cursor} (tag : Tag) (c : o.From) : Option (Tag × o.From) :=
  match _h : c.1.rest with
  | [] => some (tag.reverse, c)
  | ch :: cs =>
    if ch == '%' then
      match readCoded (ch :: cs) with
      | none => none
      | some bytes =>
        readTagBytes wide (bytes.reverse ++ tag) (c.advance (3 * bytes.length - 1 + 1))
    else if isTagChar wide ch then readTagBytes wide (ch.toUInt8 :: tag) (c.advance 1)
    else some (tag.reverse, c)
termination_by c.1.left
decreasing_by all_goals exact left_advance_lt _h _

/-- Read the bytes of a tag, of which there must be some unless there is a `start`. Its first mark
is dropped, and so is all that follows a zero byte. -/
def readTagUri (wide : Bool) (start : List Char) {o : Cursor} (c : o.From) :
    Option (Tag × o.From) :=
  match readTagBytes wide [] c with
  | none => none
  | some (tag, c) =>
    if start.isEmpty && tag.isEmpty then none
    else some (Tag.ofChars (start.drop 1) ++ tag.takeWhile (· != 0), c)

/-- Read a handle from behind its mark: a name, and a second mark if there is one. -/
def readHandle {o : Cursor} (c : o.From) : List Char × o.From :=
  let (name, c) := c.takeWhile isNameChar
  if c.1.sees '!' then ('!' :: name ++ ['!'], c.advance 1) else ('!' :: name, c)

/-- Read a tag from behind its mark: its handle and its suffix. The handle is empty where the suffix
is all of the tag. -/
def readTag (inFlow : Bool) {o : Cursor} (c : o.From) : Option (List Char × Tag × o.From) :=
  let parts : Option (List Char × Tag × o.From) :=
    if c.1.sees '<' then
      match readTagUri true [] (c.advance 1) with
      | none => none
      | some (uri, c) => if c.1.sees '>' then some ([], uri, c.advance 1) else none
    else
      let (handle, c) := readHandle c
      if 2 ≤ handle.length && handle.getLast? == some '!' then
        (readTagUri false [] c).map fun (suffix, c) => (handle, suffix, c)
      else
        match readTagUri false handle c with
        | none => none
        | some ([], c) => some ([], Tag.ofChars ['!'], c)
        | some (suffix, c) => some (['!'], suffix, c)
  match parts with
  | none => none
  | some (handle, suffix, c) =>
    if endsWord c.1.peek || (inFlow && c.1.sees ',') then some (handle, suffix, c) else none

-- ---------------------------------------------------------------------------
-- Directives
-- ---------------------------------------------------------------------------

/-- Read a part of a version number: at most nine digits. -/
def readVersionPart {o : Cursor} (c : o.From) : Option (Nat × o.From) :=
  let (digits, c) := c.takeWhile Char.isDigit
  if digits.isEmpty || 9 < digits.length then none
  else some (digits.foldl (fun n d => n * 10 + (d.toNat - '0'.toNat)) 0, c)

/-- Read what follows `%YAML`. -/
def readVersion {o : Cursor} (c : o.From) : Option (Token × o.From) :=
  match readVersionPart (c.skipWhile isSpace) with
  | none => none
  | some (major, c) =>
    if !c.1.sees '.' then none
    else (readVersionPart (c.advance 1)).map fun (minor, c) => (.version major minor, c)

/-- Read what follows `%TAG`. -/
def readTagHandle {o : Cursor} (c : o.From) : Option (Token × o.From) :=
  let c := c.skipWhile isSpace
  if !c.1.sees '!' then none
  else
    let (handle, c) := readHandle (c.advance 1)
    if handle != ['!'] && handle.getLast? != some '!' then none
    else if !c.1.peek.any isSpace then none
    else
      match readTagUri true [] (c.skipWhile isSpace) with
      | none => none
      | some (start, c) => if endsWord c.1.peek then some (.tagHandle handle start, c) else none

/-- Read a directive from behind its mark, and the rest of its line. -/
def readDirective {o : Cursor} (c : o.From) : Option (Token × o.From) :=
  let (name, c) := c.takeWhile isNameChar
  if !endsWord c.1.peek then none
  else
    let directive :=
      if name == ['Y', 'A', 'M', 'L'] then readVersion c
      else if name == ['T', 'A', 'G'] then readTagHandle c
      else none
    match directive with
    | none => none
    | some (token, c) =>
      let c := (c.skipWhile isSpace).skipComment
      if c.1.atLineEnd then some (token, c.readBreak.2) else none

end UserDirectory.Yaml
