/-!
# UserDirectory — tokens of YAML

The tokens that a YAML text is made of. Indentation has become tokens too: a block collection is
opened by a token of its own and closed by `blockEnd`.
-/

namespace UserDirectory.Yaml

/-- How a scalar is written. -/
inductive Style where
  | plain
  | singleQuoted
  | doubleQuoted
  | literal
  | folded
  deriving DecidableEq, Repr

/-- A tag, as the bytes of its UTF-8 form. Bytes may be written by their codes, so not every tag is
a text. -/
abbrev Tag := List UInt8

/-- The tag that is written with the given ASCII characters. -/
def Tag.ofChars (cs : List Char) : Tag := cs.map (·.toUInt8)

/-- The text that the tag is, if it is one. -/
def Tag.text? (t : Tag) : Option String := String.fromUTF8? ⟨t.toArray⟩

/-- A token. -/
inductive Token where
  /-- `%YAML` -/
  | version (major minor : Nat)
  /-- `%TAG`: tags with this handle start with these bytes. -/
  | tagHandle (handle : List Char) (start : Tag)
  | documentStart
  | documentEnd
  | blockSequenceStart
  | blockMappingStart
  | blockEnd
  | flowSequenceStart
  | flowSequenceEnd
  | flowMappingStart
  | flowMappingEnd
  /-- `-` before an item -/
  | blockEntry
  /-- `,` -/
  | flowEntry
  /-- `?`, or nothing before a key on one line -/
  | key
  /-- `:` before a value -/
  | value
  | alias (name : List Char)
  | anchor (name : List Char)
  | tag (handle : List Char) (suffix : Tag)
  | scalar (text : List Char) (style : Style)
  deriving DecidableEq, Repr

end UserDirectory.Yaml
