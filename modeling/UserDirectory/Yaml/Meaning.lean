import UserDirectory.Yaml.Document
import UserDirectory.Yaml.Plain

/-!
# UserDirectory — what YAML documents mean

The value of a document. Tags of the standard say how a scalar is to be read; a tag that starts with
a mark of its own is kept around the value. References are followed. A document has no value if a
mapping has a key twice, if it is nested too deeply, which includes nodes that contain themselves, or
if its references are followed too often.
-/

namespace UserDirectory.Yaml

/-- How deeply collections may be nested. -/
def maxNesting : Nat := 128

/-- How often references may be followed, for each event of the document. -/
def jumpsPerEvent : Nat := 100

-- ---------------------------------------------------------------------------
-- Scalars
-- ---------------------------------------------------------------------------

/-- A tag of the standard. -/
inductive CoreTag where
  | bool
  | int
  | float
  | null
  deriving DecidableEq

/-- The tag of the standard that a tag is. -/
def coreTag? (tag : Tag) : Option CoreTag :=
  match tag.text? with
  | some "tag:yaml.org,2002:bool" => some .bool
  | some "tag:yaml.org,2002:int" => some .int
  | some "tag:yaml.org,2002:float" => some .float
  | some "tag:yaml.org,2002:null" => some .null
  | _ => none

/-- What a scalar means that has a tag of the standard. -/
def CoreTag.value? (text : List Char) : CoreTag → Option Value
  | .bool => (bool? text).map .bool
  | .int =>
    match readInteger text with
    | .integer n => some (.number (.integer n))
    | _ => none
  | .float => (float? text).map fun x => .number (.float x)
  | .null => if isNull text then some .null else none

/-- A name without the mark it starts with, which stays if it is all of the name. -/
def dropMark : List Char → List Char
  | ['!'] => ['!']
  | '!' :: name => name
  | name => name

/-- The name of a tag that is kept around its value: a text that starts with a mark. Two tags have
the same name if they differ in one or two marks at their start. -/
def ownTag? (tag : Tag) : Option String :=
  match tag.text?.map String.toList with
  | some ('!' :: name) => some (String.ofList (dropMark (dropMark ('!' :: name))))
  | _ => none

/-- What a scalar in plain style means if no tag says so, and any other scalar. -/
def untaggedValue? (text : List Char) (style : Style) : Option Value :=
  if style = .plain then plainValue? text else some (.text (String.ofList text))

/-- What a scalar means. A tag that is not of the standard makes it a text, unless the tag starts
with a mark. -/
def scalarValue? (tag : Option Tag) (text : List Char) (style : Style) : Option Value :=
  match tag with
  | some t =>
    match coreTag? t with
    | some core => core.value? text
    | none =>
      if t.head? = some '!'.toUInt8 then untaggedValue? text style
      else some (.text (String.ofList text))
  | none => untaggedValue? text style

-- ---------------------------------------------------------------------------
-- Nodes
-- ---------------------------------------------------------------------------

/-- A reading of nodes that counts how often references have been followed. -/
abbrev Meaning := Node → Nat → Option (Value × Nat)

/-- The values of the nodes, in order. -/
def Meaning.all (value : Meaning) : List Node → Nat → Option (List Value × Nat)
  | [], jumps => some ([], jumps)
  | n :: ns, jumps =>
    match value n jumps with
    | none => none
    | some (v, jumps) => (Meaning.all value ns jumps).map fun (vs, jumps) => (v :: vs, jumps)

/-- The values of the keys and members, in order. `seen` are the members before them. -/
def Meaning.members (value : Meaning) (seen : List (Value × Value)) :
    List (Node × Node) → Nat → Option (List (Value × Value) × Nat)
  | [], jumps => some ([], jumps)
  | (k, n) :: rest, jumps =>
    match value k jumps with
    | none => none
    | some (key, jumps) =>
      if seen.any fun (other, _) => other.same key then none
      else
        match value n jumps with
        | none => none
        | some (v, jumps) =>
          (Meaning.members value ((key, v) :: seen) rest jumps).map fun (ms, jumps) =>
            ((key, v) :: ms, jumps)

/-- The tag of a node. -/
def Node.tag? : Node → Option Tag
  | .scalar tag _ _ => tag
  | .sequence tag _ => tag
  | .mapping tag _ => tag
  | .alias _ => none

/-- The node without its tag. -/
def Node.untagged : Node → Node
  | .scalar _ text style => .scalar none text style
  | .sequence _ items => .sequence none items
  | .mapping _ members => .mapping none members
  | .alias number => .alias number

/-- The value of a node without a tag of the author's own. `inner` gives the values of the nodes in
it; there is none where nothing may be nested any more. -/
def contentOf (inner : Option Meaning) : Meaning
  | .scalar tag text style, jumps => (scalarValue? tag text style).map (·, jumps)
  | .sequence _ items, jumps =>
    inner.bind fun value => (value.all items jumps).map fun (vs, jumps) => (.sequence vs, jumps)
  | .mapping _ members, jumps =>
    inner.bind fun value =>
      (value.members [] members jumps).map fun (ms, jumps) => (.mapping ms, jumps)
  | .alias _, _ => none

/-- The value of a node, with the tag of the author's own that it may have. -/
def taggedOf (inner : Option Meaning) : Meaning
  | node, jumps =>
    match node.tag?.bind ownTag? with
    | none => contentOf inner node jumps
    | some name =>
      (contentOf inner node.untagged jumps).map fun (v, jumps) => (.tagged name v, jumps)

/-- The value of a node in which collections may be nested `depth` deep. -/
def valueAt (anchors : Anchors) : Nat → Meaning
  | depth, node, jumps =>
    let inner : Option Meaning := match depth with
      | 0 => none
      | d + 1 => some (valueAt anchors d)
    match node with
    | .alias number =>
      if jumpsPerEvent * anchors.events ≤ jumps then none
      else (anchors.node? number).bind fun target => taggedOf inner target (jumps + 1)
    | node => taggedOf inner node jumps

/-- The value of a document. -/
def Document.value? (d : Document) : Option Value :=
  (valueAt d.anchors maxNesting d.root 0).map (·.1)

/-- The value of a text: nothing, if it is empty. There is no answer for a text that is no YAML. -/
def valueOf? (text : String) : Option Value :=
  match readDocument? text with
  | none => none
  | some none => some .null
  | some (some d) => d.value?

end UserDirectory.Yaml
