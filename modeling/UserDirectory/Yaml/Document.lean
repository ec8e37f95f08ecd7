import UserDirectory.Yaml.Node
import UserDirectory.Yaml.Plain
import UserDirectory.Yaml.Token.Lexer

/-!
# UserDirectory — YAML documents

A text holds one document or none. Directives may stand before a document that is opened by `---`;
behind a document there may be `...` marks only.

A document can be read as a record with known fields. Then each field says how its node is to be
read, whatever the node would mean by itself: `5` is a text where a text is asked for. References
are followed; tags count only where a text in literal style stands for a truth value or a number.
-/

namespace UserDirectory.Yaml

/-- A document. -/
structure Document where
  root : Node
  /-- The anchored nodes of the document. -/
  anchors : Anchors

/-- Read the directives of a document and the mark behind them. `version` tells whether the version
has been given. -/
def headAt (version : Bool) (handles : Handles) : List Token → Option (Handles × List Token)
  | .version major minor :: ts =>
    if version || major != 1 || !(minor == 1 || minor == 2) then none
    else headAt true handles ts
  | .tagHandle handle start :: ts =>
    if handles.any (·.1 == handle) then none else headAt version ((handle, start) :: handles) ts
  | .documentStart :: ts => some (handles ++ defaultHandles, ts)
  | _ => none

/-- Whether nothing is written in a document before these tokens. -/
def endsDocument : List Token → Bool
  | [] => true
  | t :: _ =>
    match t with
    | .version .. | .tagHandle .. | .documentStart | .documentEnd => true
    | _ => false

/-- Whether a document is opened by a mark before these tokens. -/
def startsHead : List Token → Bool
  | t :: _ =>
    match t with
    | .version .. | .tagHandle .. | .documentStart => true
    | _ => false
  | [] => false

/-- The document that the tokens make, or nothing where there are no tokens. There is no answer for
tokens that do not make one document. -/
def documentOf? (ts : List Token) : Option (Option Document) :=
  if ts.isEmpty then some none
  else
    let head := if startsHead ts then headAt false [] ts else some (defaultHandles, ts)
    match head with
    | none => none
    | some (handles, body) =>
      if startsHead ts && endsDocument body then
        if body.all (· == .documentEnd) then some (some ⟨.blank, ({} : Anchors).pass⟩) else none
      else
        match nodeAt handles true false {} body with
        | none => none
        | some (root, anchors, rest) =>
          if rest.1.all (· == .documentEnd) then some (some ⟨root, anchors⟩) else none

/-- The document of a text, or nothing where the text is empty. There is no answer for a text that is
no YAML or that holds several documents. -/
def readDocument? (text : String) : Option (Option Document) :=
  (tokensOf? text.toList).bind documentOf?

-- ---------------------------------------------------------------------------
-- Records
-- ---------------------------------------------------------------------------

namespace Document

/-- The node that a node stands for: the one that it refers to, or itself. -/
def target? (d : Document) : Node → Option Node
  | .alias number => d.anchors.node? number
  | n => some n

/-- The text of a scalar, however it is written. -/
def text? (d : Document) (n : Node) : Option String :=
  match d.target? n with
  | some (.scalar _ text _) => some (String.ofList text)
  | _ => none

/-- The characters of a scalar that is written without quotes, or in literal style with the given
tag of the standard. -/
def bare? (d : Document) (tag : String) (n : Node) : Option (List Char) :=
  match d.target? n with
  | some (.scalar _ text .plain) => some text
  | some (.scalar (some t) text .literal) =>
    if t.text? = some ("tag:yaml.org,2002:" ++ tag) then some text else none
  | _ => none

/-- The truth value that a node is. -/
def bool? (d : Document) (n : Node) : Option Bool := (d.bare? "bool" n).bind Yaml.bool?

/-- The integer of 64 bits without sign that a node is. -/
def word? (d : Document) (n : Node) : Option Nat :=
  ((d.bare? "int" n).bind unsigned?).filter (· < Nat.pow 2 64)

/-- The fields of a record, in order. The names have to be scalars. -/
def fields? (d : Document) (n : Node) : Option (List (String × Node)) :=
  match d.target? n with
  | some (.mapping _ members) =>
    members.mapM fun (key, value) => (d.text? key).map fun name => (name, value)
  | _ => none

/-- The nodes of the fields with the given name. -/
def nodesOf (fields : List (String × Node)) (name : String) : List Node :=
  (fields.filter (·.1 == name)).map (·.2)

/-- A field that has to be there, once. -/
def required? {α : Type} (read : Node → Option α) (fields : List (String × Node)) (name : String) :
    Option α :=
  match nodesOf fields name with
  | [n] => read n
  | _ => none

/-- A field that may be there, once. -/
def optional? {α : Type} (read : Node → Option α) (default : α) (fields : List (String × Node))
    (name : String) : Option α :=
  match nodesOf fields name with
  | [] => some default
  | [n] => read n
  | _ => none

end Document

end UserDirectory.Yaml
