import UserDirectory.Yaml.Token.Basic
import UserDirectory.Text.Basic

/-!
# UserDirectory — YAML nodes

The tree that the tokens of a document make: scalars as they are written, with their tags, and
references to anchored nodes. What the scalars mean is not decided here.

An alias refers to the node whose anchor of that name was opened last. Anchors are numbered by how
many names there were before, so an anchor that takes up a name again may share its number with the
next new one; then the one that is opened last counts for both.
-/

namespace UserDirectory.Yaml

open Text

/-- A node of a document. -/
inductive Node where
  | scalar (tag : Option Tag) (text : List Char) (style : Style)
  | sequence (tag : Option Tag) (items : List Node)
  | mapping (tag : Option Tag) (members : List (Node × Node))
  /-- A reference to the anchored node with this number. -/
  | alias (number : Nat)

/-- The node of which nothing is written. -/
def Node.blank : Node := .scalar none [] .plain

/-- What has been met on the way through a document. -/
structure Anchors where
  /-- The numbers of the names. -/
  numbers : List (List Char × Nat) := []
  /-- The number of different names. -/
  count : Nat := 0
  /-- The places at which the anchored nodes open, by number; the last one comes first. -/
  places : List (Nat × Nat) := []
  /-- The anchored nodes by their places. -/
  nodes : List (Nat × Node) := []
  /-- How many scalars, references, and starts and ends of collections there are. -/
  events : Nat := 0

namespace Anchors

/-- Go past a scalar, a reference, or the start or end of a collection. -/
def pass (a : Anchors) : Anchors := { a with events := a.events + 1 }

/-- Open a node here, which may be anchored. -/
def enter (a : Anchors) : Option (List Char) → Anchors
  | none => a
  | some name =>
    { a with
      numbers := (name, a.count) :: a.numbers
      count := if a.numbers.any (·.1 == name) then a.count else a.count + 1
      places := (a.count, a.events) :: a.places }

/-- Remember a node that was opened at `place`, if it is anchored. -/
def leave (a : Anchors) (anchor : Option (List Char)) (place : Nat) (n : Node) : Anchors :=
  if anchor.isSome then { a with nodes := (place, n) :: a.nodes } else a

/-- The number of a name. -/
def number? (a : Anchors) (name : List Char) : Option Nat :=
  (a.numbers.find? (·.1 == name)).map (·.2)

/-- The node with the given number. -/
def node? (a : Anchors) (number : Nat) : Option Node :=
  match a.places.find? (·.1 == number) with
  | none => none
  | some (_, place) => (a.nodes.find? (·.1 == place)).map (·.2)

end Anchors

-- ---------------------------------------------------------------------------
-- Tags and anchors of a node
-- ---------------------------------------------------------------------------

/-- What tags start with, by their handles. -/
abbrev Handles := List (List Char × Tag)

/-- The handles that need no directive. -/
def defaultHandles : Handles :=
  [(['!'], Tag.ofChars ['!']), (['!', '!'], Tag.ofChars "tag:yaml.org,2002:".toList)]

/-- What may stand before a node. -/
structure Properties where
  anchor : Option (List Char) := none
  tag : Option (List Char × Tag) := none

/-- Read the anchor and the tag of a node, in either order. -/
def propertiesAt : (ts : List Token) → Properties × Tail ts
  | .anchor name :: .tag h s :: ts =>
    (⟨some name, some (h, s)⟩, ⟨ts, by simp only [List.length_cons]; omega⟩)
  | .tag h s :: .anchor name :: ts =>
    (⟨some name, some (h, s)⟩, ⟨ts, by simp only [List.length_cons]; omega⟩)
  | .anchor name :: ts => (⟨some name, none⟩, ⟨ts, Nat.le_succ _⟩)
  | .tag h s :: ts => (⟨none, some (h, s)⟩, ⟨ts, Nat.le_succ _⟩)
  | ts => ({}, .whole ts)

/-- The whole tag of a node. There is no answer for a handle that is not known. -/
def Properties.resolve? (p : Properties) (handles : Handles) : Option (Option Tag) :=
  match p.tag with
  | none => some none
  | some ([], suffix) => some (some suffix)
  | some (handle, suffix) =>
    (handles.find? (·.1 == handle)).map fun (_, start) => some (start ++ suffix)

-- ---------------------------------------------------------------------------
-- Nodes
-- ---------------------------------------------------------------------------

/-- Whether nothing is written for the key or value of a block mapping before these tokens. -/
def endsBlockPart : List Token → Bool
  | .key :: _ | .value :: _ | .blockEnd :: _ => true
  | _ => false

/-- Whether nothing is written for an item of a block sequence before these tokens. -/
def endsBlockItem (indentless : Bool) : List Token → Bool
  | .blockEntry :: _ | .blockEnd :: _ => true
  | .key :: _ | .value :: _ => indentless
  | _ => false

/-- Whether nothing is written for the value of a member before these tokens, where `close` ends the
collection. -/
def endsFlowValue (close : Token) : List Token → Bool
  | .flowEntry :: _ => true
  | t :: _ => t == close
  | [] => false

/-- Whether nothing is written for the key of a member before these tokens. -/
def endsFlowKey (close : Token) : List Token → Bool
  | .value :: _ => true
  | ts => endsFlowValue close ts

/-- Pass over the comma before a member of a flow collection, which there must be unless it is the
first. -/
def flowStart (first : Bool) : (ts : List Token) → Option (Tail ts)
  | .flowEntry :: ts => if first then some (.whole _) else some ⟨ts, Nat.le_succ _⟩
  | ts => if first then some (.whole ts) else none

mutual

/-- Read a node. Block collections are let through if `block` is set, and sequences whose hyphens
are not indented if `indentless` is set. -/
def nodeAt (handles : Handles) (block indentless : Bool) (a : Anchors) (ts : List Token) :
    Option (Node × Anchors × Rest ts) :=
  match ts with
  | .alias name :: ts =>
    (a.number? name).map fun n => (.alias n, a.pass, ⟨ts, Nat.lt_succ_self _⟩)
  | ts =>
    let (props, ⟨body, hb⟩) := propertiesAt ts
    match props.resolve? handles with
    | none => none
    | some tag =>
      let place := a.events
      let a := a.enter props.anchor
      let finish (n : Node) (a : Anchors) (r : Rest ts) : Option (Node × Anchors × Rest ts) :=
        some (n, a.leave props.anchor place n, r)
      match body, hb with
      | .scalar text style :: r, hb =>
        finish (.scalar tag text style) a.pass ⟨r, Nat.lt_of_succ_le hb⟩
      | .flowSequenceStart :: r, hb =>
        have lt : r.length < ts.length := Nat.lt_of_succ_le hb
        match flowItems handles true a.pass r with
        | none => none
        | some (items, a, q) => finish (.sequence tag items) a.pass (.trans ⟨r, lt⟩ q)
      | .flowMappingStart :: r, hb =>
        have lt : r.length < ts.length := Nat.lt_of_succ_le hb
        match flowMembers handles true a.pass r with
        | none => none
        | some (members, a, q) => finish (.mapping tag members) a.pass (.trans ⟨r, lt⟩ q)
      | .blockSequenceStart :: r, hb =>
        have lt : r.length < ts.length := Nat.lt_of_succ_le hb
        if !block then none
        else
          match blockItems handles a.pass r with
          | none => none
          | some (items, a, q) => finish (.sequence tag items) a.pass (.trans ⟨r, lt⟩ q)
      | .blockMappingStart :: r, hb =>
        have lt : r.length < ts.length := Nat.lt_of_succ_le hb
        if !block then none
        else
          match blockMembers handles a.pass r with
          | none => none
          | some (members, a, q) => finish (.mapping tag members) a.pass (.trans ⟨r, lt⟩ q)
      | r, _le =>
        if indentless && r.head? == some .blockEntry then
          match indentlessItems handles a.pass r with
          | none => none
          | some (items, a, ⟨q, _⟩) =>
            if lt : q.length < ts.length then finish (.sequence tag items) a.pass ⟨q, lt⟩ else none
        else if lt : r.length < ts.length then finish (.scalar tag [] .plain) a.pass ⟨r, lt⟩
        else none
termination_by 2 * ts.length + 1
decreasing_by
  · exact Nat.lt_succ_of_le (Nat.mul_le_mul_left 2 lt)
  · exact Nat.lt_succ_of_le (Nat.mul_le_mul_left 2 lt)
  · exact Nat.lt_succ_of_lt (Nat.mul_lt_mul_of_pos_left lt Nat.two_pos)
  · exact Nat.lt_succ_of_lt (Nat.mul_lt_mul_of_pos_left lt Nat.two_pos)
  · exact Nat.lt_succ_of_le (Nat.mul_le_mul_left 2 _le)

/-- Read the items of a block sequence and its end. -/
def blockItems (handles : Handles) (a : Anchors) (ts : List Token) :
    Option (List Node × Anchors × Rest ts) :=
  match ts with
  | .blockEnd :: ts => some ([], a, ⟨ts, Nat.lt_succ_self _⟩)
  | .blockEntry :: ts =>
    let first : Option (Node × Anchors × Tail ts) :=
      if endsBlockItem false ts then some (.blank, a.pass, .whole ts)
      else (nodeAt handles true false a ts).map fun (n, a, r) => (n, a, r.toTail)
    match first with
    | none => none
    | some (n, a, ⟨r, hr⟩) =>
      (blockItems handles a r).map fun (items, a, q) =>
        (n :: items, a, .ofTail ⟨r, Nat.le_succ_of_le hr⟩ q)
  | _ => none
termination_by 2 * ts.length

/-- Read the items of a sequence whose hyphens are not indented. -/
def indentlessItems (handles : Handles) (a : Anchors) (ts : List Token) :
    Option (List Node × Anchors × Tail ts) :=
  match ts with
  | .blockEntry :: ts =>
    let first : Option (Node × Anchors × Tail ts) :=
      if endsBlockItem true ts then some (.blank, a.pass, .whole ts)
      else (nodeAt handles true false a ts).map fun (n, a, r) => (n, a, r.toTail)
    match first with
    | none => none
    | some (n, a, ⟨r, hr⟩) =>
      (indentlessItems handles a r).map fun (items, a, q) =>
        (n :: items, a, .trans ⟨r, Nat.le_succ_of_le hr⟩ q)
  | ts => some ([], a, .whole ts)
termination_by 2 * ts.length

/-- Read the members of a block mapping and its end. -/
def blockMembers (handles : Handles) (a : Anchors) (ts : List Token) :
    Option (List (Node × Node) × Anchors × Rest ts) :=
  match ts with
  | .blockEnd :: ts => some ([], a, ⟨ts, Nat.lt_succ_self _⟩)
  | .key :: ts =>
    let key : Option (Node × Anchors × Tail ts) :=
      if endsBlockPart ts then some (.blank, a.pass, .whole ts)
      else (nodeAt handles true true a ts).map fun (n, a, r) => (n, a, r.toTail)
    match key with
    | none => none
    | some (k, a, ⟨r, hr⟩) =>
      let value : Option (Node × Anchors × Tail r) :=
        match r, hr with
        | .value :: q, hr =>
          have := hr
          if endsBlockPart q then some (.blank, a.pass, ⟨q, Nat.le_succ _⟩)
          else (nodeAt handles true true a q).map fun (n, a, p) => (n, a, (p.cons .value).toTail)
        | r, _ => some (.blank, a.pass, .whole r)
      match value with
      | none => none
      | some (v, a, ⟨q, hq⟩) =>
        have le : q.length ≤ ts.length := Nat.le_trans hq hr
        (blockMembers handles a q).map fun (members, a, p) =>
          ((k, v) :: members, a, .ofTail ⟨q, Nat.le_succ_of_le le⟩ p)
  | _ => none
termination_by 2 * ts.length
decreasing_by all_goals (try simp only [List.length_cons] at *); omega

/-- Read the items of a flow sequence and its end; `first` tells whether none has been read. A pair
of key and value among the items is a mapping of its own. -/
def flowItems (handles : Handles) (first : Bool) (a : Anchors) (ts : List Token) :
    Option (List Node × Anchors × Rest ts) :=
  match ts with
  | .flowSequenceEnd :: ts => some ([], a, ⟨ts, Nat.lt_succ_self _⟩)
  | ts =>
    match flowStart first ts with
    | none => none
    | some ⟨body, hb⟩ =>
      match body, hb with
      | .flowSequenceEnd :: r, h => some ([], a, ⟨r, Nat.lt_of_succ_le h⟩)
      | .key :: r, h =>
        have lt : r.length < ts.length := Nat.lt_of_succ_le h
        match flowPair handles a.pass r with
        | none => none
        | some (k, v, a, ⟨q, hq⟩) =>
          have lt' : q.length < ts.length := Nat.lt_of_le_of_lt hq lt
          (flowItems handles false a.pass q).map fun (items, a, p) =>
            (.mapping none [(k, v)] :: items, a, .trans ⟨q, lt'⟩ p)
      | r, h =>
        match nodeAt handles false false a r with
        | none => none
        | some (n, a, ⟨q, hq⟩) =>
          have lt : q.length < ts.length := Nat.lt_of_lt_of_le hq h
          (flowItems handles false a q).map fun (items, a, p) => (n :: items, a, .trans ⟨q, lt⟩ p)
termination_by 2 * ts.length + 2
decreasing_by all_goals (try simp only [List.length_cons] at *); omega

/-- Read a pair of key and value in a flow sequence. If no key is written, the token behind it is
passed over. -/
def flowPair (handles : Handles) (a : Anchors) (ts : List Token) :
    Option (Node × Node × Anchors × Tail ts) :=
  let key : Option (Node × Anchors × Tail ts) :=
    if endsFlowKey .flowSequenceEnd ts then
      some (.blank, a.pass, ⟨ts.tail, by simp only [List.length_tail]; omega⟩)
    else (nodeAt handles false false a ts).map fun (n, a, r) => (n, a, r.toTail)
  match key with
  | none => none
  | some (k, a, ⟨r, hr⟩) =>
    match r, hr with
    | .value :: q, hr =>
      have lt : q.length < ts.length := Nat.lt_of_succ_le hr
      if endsFlowValue .flowSequenceEnd q then some (k, .blank, a.pass, ⟨q, Nat.le_of_lt lt⟩)
      else
        (nodeAt handles false false a q).map fun (v, a, p) =>
          (k, v, a, (Rest.trans ⟨q, lt⟩ p).toTail)
    | r, hr => some (k, .blank, a.pass, ⟨r, hr⟩)
termination_by 2 * ts.length + 2

/-- Read the members of a flow mapping and its end; `first` tells whether none has been read. -/
def flowMembers (handles : Handles) (first : Bool) (a : Anchors) (ts : List Token) :
    Option (List (Node × Node) × Anchors × Rest ts) :=
  match ts with
  | .flowMappingEnd :: ts => some ([], a, ⟨ts, Nat.lt_succ_self _⟩)
  | ts =>
    match flowStart first ts with
    | none => none
    | some ⟨body, hb⟩ =>
      match body, hb with
      | .flowMappingEnd :: r, h => some ([], a, ⟨r, Nat.lt_of_succ_le h⟩)
      | .key :: r, h =>
        have lt : r.length < ts.length := Nat.lt_of_succ_le h
        let key : Option (Node × Anchors × Tail r) :=
          if endsFlowKey .flowMappingEnd r then some (.blank, a.pass, .whole r)
          else (nodeAt handles false false a r).map fun (n, a, q) => (n, a, q.toTail)
        match key with
        | none => none
        | some (k, a, ⟨q, hq⟩) =>
          let value : Option (Node × Anchors × Tail q) :=
            match q, hq with
            | .value :: p, hq =>
              have := hq
              if endsFlowValue .flowMappingEnd p then some (.blank, a.pass, ⟨p, Nat.le_succ _⟩)
              else (nodeAt handles false false a p).map fun (n, a, o) => (n, a, (o.cons .value).toTail)
            | q, _ => some (.blank, a.pass, .whole q)
          match value with
          | none => none
          | some (v, a, ⟨p, hp⟩) =>
            have lt' : p.length < ts.length := Nat.lt_of_le_of_lt (Nat.le_trans hp hq) lt
            (flowMembers handles false a p).map fun (members, a, o) =>
              ((k, v) :: members, a, .trans ⟨p, lt'⟩ o)
      | r, h =>
        match nodeAt handles false false a r with
        | none => none
        | some (k, a, ⟨q, hq⟩) =>
          have lt : q.length < ts.length := Nat.lt_of_lt_of_le hq h
          (flowMembers handles false a.pass q).map fun (members, a, p) =>
            ((k, .blank) :: members, a, .trans ⟨q, lt⟩ p)
termination_by 2 * ts.length + 2
decreasing_by all_goals (try simp only [List.length_cons] at *); omega

end

end UserDirectory.Yaml
