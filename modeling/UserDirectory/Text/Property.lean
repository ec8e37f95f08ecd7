import UserDirectory.Text.PropertyData
import UserDirectory.Text.CategoryData
import UserDirectory.Text.ScriptData
import UserDirectory.Text.AgeData
import UserDirectory.Text.BreakData

/-!
# UserDirectory — looking up character properties

A property of the Unicode standard is asked for by name, or by name and value. Names are compared
without regard to letter case, blanks, hyphens and underscores, and without a leading `is`. A name
alone may be that of a property, of a general category or of a script, in this order.
-/

namespace UserDirectory.Text

/-- The form in which names of properties are compared. Names are given in lower case. -/
def looseName (name : List Char) : String :=
  let keep (cs : List Char) := cs.filter fun c => c.toNat < 0x80 && c != ' ' && c != '_' && c != '-'
  match name with
  | 'i' :: 's' :: cs =>
    match keep cs with
    | ['c'] => "isc"
    | kept => String.ofList kept
  | cs => String.ofList (keep cs)

/-- The set of that name. -/
def CodedSet.find? (sets : List CodedSet) (name : String) : Option (List (Nat × Nat)) :=
  (sets.find? fun s => s.names.contains name).map fun s => decodeEdges s.edges

/-- The characters outside of the given ranges, which are in ascending order. -/
def outside (next : Nat) : List (Nat × Nat) → List (Nat × Nat)
  | [] => if next ≤ 0x10FFFF then [(next, 0x10FFFF)] else []
  | (a, b) :: rest => (if next < a then [(next, a - 1)] else []) ++ outside (b + 1) rest

/-- The characters of a general category, or of a group of them. -/
def categorySet? (name : String) : Option (List (Nat × Nat)) :=
  match name with
  | "any" => some [(0, 0x10FFFF)]
  | "ascii" => some [(0, 0x7F)]
  | "assigned" => (CodedSet.find? categories "cn").map (outside 0)
  | _ =>
    match categoryGroups.find? fun (names, _) => names.contains name with
    | some (_, members) => some (members.flatMap fun m => (CodedSet.find? categories m).getD [])
    | none => CodedSet.find? categories name

/-- The characters that belong to a script. -/
def scriptSet? (name : String) : Option (List (Nat × Nat)) :=
  (scripts.find? fun s => s.names.contains name).map fun s => decodeEdges s.members

/-- The characters that are used in a script. -/
def scriptExtensions? (name : String) : Option (List (Nat × Nat)) :=
  (scripts.find? fun s => s.names.contains name).map fun s =>
    decodeEdges (if s.users.isEmpty then s.members else s.users)

/-- The characters of the given edition or of one before it, where `older` are those of the editions
that have been passed by. -/
def ageSet? (name : String) (older : List (Nat × Nat)) : List CodedSet → Option (List (Nat × Nat))
  | [] => none
  | s :: sets =>
    let known := older ++ decodeEdges s.edges
    if s.names.contains name then some known else ageSet? name known sets

/-- The characters that a name alone stands for. -/
def namedSet? (name : List Char) : Option (List (Nat × Nat)) :=
  let name := looseName name
  (CodedSet.find? binaryProperties name).orElse fun _ =>
    (categorySet? name).orElse fun _ => scriptSet? name

/-- The characters for which the property has the value. -/
def valueSet? (property value : List Char) : Option (List (Nat × Nat)) :=
  let value := looseName value
  match looseName property with
  | "gc" | "generalcategory" => categorySet? value
  | "sc" | "script" => scriptSet? value
  | "scx" | "scriptextensions" => scriptExtensions? value
  | "age" => ageSet? value [] ages
  | "gcb" | "graphemeclusterbreak" => CodedSet.find? clusterParts value
  | "wb" | "wordbreak" => CodedSet.find? wordParts value
  | "sb" | "sentencebreak" => CodedSet.find? sentenceParts value
  | _ => none

end UserDirectory.Text
