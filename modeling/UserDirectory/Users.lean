import UserDirectory.Entry
import UserDirectory.Password.Basic
import UserDirectory.Yaml.Value

/-!
# UserDirectory — users documents

A users document is a mapping with a list under the key `users`. Each record of the list that is a
mapping with a text under `dn` describes an entry: its other members are the attributes, with one
value or a list of values. What cannot be used is passed over: records without a name, members
whose key is no text or whose value is no scalar and no list, items of a list that are no scalars,
and passwords whose tag is not known. Of several records with one name the first counts.

Plain passwords are encoded here, so an entry never holds one.
-/

namespace UserDirectory.Users

open Yaml

/-- Why a document is no users document. -/
structure Malformed where
  reason : String
  deriving DecidableEq, Repr

/-- The message for a user. -/
def Malformed.message (e : Malformed) : String := "Malformed data: " ++ e.reason

/-- The document is no mapping or lacks the key `users`. -/
def Malformed.noUsers : Malformed := ⟨"missing 'users' list"⟩

/-- What stands under the key `users` is no list. -/
def Malformed.usersNotAList : Malformed := ⟨"'users' is not a list"⟩

-- ---------------------------------------------------------------------------
-- Attributes
-- ---------------------------------------------------------------------------

/-- The text of a scalar. Nothing, collections and values with a tag of their own have none. -/
def scalarText? : Value → Option String
  | .text s => some s
  | .number n => some n.render
  | .bool b => some (if b then "true" else "false")
  | _ => none

/-- The values of an attribute: one scalar, or the scalars of a list. -/
def valuesOf? : Value → Option (List String)
  | .sequence items => some (items.filterMap scalarText?)
  | v => (scalarText? v).map ([·])

/-- The name of the attribute that holds passwords. -/
def passwordAttribute : String := "userPassword"

/-- The passwords in the form in which they are stored, without those whose tag is not known. -/
def storedPasswords (salt : Password.Salt) (values : List String) : List String :=
  values.filterMap fun v => (Password.ingest salt v).toOption

/-- The attribute that a member of a record describes. -/
def attributeOf? (salt : Password.Salt) (key value : Value) : Option Attribute :=
  match key.text?, valuesOf? value with
  | some name, some values =>
    if name = "dn" then none
    else if sameName name passwordAttribute then some ⟨name, storedPasswords salt values⟩
    else some ⟨name, values⟩
  | _, _ => none

-- ---------------------------------------------------------------------------
-- Entries
-- ---------------------------------------------------------------------------

/-- The name of the entry that a record describes. -/
def dnOf? (record : Value) : Option String :=
  (record.members?.bind fun members => Value.lookup? members "dn").bind Value.text?

/-- The entry that a record describes. -/
def entryOf? (salt : Password.Salt) (record : Value) : Option Entry :=
  match record.members?, dnOf? record with
  | some members, some dn =>
    some ⟨dn, members.filterMap fun (key, value) => attributeOf? salt key value⟩
  | _, _ => none

/-- The entries without those whose name has occurred before. -/
def firstOfEachName : List Entry → List Entry
  | [] => []
  | e :: es => e :: (firstOfEachName es).filter (·.dn != e.dn)

/-- The entries that the records describe. -/
def entriesOf (salt : Password.Salt) (records : List Value) : List Entry :=
  firstOfEachName (records.filterMap (entryOf? salt))

/-- The records of a users document. -/
def recordsOf (document : Value) : Except Malformed (List Value) :=
  match document.members?.bind fun members => Value.lookup? members "users" with
  | none => .error .noUsers
  | some users =>
    match users.items? with
    | none => .error .usersNotAList
    | some records => .ok records

/-- The entries of a users document. -/
def load (salt : Password.Salt) (document : Value) : Except Malformed (List Entry) :=
  (recordsOf document).map (entriesOf salt)

end UserDirectory.Users
