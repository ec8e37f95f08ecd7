import UserDirectory.Yaml.Document

/-!
# UserDirectory — configuration

Which part of the tree is served, where its users document is, and how often it is looked at. The
configuration is read from a YAML record. Reloading may be left out as a whole, but not in part;
fields that are not known are passed over.
-/

namespace UserDirectory

/-- When the users document is looked at again. -/
structure Reloading where
  /-- Whether changes of the document are looked for at all. -/
  enabled : Bool := true
  /-- The seconds between two looks, as they are configured. -/
  interval : Nat := 10
  deriving DecidableEq, Repr

/-- The seconds between two looks: never zero. -/
def Reloading.period (r : Reloading) : Nat := max r.interval 1

theorem Reloading.period_pos (r : Reloading) : 0 < r.period := Nat.le_max_right r.interval 1

/-- The configuration of a directory. -/
structure Config where
  /-- The name under which all names that are served lie. -/
  baseDn : String
  /-- The path of the users document. -/
  usersFile : String
  reloading : Reloading := {}
  deriving DecidableEq, Repr

open Yaml

/-- The settings for reloading in a node of a document. -/
def Reloading.ofNode? (d : Document) (n : Node) : Option Reloading :=
  match d.fields? n with
  | none => none
  | some fields =>
    match Document.required? d.bool? fields "enabled",
      Document.required? d.word? fields "interval" with
    | some enabled, some interval => some ⟨enabled, interval⟩
    | _, _ => none

/-- The configuration in a document. -/
def Config.ofDocument? (d : Document) : Option Config :=
  match d.fields? d.root with
  | none => none
  | some fields =>
    match Document.required? d.text? fields "base_dn",
      Document.required? d.text? fields "users_file",
      Document.optional? (Reloading.ofNode? d) {} fields "reload" with
    | some baseDn, some usersFile, some reloading => some ⟨baseDn, usersFile, reloading⟩
    | _, _, _ => none

/-- The configuration that a text holds. -/
def Config.read? (source : String) : Option Config :=
  match readDocument? source with
  | some (some d) => Config.ofDocument? d
  | _ => none

end UserDirectory
