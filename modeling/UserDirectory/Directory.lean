import UserDirectory.Config
import UserDirectory.Filter.Parser
import UserDirectory.Users
import UserDirectory.Yaml.Meaning

/-!
# UserDirectory — the directory

A directory has its configuration and the snapshot that was published last: the entries of one users
document, and what can be asked of them. A load puts the next snapshot in its place; if it fails,
the directory stays as it is. A snapshot never changes.

The users document may also be what is found at a path. A stamp tells one state of the path from
another, without reading.
-/

namespace UserDirectory

-- ---------------------------------------------------------------------------
-- The file of the users document
-- ---------------------------------------------------------------------------

/-- What is at the path of the users document. The time of the last change is that of the file
system, whose clock has nothing to do with that of a session. -/
inductive UsersFile where
  | absent
  /-- A directory, with the time at which it was last changed and the size that is given for it. -/
  | directory (modified : Int) (size : Nat)
  /-- A file, with its content and the time at which it was last changed. -/
  | file (content : ByteArray) (modified : Int)

/-- Why there is nothing to be read. -/
inductive FileError where
  | notFound
  | isADirectory
  /-- The content is not text in UTF-8. -/
  | notText
  deriving DecidableEq, Repr

/-- What tells one state of the path from another: the time of the last change, and the size. -/
structure Stamp where
  modified : Int
  size : Nat
  deriving DecidableEq, Repr

namespace UsersFile

/-- The text of the file. -/
def read : UsersFile → Except FileError String
  | .absent => .error .notFound
  | .directory _ _ => .error .isADirectory
  | .file content _ =>
    match String.fromUTF8? content with
    | none => .error .notText
    | some text => .ok text

/-- The stamp of what is at the path; there is none if nothing is there. -/
def stamp? : UsersFile → Option Stamp
  | .absent => none
  | .directory modified size => some ⟨modified, size⟩
  | .file content modified => some ⟨modified, content.size⟩

end UsersFile

-- ---------------------------------------------------------------------------
-- Snapshots
-- ---------------------------------------------------------------------------

/-- The entries as one load has published them. -/
structure Snapshot where
  /-- The entries, in the order of the document. -/
  entries : List Entry := []
  /-- How many loads have succeeded up to this one. -/
  generation : Nat := 0
  /-- The second at which a load published this snapshot; there is none before the first load. -/
  loadedAt? : Option Nat := none
  deriving DecidableEq, Repr

/-- The answer to a client that wants to bind. It does not tell whether the name or the password
was wrong. -/
inductive BindOutcome where
  | success
  | invalidCredentials
  deriving DecidableEq, Repr

namespace Snapshot

/-- Whether a load has published this snapshot. -/
def loaded (s : Snapshot) : Bool := s.loadedAt?.isSome

/-- The snapshot that takes the place of this one when entries have been loaded. -/
def publish (s : Snapshot) (now : Nat) (entries : List Entry) : Snapshot :=
  ⟨entries, s.generation + 1, some now⟩

/-- Check a name and a password. The name has to be that of an entry to the letter. -/
def bind (s : Snapshot) (dn password : String) : BindOutcome :=
  match s.entries.find? (·.dn == dn) with
  | none => .invalidCredentials
  | some e =>
    if (e.values Users.passwordAttribute).any (Password.verifies · password) then .success
    else .invalidCredentials

/-- The entries that the filter finds, in order. -/
def search (s : Snapshot) (filter : Filter) : List Entry :=
  s.entries.filter fun e => filter.evaluate e

/-- The entries that the filter with the given text finds. -/
def query (s : Snapshot) (filter : String) : Except FilterError (List Entry) :=
  (Filter.parse filter).map s.search

end Snapshot

-- ---------------------------------------------------------------------------
-- Loads
-- ---------------------------------------------------------------------------

/-- Why a users document could not be loaded. -/
inductive LoadError where
  | unreadable (cause : FileError)
  | notYaml
  | malformed (cause : Users.Malformed)
  deriving DecidableEq, Repr

/-- A directory: at first with the snapshot that holds nothing. -/
structure Directory where
  config : Config
  snapshot : Snapshot := {}
  deriving DecidableEq, Repr

namespace Directory

/-- The directory with the entries of the given users document, as they are published at the second
`now`. -/
def load (salt : Password.Salt) (now : Nat) (d : Directory) (source : String) :
    Except LoadError Directory :=
  match Yaml.valueOf? source with
  | none => .error .notYaml
  | some document =>
    match Users.load salt document with
    | .error cause => .error (.malformed cause)
    | .ok entries => .ok { d with snapshot := d.snapshot.publish now entries }

/-- The directory with the entries of the users document in the file. -/
def reload (salt : Password.Salt) (now : Nat) (d : Directory) (file : UsersFile) :
    Except LoadError Directory :=
  match file.read with
  | .error cause => .error (.unreadable cause)
  | .ok source => d.load salt now source

end Directory

end UserDirectory
