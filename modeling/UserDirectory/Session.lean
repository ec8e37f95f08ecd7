import UserDirectory.Service

/-!
# UserDirectory — sessions

A directory in use: clients ask, documents are loaded, the file of the users document comes and
goes, and a watch polls it as time passes. A watch sleeps for a period, looks at the stamp of the
file, asks for a reload if it is another one than it saw last, and sleeps again. `Session.step` does
one step and gives its answer, and `Session.run` does any number of them.

The clock of a session counts seconds and moves in a tick only, so a load and a poll take no time.
Steps come one after the other: nothing is said of several threads that share a directory, of a load
that runs while another one does, or of a file that changes while it is read. Left out are what is
logged, the texts that the libraries for YAML and files have for their errors (their kinds are
there), a path whose time cannot be told, and the sizes at which machine numbers and timers run over.
-/

namespace UserDirectory

/-- A step of a session. -/
inductive Step where
  /-- Load a users document. -/
  | load (source : String)
  /-- Load the users document in the file. -/
  | reload
  /-- Put a file with this content at the path of the users document, with the time of its change. -/
  | write (content : ByteArray) (modified : Int)
  /-- Take away what is at the path of the users document. -/
  | remove
  /-- Put a directory at the path of the users document, with the time of its change and the size
  that is given for it. -/
  | makeDirectory (modified : Int) (size : Nat)
  | bind (dn password : String)
  | search (filter : Filter)
  | query (filter : String)
  | clientBind (dn password : String)
  | clientSearch (request : SearchRequest)
  | snapshot
  /-- Keep the snapshot. -/
  | hold
  /-- Look at a snapshot that was kept. -/
  | held (index : Nat)
  | config
  /-- Start a watch, which takes the place of the one that is running. -/
  | watch
  /-- Let some seconds pass. -/
  | tick (seconds : Nat)

/-- The answer to a step. -/
inductive Answer where
  | done
  | loaded (count : Except LoadError Nat)
  | bound (outcome : BindOutcome)
  | found (entries : Except FilterError (List Entry))
  | clientBound (result : LdapResult)
  | clientFound (answer : SearchAnswer)
  | snapshot (s : Snapshot)
  /-- The index under which a snapshot was kept. -/
  | kept (index : Nat)
  /-- The snapshot that was kept under an index. -/
  | held (s : Option Snapshot)
  | config (c : Config)
  /-- Whether a watch is running. -/
  | running (b : Bool)

/-- A running watch, which sleeps. -/
structure Watch where
  /-- The second at which it wakes up. -/
  wakesAt : Nat
  /-- The stamp that it saw last. -/
  lastSeen : Option Stamp
  deriving DecidableEq, Repr

/-- A directory in use. -/
structure Session where
  directory : Directory
  /-- The salt of the passwords that are encoded. A salt is drawn at random for each of them; one
  stands for all that are drawn in a session, and it may be any. -/
  salt : Password.Salt
  file : UsersFile := .absent
  /-- The snapshots that were kept. -/
  kept : List Snapshot := []
  /-- The seconds that have passed. -/
  now : Nat := 0
  watch? : Option Watch := none

namespace Session

/-- Put the directory that a load has made in the place of the present one, if there is one. -/
def settle (s : Session) : Except LoadError Directory → Session × Answer
  | .error e => (s, .loaded (.error e))
  | .ok d => ({ s with directory := d }, .loaded (.ok d.snapshot.entries.length))

/-- Load the users document in the file. -/
def reload (s : Session) : Session × Answer := s.settle (s.directory.reload s.salt s.now s.file)

-- ---------------------------------------------------------------------------
-- The watch
-- ---------------------------------------------------------------------------

/-- The seconds between two polls. -/
def period (s : Session) : Nat := s.directory.config.reloading.period

/-- A watch that has just seen the stamp of the file, and goes to sleep. -/
def asleep (s : Session) : Watch := ⟨s.now + s.period, s.file.stamp?⟩

/-- Look whether the file has another stamp than the watch saw last, and reload it then. Whether the
reload succeeds or not, the stamp counts as seen, and the watch goes to sleep again. -/
def poll (s : Session) (w : Watch) : Session :=
  let polled := if s.file.stamp? = w.lastSeen then s else s.reload.1
  { polled with watch? := some s.asleep }

/-- The watch wakes up when its second has come, and polls. -/
def wake (s : Session) (w : Watch) : Session := { s with now := w.wakesAt }.poll w

/-- How long it is from the next poll to the given second. -/
def remaining (s : Session) (later : Nat) : Nat :=
  match s.watch? with
  | none => 0
  | some w => later + 1 - w.wakesAt

theorem remaining_wake_lt {s : Session} {w : Watch} {later : Nat} (hwatch : s.watch? = some w)
    (hdue : w.wakesAt ≤ later) : (s.wake w).remaining later < s.remaining later := by
  have hpos : 0 < s.period := Reloading.period_pos _
  have hwake : (s.wake w).remaining later = later + 1 - (w.wakesAt + s.period) := rfl
  rw [hwake, remaining, hwatch]
  show later + 1 - (w.wakesAt + s.period) < later + 1 - w.wakesAt
  omega

/-- Let time pass until the given second. Whenever the second comes at which the watch wakes up, it
polls. -/
def advance (s : Session) (later : Nat) : Session :=
  match _ : s.watch? with
  | none => { s with now := later }
  | some w => if w.wakesAt ≤ later then (s.wake w).advance later else { s with now := later }
termination_by s.remaining later
decreasing_by exact remaining_wake_lt ‹_› ‹_›

/-- Let some seconds pass. -/
def tick (s : Session) (seconds : Nat) : Session := s.advance (s.now + seconds)

/-- Start a watch, if reloading is enabled. The stamp that the file has now is the first that it has
seen. -/
def startWatch (s : Session) : Session :=
  { s with watch? := if s.directory.config.reloading.enabled then some s.asleep else none }

-- ---------------------------------------------------------------------------
-- Steps
-- ---------------------------------------------------------------------------

/-- Do one step. -/
def step (s : Session) : Step → Session × Answer
  | .load source => s.settle (s.directory.load s.salt s.now source)
  | .reload => s.reload
  | .write content modified => ({ s with file := .file content modified }, .done)
  | .remove => ({ s with file := .absent }, .done)
  | .makeDirectory modified size => ({ s with file := .directory modified size }, .done)
  | .bind dn password => (s, .bound (s.directory.snapshot.bind dn password))
  | .search filter => (s, .found (.ok (s.directory.snapshot.search filter)))
  | .query filter => (s, .found (s.directory.snapshot.query filter))
  | .clientBind dn password => (s, .clientBound (s.directory.answerBind dn password))
  | .clientSearch request => (s, .clientFound (s.directory.answerSearch request))
  | .snapshot => (s, .snapshot s.directory.snapshot)
  | .hold => ({ s with kept := s.kept ++ [s.directory.snapshot] }, .kept s.kept.length)
  | .held index => (s, .held s.kept[index]?)
  | .config => (s, .config s.directory.config)
  | .watch =>
    let s := s.startWatch
    (s, .running s.watch?.isSome)
  | .tick seconds =>
    let s := s.tick seconds
    (s, .running s.watch?.isSome)

/-- Do the steps one after the other. -/
def run (s : Session) : List Step → Session × List Answer
  | [] => (s, [])
  | t :: ts =>
    let (s, answer) := s.step t
    let (s, answers) := s.run ts
    (s, answer :: answers)

end Session

end UserDirectory
