import UserDirectory.Session

/-!
# UserDirectory — what a step loads

A step of a session may set out to load a users document: `load` has its text, `reload` reads it
from the file, and a tick reads it from the file if a poll finds that the file has changed. What
comes of it is either a new snapshot or no change at all, and it depends on the text and on the
second at which the load is made alone.

However often the watch wakes up in a tick, only its first poll can find a new stamp: the file does
not change while time passes, so all further polls find the stamp that the first one has seen.

## Results

* `Directory.load_eq`, `Directory.reload_eq` — a load publishes the entries of its text.
* `Session.directory_advance`                — what time that passes does to the directory.
* `Session.step_directory`                   — a step changes the directory by what it loads only.
* `Session.kept_prefix_step`                 — a step leaves kept snapshots as they are.
-/

namespace UserDirectory

theorem isOk_iff {ε α : Type} {r : Except ε α} : r.isOk = true ↔ ∃ a, r = .ok a := by
  cases r <;> simp [Except.isOk, Except.toBool]

-- ---------------------------------------------------------------------------
-- The entries of a text
-- ---------------------------------------------------------------------------

namespace Users

/-- The entries of the users document with the given text. -/
def loadText (salt : Password.Salt) (source : String) : Except LoadError (List Entry) :=
  match Yaml.valueOf? source with
  | none => .error .notYaml
  | some document => (load salt document).mapError .malformed

/-- The entries of a users document that was to be read. -/
def loadRead (salt : Password.Salt) : Except FileError String → Except LoadError (List Entry)
  | .error cause => .error (.unreadable cause)
  | .ok source => loadText salt source

end Users

/-- A file that was written as text gives this text. -/
theorem UsersFile.read_toUTF8 (content : String) (modified : Int) :
    (UsersFile.file content.toUTF8 modified).read = .ok content := by
  have htext : String.fromUTF8? content.toUTF8 = some content := dif_pos content.isValidUTF8
  unfold UsersFile.read
  simp only [htext]

/-- What is set out to be loaded: the second at which it is, and what there is to be read. -/
structure Attempt where
  time : Nat
  source : Except FileError String

namespace Directory

/-- The directory with the entries as its next snapshot. -/
def publish (d : Directory) (now : Nat) (entries : List Entry) : Directory :=
  { d with snapshot := d.snapshot.publish now entries }

/-- The directory after an attempt to load a users document: if it fails, the directory is left as
it is. -/
def attempt (salt : Password.Salt) (d : Directory) (a : Attempt) : Directory :=
  match Users.loadRead salt a.source with
  | .error _ => d
  | .ok entries => d.publish a.time entries

/-- A load publishes the entries of its text. -/
theorem load_eq (salt : Password.Salt) (now : Nat) (d : Directory) (source : String) :
    d.load salt now source = (Users.loadText salt source).map (d.publish now) := by
  unfold Directory.load Users.loadText
  cases Yaml.valueOf? source with
  | none => rfl
  | some document =>
    cases h : Users.load salt document <;> simp only [h] <;> rfl

/-- A reload publishes the entries of the text that the file has. -/
theorem reload_eq (salt : Password.Salt) (now : Nat) (d : Directory) (file : UsersFile) :
    d.reload salt now file = (Users.loadRead salt file.read).map (d.publish now) := by
  unfold Directory.reload
  cases file.read with
  | error cause => rfl
  | ok source => exact load_eq salt now d source

theorem attempt_of_ok {salt : Password.Salt} {a : Attempt} {entries : List Entry} (d : Directory)
    (h : Users.loadRead salt a.source = .ok entries) :
    d.attempt salt a = d.publish a.time entries := by
  simp only [attempt, h]

/-- An attempt that fails leaves the directory as it is, the time of its last load included. -/
theorem attempt_of_error {salt : Password.Salt} {a : Attempt} {e : LoadError} (d : Directory)
    (h : Users.loadRead salt a.source = .error e) : d.attempt salt a = d := by
  simp only [attempt, h]

theorem config_attempt (salt : Password.Salt) (d : Directory) (a : Attempt) :
    (d.attempt salt a).config = d.config := by
  unfold attempt
  cases Users.loadRead salt a.source <;> rfl

end Directory

-- ---------------------------------------------------------------------------
-- Loads
-- ---------------------------------------------------------------------------

namespace Session

/-- Load a users document that was to be read. -/
def loadFrom (s : Session) (source : Except FileError String) : Session × Answer :=
  ({ s with directory := s.directory.attempt s.salt ⟨s.now, source⟩ },
    .loaded ((Users.loadRead s.salt source).map List.length))

/-- When a load has been settled, the answer tells how many entries there are, or what was wrong. -/
theorem settle_map_publish (s : Session) (source : Except FileError String) :
    s.settle ((Users.loadRead s.salt source).map (s.directory.publish s.now)) =
      s.loadFrom source := by
  unfold loadFrom Directory.attempt
  cases Users.loadRead s.salt source <;> rfl

/-- To load a text is to load what a file with this text would give. -/
theorem step_load (s : Session) (source : String) :
    s.step (.load source) = s.loadFrom (.ok source) := by
  show s.settle (s.directory.load s.salt s.now source) = _
  rw [Directory.load_eq]
  exact settle_map_publish s (.ok source)

/-- To reload is to load what the file gives. -/
theorem reload_eq_loadFrom (s : Session) : s.reload = s.loadFrom s.file.read := by
  unfold Session.reload
  rw [Directory.reload_eq, settle_map_publish]

theorem step_reload (s : Session) : s.step .reload = s.loadFrom s.file.read :=
  reload_eq_loadFrom s

-- ---------------------------------------------------------------------------
-- Polls
-- ---------------------------------------------------------------------------

/-- A poll changes nothing but the directory, and that only if it finds another stamp than the watch
saw last. Then the watch sleeps for a period. -/
theorem poll_eq (s : Session) (w : Watch) :
    s.poll w = { s with
      directory := if s.file.stamp? = w.lastSeen then s.directory
        else s.directory.attempt s.salt ⟨s.now, s.file.read⟩
      watch? := some s.asleep } := by
  unfold poll
  rw [reload_eq_loadFrom]
  split <;> rfl

/-- A watch that wakes up loads the file if it finds a new stamp, at the second at which it wakes
up. -/
theorem directory_wake (s : Session) (w : Watch) :
    (s.wake w).directory = if s.file.stamp? = w.lastSeen then s.directory
      else s.directory.attempt s.salt ⟨w.wakesAt, s.file.read⟩ := by
  rw [wake, poll_eq]

/-- A watch that wakes up changes nothing but the directory, the time and what it has seen. -/
theorem wake_eq (s : Session) (w : Watch) :
    s.wake w = { s with
      directory := (s.wake w).directory
      now := w.wakesAt
      watch? := some ⟨w.wakesAt + s.period, s.file.stamp?⟩ } := by
  rw [wake, poll_eq]
  rfl

/-- A watch that has woken up sleeps for a period, and knows the stamp that the file has. -/
@[simp] theorem watch?_wake (s : Session) (w : Watch) :
    (s.wake w).watch? = some ⟨w.wakesAt + s.period, s.file.stamp?⟩ := by
  rw [wake_eq]

@[simp] theorem now_wake (s : Session) (w : Watch) : (s.wake w).now = w.wakesAt := by
  rw [wake_eq]

@[simp] theorem file_wake (s : Session) (w : Watch) : (s.wake w).file = s.file := by
  rw [wake_eq]

@[simp] theorem salt_wake (s : Session) (w : Watch) : (s.wake w).salt = s.salt := by
  rw [wake_eq]

@[simp] theorem kept_wake (s : Session) (w : Watch) : (s.wake w).kept = s.kept := by
  rw [wake_eq]

/-- The period stays what it is, as no attempt touches the configuration. -/
@[simp] theorem period_wake (s : Session) (w : Watch) : (s.wake w).period = s.period := by
  unfold period
  rw [directory_wake]
  split
  · rfl
  · rw [Directory.config_attempt]

-- ---------------------------------------------------------------------------
-- Time that passes
-- ---------------------------------------------------------------------------

/-- Whether no watch wakes up before the given second is over. -/
def SleepsUntil (s : Session) (later : Nat) : Prop := ∀ w, s.watch? = some w → later < w.wakesAt

theorem sleepsUntil_of_lt {s : Session} {w : Watch} {later : Nat} (hwatch : s.watch? = some w)
    (h : later < w.wakesAt) : s.SleepsUntil later := by
  intro w' hw'
  cases hwatch.symm.trans hw'
  exact h

/-- Either nothing wakes up before the second is over, or there is a watch that does. -/
theorem sleepsUntil_or_due (s : Session) (later : Nat) :
    s.SleepsUntil later ∨ ∃ w, s.watch? = some w ∧ w.wakesAt ≤ later := by
  cases hwatch : s.watch? with
  | none => exact .inl fun w hw => absurd (hwatch.symm.trans hw) nofun
  | some w =>
    rcases Nat.lt_or_ge later w.wakesAt with hlt | hdue
    · exact .inl (sleepsUntil_of_lt hwatch hlt)
    · exact .inr ⟨w, rfl, hdue⟩

/-- As long as nothing wakes up, time does nothing but pass. -/
theorem advance_of_sleepsUntil {s : Session} {later : Nat} (h : s.SleepsUntil later) :
    s.advance later = { s with now := later } := by
  rw [advance]
  split
  · rfl
  · next w hwatch => exact if_neg (Nat.not_le_of_lt (h w hwatch))

/-- A watch that is due wakes up first, and time passes from there. -/
theorem advance_of_due {s : Session} {w : Watch} {later : Nat} (hwatch : s.watch? = some w)
    (hdue : w.wakesAt ≤ later) : s.advance later = (s.wake w).advance later := by
  rw [advance]
  split
  · next hnone => rw [hwatch] at hnone; contradiction
  · next w' hwatch' =>
    cases hwatch.symm.trans hwatch'
    exact if_pos hdue

/-- The induction along the time that passes: either nothing wakes up any more, or the watch does and
time passes from there. -/
theorem advance_induction (later : Nat) {motive : Session → Prop}
    (sleeps : ∀ s, s.SleepsUntil later → motive s)
    (wakes : ∀ s w, s.watch? = some w → w.wakesAt ≤ later → motive (s.wake w) → motive s)
    (s : Session) : motive s := by
  induction s using advance.induct later with
  -- without a watch nothing ever wakes up
  | case1 s hwatch => exact sleeps s fun w hw => absurd (hwatch.symm.trans hw) nofun
  | case2 s w hwatch hdue ih => exact wakes s w hwatch hdue ih
  | case3 s w hwatch hdue => exact sleeps s (sleepsUntil_of_lt hwatch (Nat.lt_of_not_le hdue))

/-- Time that passes changes nothing but the directory, the time and what the watch has seen. -/
theorem advance_eq (s : Session) (later : Nat) :
    s.advance later = { s with
      directory := (s.advance later).directory
      now := later
      watch? := (s.advance later).watch? } := by
  induction s using advance_induction later with
  | sleeps s hsleeps => rw [advance_of_sleepsUntil hsleeps]
  | wakes s w hwatch hdue ih =>
    rw [advance_of_due hwatch hdue, ih]
    simp only [file_wake, salt_wake, kept_wake]

/-- A watch goes on however much time passes, and none is started. -/
theorem isSome_watch?_advance (s : Session) (later : Nat) :
    (s.advance later).watch?.isSome = s.watch?.isSome := by
  induction s using advance_induction later with
  | sleeps s hsleeps => rw [advance_of_sleepsUntil hsleeps]
  | wakes s w hwatch hdue ih =>
    rw [advance_of_due hwatch hdue, ih, watch?_wake, hwatch]
    rfl

/-- Whether a watch that is running has seen the stamp that the file has. -/
def KnowsFile (s : Session) : Prop := ∀ w, s.watch? = some w → s.file.stamp? = w.lastSeen

theorem knowsFile_of_watch?_eq_none {s : Session} (h : s.watch? = none) : s.KnowsFile := by
  simp [KnowsFile, h]

/-- After a poll the stamp of the file is known. -/
theorem knowsFile_wake (s : Session) (w : Watch) : (s.wake w).KnowsFile := by
  intro w' hw'
  rw [watch?_wake] at hw'
  cases hw'
  rw [file_wake]

/-- A poll that finds the stamp that is known leaves the directory alone. -/
theorem KnowsFile.directory_wake {s : Session} {w : Watch} (h : s.KnowsFile)
    (hwatch : s.watch? = some w) : (s.wake w).directory = s.directory := by
  rw [Session.directory_wake, if_pos (h w hwatch)]

/-- As long as the file does not change, no poll finds a new stamp, and the directory stays as it
is. -/
theorem KnowsFile.directory_advance {s : Session} (h : s.KnowsFile) (later : Nat) :
    (s.advance later).directory = s.directory := by
  induction s using advance_induction later with
  | sleeps s hsleeps => rw [advance_of_sleepsUntil hsleeps]
  | wakes s w hwatch hdue ih =>
    rw [advance_of_due hwatch hdue, ih (knowsFile_wake s w), h.directory_wake hwatch]

/-- What a watch knows of the file it still knows later, as the file does not change while time
passes. -/
theorem KnowsFile.advance {s : Session} (h : s.KnowsFile) (later : Nat) :
    (s.advance later).KnowsFile := by
  induction s using advance_induction later with
  | sleeps s hsleeps =>
    rw [advance_of_sleepsUntil hsleeps]
    exact h
  | wakes s w hwatch hdue ih =>
    rw [advance_of_due hwatch hdue]
    exact ih (knowsFile_wake s w)

/-- The first poll that is due loads the file if it finds a new stamp. The others find the stamp that
the first one has seen. -/
theorem directory_advance {s : Session} {w : Watch} (hwatch : s.watch? = some w) (later : Nat) :
    (s.advance later).directory =
      if w.wakesAt ≤ later then (s.wake w).directory else s.directory := by
  -- the first poll makes the stamp known, so only that poll can load anything
  by_cases hdue : w.wakesAt ≤ later
  · rw [if_pos hdue, advance_of_due hwatch hdue, (knowsFile_wake s w).directory_advance]
  · have hsleeps := sleepsUntil_of_lt hwatch (Nat.lt_of_not_le hdue)
    rw [if_neg hdue, advance_of_sleepsUntil hsleeps]

-- ---------------------------------------------------------------------------
-- One step
-- ---------------------------------------------------------------------------

/-- What a step sets out to load, if anything. A tick does so if a poll is due in it and the file
has another stamp than the watch saw last. -/
def attempt? (s : Session) : Step → Option Attempt
  | .load source => some ⟨s.now, .ok source⟩
  | .reload => some ⟨s.now, s.file.read⟩
  | .tick seconds =>
    match s.watch? with
    | none => none
    | some w =>
      if w.wakesAt ≤ s.now + seconds ∧ s.file.stamp? ≠ w.lastSeen then
        some ⟨w.wakesAt, s.file.read⟩
      else none
  | _ => none

/-- A step changes the directory by what it set out to load, and by nothing else. -/
theorem step_directory (s : Session) (t : Step) :
    (s.step t).1.directory = match s.attempt? t with
      | none => s.directory
      | some a => s.directory.attempt s.salt a := by
  cases t with
  | load source => rw [step_load, loadFrom, attempt?]
  | reload => rw [step_reload, loadFrom, attempt?]
  | tick seconds =>
    show (s.tick seconds).directory = _
    unfold tick attempt?
    cases hwatch : s.watch? with
    | none => exact (knowsFile_of_watch?_eq_none hwatch).directory_advance _
    | some w =>
      rw [directory_advance hwatch, directory_wake]
      -- a poll has to be due, and it has to find a new stamp
      by_cases hdue : w.wakesAt ≤ s.now + seconds
      · by_cases hseen : s.file.stamp? = w.lastSeen
        · simp [hdue, hseen]
        · simp [hdue, hseen]
      · simp [hdue]
  | _ => rfl

/-- A tick changes nothing but the directory, the time and what the watch has seen. -/
theorem tick_eq (s : Session) (seconds : Nat) :
    s.tick seconds = { s with
      directory := (s.tick seconds).directory
      now := s.now + seconds
      watch? := (s.tick seconds).watch? } :=
  advance_eq s (s.now + seconds)

/-- All passwords of a session are encoded with its salt. -/
theorem salt_step (s : Session) (t : Step) : (s.step t).1.salt = s.salt := by
  cases t with
  | load source => rw [step_load, loadFrom]
  | reload => rw [step_reload, loadFrom]
  | tick seconds =>
    show (s.tick seconds).salt = s.salt
    rw [tick_eq]
  | _ => rfl

/-- Nothing but `hold` keeps a snapshot. -/
theorem kept_step_of_ne_hold {t : Step} (s : Session) (h : t ≠ .hold) :
    (s.step t).1.kept = s.kept := by
  cases t with
  | hold => exact absurd rfl h
  | load source => rw [step_load, loadFrom]
  | reload => rw [step_reload, loadFrom]
  | tick seconds =>
    show (s.tick seconds).kept = s.kept
    rw [tick_eq]
  | _ => rfl

/-- Snapshots that were kept stay where and as they are. -/
theorem kept_prefix_step (s : Session) (t : Step) : s.kept <+: (s.step t).1.kept := by
  -- only `hold` adds a snapshot, and it adds it at the end
  by_cases h : t = .hold
  · subst h
    exact List.prefix_append _ _
  · refine ⟨[], ?_⟩
    rw [List.append_nil, kept_step_of_ne_hold s h]

end Session

end UserDirectory
